import DebugBridge.Proofs.Adapter.Forwarding
import DebugBridge.Proofs.Adapter.Sessions
import DebugBridge.Proofs.Adapter.Termination

/-!
# What is owed to the editor and to the server, in pieces

A request to disconnect is read as the request loop begins to leave, and answered some steps later. Until then it is due:
the request loop owes the response. Everything else is as it is where leaving is one step. All requests are answered,
`requests_are_answered_in_pieces`, and a session's server is asked what they come to, `requests_are_passed_on_in_pieces`.
-/

namespace DebugBridge.Adapter

open Debugger (Session)

/-- As it takes something from the inbox, a relay writes nothing. -/
theorem Launched.hear_writes {launch heard : Launched} {kept : Bool} {lines : List Line} {effects : List ServerEffect}
    (hhear : launch.hear kept = some (heard, lines, effects)) (session : Nat) :
    Server.writesOf session effects = [] := by
  unfold hear at hhear
  split at hhear
  · cases hhear
  · obtain ⟨⟨delivery, inbox⟩, -, hhear⟩ := Option.map_eq_some_iff.1 hhear
    cases delivery with
    | lagged lost =>
      cases hhear
      rfl
    | notification notification =>
      cases notification with
      | debug payload =>
        cases kept with
        | true =>
          cases hhear
          rfl
        | false =>
          cases hhear
          rfl
      | _ =>
        cases hhear
        rfl

namespace Server

variable {s : Server}

theorem say_proceeds (hnamed : Named s) (line : Line) : Proceeds s [] (s.say line) := by
  cases line with
  | news news => exact tell_proceeds hnamed (newsEvent news).1 (some (newsEvent news).2)
  | output category text => exact output_proceeds hnamed category text
  | terminated => exact terminate_proceeds hnamed

theorem say_writes (s : Server) (line : Line) (session : Nat) : writesOf session (s.say line).2 = [] := by
  cases line with
  | terminated => exact terminate_writes s session
  | _ => rfl

/-- A relay that takes something from the inbox lets the session take note of it. -/
theorem hears_aside {session other : Nat} {clean : Prop} {launch heard : Launched} {kept : Bool} {lines : List Line}
    {effects : List ServerEffect} (hfound : Assoc.find? other s.launches = some launch)
    (hhears : launch.Hears kept heard lines) (hsilent : ∀ session, writesOf session effects = []) :
    Aside s session clean (s.setLaunch other heard, effects) := by
  cases hhears with
  | lagged | tidings | stops | gone => exact aside_of_same (setLaunch_sessions hfound rfl) hsilent
  | @news payload rest =>
    refine ⟨other, fun inner => ({ inner with state := (inner.state.handleEvent payload).2 }, []), ?_, ?_⟩
    · refine ⟨rfl, rfl, fun _ => id, ?_, fun session hne => ?_, ?_, fun session _ => hsilent session⟩
      · simp [inner?, setLaunch, hfound, Assoc.find?_insert_self]
      · simp [inner?, setLaunch, Assoc.find?_insert_of_ne hne]
      · rw [hsilent]
        simp [inner?, hfound, Session.writes, Debugger.linked, Connection.writes]
    · intro _ inner _ _ _ _ _ _ hposts
      have hsame : (inner.state.handleEvent payload).2.breakpoints = inner.state.breakpoints := by
        rw [Debugger.State.handleEvent_eq]
      exact ⟨Session.Posts.silent (hposts.learn hsame) rfl, rfl⟩

/-- What is made of pieces is no turn of a request. -/
theorem turn?_of_inPieces {m : Move} (hpieces : m.inPieces = true) : s.turn? m = none := by
  have hnone : s.errand? m = none := by
    cases m with
    | step action => cases action <;> first | rfl | cases hpieces
    | _ => cases hpieces
  simp [turn?, hnone]

theorem entrusts?_of_inPieces {m : Move} (hpieces : m.inPieces = true) : s.entrusts? m = none := by
  cases hentry : s.entrusts? m with
  | none => rfl
  | some entry =>
    obtain ⟨rfl, -, hkind, -⟩ := entrusts?_cases hentry
    -- Among requests, only the one to disconnect is made of pieces.
    have hcommand : entry.2.command = "disconnect" := by
      by_contra hother
      have hdeparts : (Move.step (.receive entry.2)).departs? = none := if_neg fun h => hother h.2
      simp [Move.inPieces, hdeparts] at hpieces
    rw [entrusts?_receive, Command.of_eq_disconnect.2 hcommand] at hentry
    split at hentry <;> cases hentry

end Server

namespace Strands

open Server (Faithful Leads Live Named PassesOn Proceeds requestsRead responses writesOf)

/-- The moves among some steps. -/
def movesOf (steps : List Step) : List Server.Move :=
  steps.filterMap fun
    | .moves m => some m
    | _ => none

/-- The request that the request loop is to answer as it leaves. -/
def due (x : Strands) : List Message :=
  (x.leaving.bind (·.request?)).toList

section

variable {x y z : Strands} {step : Step} {result : Strands × List ServerEffect} {read read' : List Message}
  {effects effects' : List ServerEffect} {limit : Nat}

/-! ## Responses -/

/-- How a step accounts for the requests that it reads: the server answers them or leaves them to tasks, and the one to
disconnect is due until the request loop hands it over. -/
structure Accounts (x : Strands) (read : List Message) (result : Strands × List ServerEffect) : Prop where
  handed : ∃ taken, Server.Accounts x.server taken (result.1.server, result.2) ∧
    (taken ++ result.1.due).Perm (x.due ++ read)

theorem Accounts.append (hfirst : Accounts x read (y, effects)) (hsecond : Accounts y read' (z, effects')) :
    Accounts x (read ++ read') (z, effects ++ effects') := by
  obtain ⟨taken, haccounts, hdue⟩ := hfirst.handed
  obtain ⟨taken', haccounts', hdue'⟩ := hsecond.handed
  refine ⟨taken ++ taken', haccounts.append haccounts', ?_⟩
  rw [List.append_assoc, ← List.append_assoc x.due]
  refine (hdue'.append_left taken).trans ?_
  rw [← List.append_assoc]
  exact hdue.append_right read'

/-- A step reads nothing, and the request loop goes on to owe what it owes. -/
theorem Accounts.of_proceeds (hproceeds : Proceeds x.server [] (result.1.server, result.2))
    (hdue : result.1.due = x.due) : Accounts x [] result := by
  refine ⟨[], hproceeds.toAccounts, ?_⟩
  rw [hdue, List.nil_append, List.append_nil]

theorem depart_accounts (hnamed : Named x.server) (hquiet : x.leaving = none) (request : Option Message) :
    Accounts x request.toList (x.depart request) := by
  have hlogged : ∀ {s s' : Server} {effects : List ServerEffect}, Server.Accounts s [] (s', effects) →
      Server.Accounts s [] (s', (request.map fun request => Server.log .debug "request"
        [("seq", .number request.seq.toInt), ("command", .plain request.command)]).toList ++ effects) := by
    intro s s' effects haccounts
    cases request with
    | none => exact haccounts
    | some request => exact haccounts.log _
  have hnone : x.due = [] := by rw [due, hquiet]; rfl
  unfold depart
  cases hslot : x.server.slot with
  | none =>
    refine ⟨[], ?_, ?_⟩
    · have hstill := hlogged ((Proceeds.refl hnamed).toAccounts.ends (some (.ok ())))
      rwa [List.append_nil] at hstill
    · rw [hnone]
      cases request <;> exact .refl _
  | some session =>
    have hvacant : Named { x.server with slot := none, ending := some (.ok ()) } := { hnamed with }
    have hshut := (Server.within_proceeds hvacant session (·.link (·.step .shutdown))).toAccounts
    refine ⟨[], hlogged ⟨hshut.named, hshut.next, hshut.numbered, hshut.answered⟩, ?_⟩
    rw [hnone]
    cases request <;> exact .refl _

/-- Where nothing is read, the same is left to be read. -/
theorem requestsFrom_of_inPieces {m : Server.Move} (hpieces : m.inPieces = true) (hstays : m.departs? = none)
    (rest : List Server.Move) : requestsRead (m :: rest) = requestsRead rest := by
  cases m with
  | step action =>
    cases action with
    | receive message => simp [Server.Move.inPieces, hstays] at hpieces
    | endInput ending => simp [Server.Move.inPieces, hstays] at hpieces
    | _ => rfl
  | _ => rfl

theorem requestsFrom_of_departs {m : Server.Move} {request : Option Message} (hdeparts : m.departs? = some request)
    (rest : List Server.Move) : requestsRead (m :: rest) = request.toList := by
  rcases departs_cases hdeparts with ⟨message, rfl, hkind, hcommand, rfl⟩ | ⟨rfl, rfl⟩
  · simp [requestsRead, hkind, hcommand]
  · rfl

/-- A step accounts for the request that it reads, if it reads one. -/
theorem Does.accounts (hdoes : Does x step result) (hnamed : Named x.server)
    (hquiet : x.server.ending = none → x.leaving = none) (rest : List Step) : ∃ read, Accounts x read result ∧
      x.server.requestsFrom (movesOf (step :: rest)) = read ++ result.1.server.requestsFrom (movesOf rest) := by
  have hsame : movesOf (step :: rest) = movesOf rest → Proceeds x.server [] (result.1.server, result.2) →
      result.1.due = x.due → ∃ read, Accounts x read result ∧
        x.server.requestsFrom (movesOf (step :: rest)) = read ++ result.1.server.requestsFrom (movesOf rest) := by
    intro hmoves hproceeds hdue
    refine ⟨[], .of_proceeds hproceeds hdue, ?_⟩
    rw [hmoves, Server.requestsFrom, Server.requestsFrom, hproceeds.ending]
    rfl
  cases hdoes with
  | idles silent stays unable pieces =>
    cases step with
    | moves m =>
      refine ⟨[], .of_proceeds (.refl hnamed) rfl, ?_⟩
      show x.server.requestsFrom (m :: movesOf rest) = x.server.requestsFrom (movesOf rest)
      unfold Server.requestsFrom
      split
      · rfl
      · next hreading =>
        have hreading : x.server.ending = none := by simpa using hreading
        have hopen : x.server.broken = false := by simp [Server.broken, hreading]
        exact requestsFrom_of_inPieces (pieces hopen m rfl) (stays hreading m rfl) _
    | relays session => exact hsame rfl (.refl hnamed) rfl
    | leaves => exact hsame rfl (.refl hnamed) rfl
  | @acts m whole =>
    -- What is one piece accounts for its request itself.
    obtain ⟨read, haccounts, hread⟩ := Server.move_accounts hnamed m (movesOf rest)
    exact ⟨read, ⟨read, haccounts, List.perm_append_comm⟩, hread⟩
  | @departs m request departs reading =>
    refine ⟨request.toList, depart_accounts hnamed (hquiet reading) request, ?_⟩
    have hended : (x.depart request).1.server.ending = some (.ok ()) := (x.depart_reserved request).ending
    have hread := requestsFrom_of_departs departs (movesOf rest)
    simp only [Server.requestsFrom, hended, reading, Option.isSome_some, Option.isSome_none, if_true]
    rw [List.append_nil]
    exact hread
  | reports pending => exact hsame rfl (Server.say_proceeds hnamed _) rfl
  | hears idle listed hears =>
    obtain ⟨-, hhears, hsilent⟩ := Launched.hear_hears hears
    have hset := Server.setLaunch_proceeds hnamed listed (hears_keeps hhears).2
    exact hsame rfl (hset.append (.silent hset.named rfl rfl (by rw [List.append_nil]) hsilent)) rfl
  | rests => exact hsame rfl (.refl hnamed) rfl
  | @hangsUp session request leaving =>
    have hproceeds := Server.within_proceeds hnamed session (·.link (·.step .leave))
    refine hsame rfl hproceeds ?_
    simp only [due, leaving]
    cases request <;> rfl
  | @answers request leaving =>
    -- The request that was due is answered here.
    have hsaid := Server.respond_proceeds hnamed request true none none
    refine ⟨[], ⟨[request], hsaid.toAccounts, ?_⟩, ?_⟩
    · simp only [due, leaving]
      exact .refl _
    · rw [show movesOf (Step.leaves :: rest) = movesOf rest from rfl]
      rfl
  | terminates leaving =>
    refine hsame rfl (Server.terminate_proceeds hnamed) ?_
    simp only [due, leaving]
    rfl

/-- What is no request changes nothing. -/
theorem step_of_no_request (x : Strands) {message : Message} (hkind : message.kind ≠ .request) :
    x.step (.moves (.step (.receive message))) = (x, []) := by
  have hstays : (Server.Move.step (.receive message)).departs? = none := if_neg fun h => hkind h.1
  have hsame : x.server.move (.step (.receive message)) = (x.server, []) := by
    simp only [Server.move, Server.step, Server.receive, hkind, ne_eq, not_false_eq_true, or_true, if_true, ite_self]
  simp only [Strands.step, hstays, hsame, ite_self]

theorem Standing.waits (hstanding : Standing x) (hreading : x.server.ending = none) : x.leaving = none :=
  (hstanding.reading (by rw [hreading]; simp)).quiet

/-- A run accounts for all requests that are read in it. -/
theorem Standing.accounts (hstanding : Standing x) (hnamed : Named x.server) (steps : List Step) :
    Accounts x (x.server.requestsFrom (movesOf steps)) (x.run steps) := by
  -- On the steps: what is due after the first one is due before the others.
  induction steps generalizing x with
  | nil =>
    have hnone : x.server.requestsFrom (movesOf []) = [] := by
      unfold Server.requestsFrom
      split <;> rfl
    rw [hnone]
    exact .of_proceeds (.refl hnamed) rfl
  | cons step rest ih =>
    have hdoes := x.step_does step
    obtain ⟨read, haccounts, hread⟩ := hdoes.accounts hnamed hstanding.waits rest
    obtain ⟨taken, hserver, -⟩ := haccounts.handed
    rw [hread]
    exact haccounts.append (ih (hstanding.after hdoes) hserver.named)

/-! ## What is left to wait for -/

theorem depart_live (hlive : Live x.server limit []) (request : Option Message) :
    Live (x.depart request).1.server limit [] := by
  unfold depart
  cases hslot : x.server.slot with
  | none =>
    refine hlive.ends ?_
    intro _
    exact hslot
  | some session =>
    dsimp only
    unfold Server.within
    dsimp only
    split
    · next launch hfound =>
      have hmem := Assoc.mem_of_find? hfound
      have hother : Connection.Action.shutdown.byOwner = false := rfl
      have hshut := hlive.advance hmem fun _ hattended hone _ => Session.minds_link hattended hone hother
      -- The session is closed before the slot is emptied.
      have hvacant := hshut.vacate fun other held hother hheld => .inl (by
        obtain rfl : session = other := Option.some.inj (hslot.symm.trans hother)
        rw [← hshut.named.launches.unique (Server.mem_setLaunch_self x.server session _) hheld]
        dsimp only
        rw [launch.session.link_connection]
        exact Connection.closed_of_step_shutdown launch.session.connection)
      exact (hvacant.ends fun _ => rfl).absorb
    · next hnone =>
      obtain ⟨launch, hmem⟩ := hlive.held session hslot
      rw [hlive.named.launches.find?_of_mem hmem] at hnone
      cases hnone

theorem Does.live (hdoes : Does x step result) (hlive : Live x.server limit []) (hlimit : limit < UInt64.size)
    (hquiet : x.server.ending = none → x.leaving = none) (rest : List Step) : ∃ more, Live result.1.server more [] ∧
      more + (result.1.server.requestsFrom (movesOf rest)).length ≤
        limit + (x.server.requestsFrom (movesOf (step :: rest))).length := by
  obtain ⟨read, -, hrequests⟩ := hdoes.accounts hlive.named hquiet rest
  have hsame : Live result.1.server limit [] → ∃ more, Live result.1.server more [] ∧
      more + (result.1.server.requestsFrom (movesOf rest)).length ≤
        limit + (x.server.requestsFrom (movesOf (step :: rest))).length := by
    intro hafter
    refine ⟨limit, hafter, ?_⟩
    rw [hrequests, List.length_append]
    omega
  cases hdoes with
  | idles | rests => exact hsame hlive
  | @acts m whole => exact hlive.moves_one hlimit m (movesOf rest)
  | @departs m request departs reading => exact hsame (depart_live hlive request)
  | @reports session line later pending => exact hsame (hlive.congr (x.server.say_sameWork line))
  | hears idle listed hears =>
    obtain ⟨-, hhears, -⟩ := Launched.hear_hears hears
    obtain ⟨hconnection, hrequest⟩ := hears_keeps hhears
    refine hsame (hlive.change (Assoc.mem_of_find? listed) ?_ ?_ hconnection (.inl hrequest))
    · intro room hattended
      cases hhears <;> exact { hattended with }
    · intro operation hunderWay
      cases hhears <;> exact hunderWay
  | @hangsUp session request leaving =>
    have hother : Connection.Action.leave.byOwner = false := rfl
    exact hsame (hlive.step fun hattended hone _ => Session.minds_link hattended hone hother)
  | @answers request leaving => exact hsame (hlive.congr (Server.respond_sameWork x.server request true none none))
  | terminates leaving => exact hsame (hlive.congr x.server.terminate_sameWork)

theorem Standing.live (hstanding : Standing x) (hlive : Live x.server limit []) (steps : List Step)
    (hbound : limit + (x.server.requestsFrom (movesOf steps)).length < UInt64.size) :
    ∃ more, Live (x.run steps).1.server more [] := by
  induction steps generalizing x limit with
  | nil => exact ⟨limit, hlive⟩
  | cons step rest ih =>
    have hdoes := x.step_does step
    obtain ⟨more, hafter, hroom⟩ := hdoes.live hlive (by omega) hstanding.waits rest
    have hrest : more + ((x.step step).1.server.requestsFrom (movesOf rest)).length < UInt64.size := by omega
    exact ih (hstanding.after hdoes) hafter hrest

/-- In whatever order requests, replies and events come, and wherever the relays and the request loop stand:

* Messages to the editor are numbered from 1 on, in the order in which they are sent.
* Each response is for a request of its own, and carries that request's number and command. Apart from what is still
  unanswered in the server, only the request to disconnect may be due, and only while the request loop leaves.
* What is no request changes nothing.
* After an end that is no error, the request loop leaves in three steps of its own. The server does not come to rest
  before it is finished, and once the request loop has left too, every request that was read has its response. -/
theorem requests_are_answered_in_pieces (defaults : ServerSettings) (files : FileTree) (steps : List Step) :
    let (x, effects) := ({ server := { defaults, files } } : Strands).run steps
    (Loop.sent effects).map (·.seq) = (List.range (Loop.sent effects).length).map (fun (i : Nat) => 1 + (i : Int)) ∧
    (∃ answered, List.Forall₂ Server.Answers (responses effects) answered ∧
      (answered ++ (x.server.unanswered ++ x.due)).Perm (requestsRead (movesOf steps))) ∧
    (∀ message : Message, message.kind ≠ .request → x.step (.moves (.step (.receive message))) = (x, [])) ∧
    ((requestsRead (movesOf steps)).length < UInt64.size → x.server.ending = some (.ok ()) →
      (∀ more : List Step, 3 ≤ more.countP (·.isLeaving) → (x.run more).1.leaving = none) ∧
      (x.server.Idle → x.server.finished = true) ∧
      (x.server.finished = true → x.leaving = none → ∃ answered,
        List.Forall₂ Server.Answers (responses effects) answered ∧ answered.Perm (requestsRead (movesOf steps)))) := by
  have hstanding : Standing { server := { defaults, files } } := .start defaults files
  have hlive := Server.live_fresh defaults files
  have hread : ({ defaults, files } : Server).requestsFrom (movesOf steps) = requestsRead (movesOf steps) := by
    simp [Server.requestsFrom]
  obtain ⟨taken, haccounts, hdue⟩ := (hstanding.accounts hlive.named steps).handed
  obtain ⟨answered, hanswers, howed⟩ := haccounts.answered
  have hall : (answered ++ ((Strands.run { server := { defaults, files } } steps).1.server.unanswered ++
      (Strands.run { server := { defaults, files } } steps).1.due)).Perm (requestsRead (movesOf steps)) := by
    rw [← List.append_assoc, ← hread]
    exact (howed.append_right _).trans hdue
  refine ⟨haccounts.numbered, ⟨answered, hanswers, hall⟩, fun _ hkind => step_of_no_request _ hkind, ?_⟩
  intro hbound hended
  obtain ⟨limit, hafter⟩ := hstanding.live hlive steps (by rw [hread]; simpa using hbound)
  refine ⟨?_, hafter.finished_of_idle hended, ?_⟩
  · intro more hthree
    exact (hstanding.run steps).leaves hended hthree
  · intro hfinished hleft
    refine ⟨answered, hanswers, ?_⟩
    rw [hafter.unanswered_of_finished hended hfinished, due, hleft] at hall
    simpa using hall

/-- Where there is no session, a request to disconnect is due at once, but it is the next step that answers it. -/
example :
    let disconnect : Message := { seq := 1, kind := .request, command := "disconnect" }
    ((({} : Strands).run [.moves (.step (.receive disconnect))]).1.due).map (·.seq) = [1] := by
  decide

/-! ## Requests that are passed on -/

/-- The request that is entrusted to a session in a step. -/
def entrusts? (x : Strands) : Step → Option (Nat × Message)
  | .moves m => x.server.entrusts? m
  | _ => none

/-- The requests that are entrusted to sessions. The place of each is the number of its operation. -/
def entrusted (x : Strands) : List Step → List (Nat × Message)
  | [] => []
  | step :: rest => (x.entrusts? step).toList ++ (x.step step).1.entrusted rest

/-- The turn of a request that comes in a step. -/
def turn? (x : Strands) : Step → Option Turn
  | .moves m => x.server.turn? m
  | _ => none

def requestTurns (x : Strands) : List Step → List Turn
  | [] => []
  | step :: rest => (x.turn? step).toList ++ (x.step step).1.requestTurns rest

/-- All requests of a run are taken in turn. -/
def InTurns (x : Strands) : List Step → Prop
  | [] => True
  | step :: rest => (∀ m, step = .moves m → x.server.InTurn m) ∧ (x.step step).1.InTurns rest

variable {requests : List (Nat × Message)} {session : Nat} {turns : List Turn} {sent : List Wire.Request} {clean : Prop}

theorem depart_aside (x : Strands) (request : Option Message) :
    Server.Aside x.server session clean ((x.depart request).1.server, (x.depart request).2) := by
  unfold depart
  cases hslot : x.server.slot with
  | none => exact Server.aside_of_same ⟨rfl, rfl, fun _ => id, fun _ => rfl⟩ fun _ => by cases request <;> rfl
  | some held =>
    have hemptied : Server.SameSessions x.server { x.server with slot := none, ending := some (.ok ()) } :=
      ⟨rfl, rfl, fun _ => id, fun _ => rfl⟩
    have hother : Connection.Action.shutdown.byOwner = false := rfl
    have hshut : Server.Aside x.server session clean (Server.within { x.server with
        slot := none, ending := some (.ok ()) } held (·.link (·.step .shutdown))) :=
      .after hemptied (Server.within_aside held fun _ inner _ => inner.goesOn_link hother rfl (by simp))
    cases request with
    | none => exact hshut
    | some request => exact hshut.log _

/-- In a step there is at most one turn of a request, and the image of that request joins the line. -/
theorem Does.leads (hdoes : Does x step result) (hfaithful : Faithful x.server requests session turns sent clean)
    (hlive : Live x.server limit []) (hsize : x.server.operations < UInt64.size)
    (hturn : ∀ m, step = .moves m → x.server.InTurn m)
    (hentrusts : ∀ entry, x.entrusts? step = some entry → requests[x.server.operations]? = some entry)
    (hclean : clean → ∀ number cause, step ≠ .moves (.step (.link session (.transmitFailed number cause)))) :
    Leads x.server requests session (turns ++ (x.turn? step).toList.filter (·.session = session)) sent clean
      (x.entrusts? step).toList.length (result.1.server, result.2) := by
  have hquiet : x.turn? step = none → x.entrusts? step = none →
      Server.Aside x.server session clean (result.1.server, result.2) →
      Leads x.server requests session (turns ++ (x.turn? step).toList.filter (·.session = session)) sent clean
        (x.entrusts? step).toList.length (result.1.server, result.2) := by
    intro hnone hnothing haside
    rw [hnone, hnothing, Option.toList_none, List.filter_nil, List.append_nil]
    exact hfaithful.idle hsize haside
  cases hdoes with
  | idles silent stays unable pieces =>
    have hsame : Server.Aside x.server session clean (x.server, []) := Server.aside_of_same (.refl _) fun _ => rfl
    cases step with
    | moves m =>
      by_cases hbroken : x.server.broken = true
      · exact hquiet (by simp [turn?, Server.turn?, hbroken])
          (Server.entrusts?_of_ended (Server.ended_of_broken hbroken) m) hsame
      · have hpieces := pieces (by simpa using hbroken) m rfl
        exact hquiet (Server.turn?_of_inPieces hpieces) (Server.entrusts?_of_inPieces hpieces) hsame
    | relays other => exact hquiet rfl rfl hsame
    | leaves => exact hquiet rfl rfl hsame
  | @acts m whole =>
    refine hfaithful.move hlive hsize m (hturn m rfl) hentrusts ?_
    rintro h number cause rfl
    exact hclean h number cause rfl
  | @departs m request departs reading =>
    have hpieces := inPieces_of_departs departs
    exact hquiet (Server.turn?_of_inPieces hpieces) (Server.entrusts?_of_inPieces hpieces) (x.depart_aside request)
  | @reports other line later pending =>
    exact hquiet rfl rfl (Server.aside_of_same (x.server.say_sameWork line).sessions (x.server.say_writes line))
  | hears idle listed hears =>
    have hwrites := Launched.hear_writes hears
    obtain ⟨-, hhears, -⟩ := Launched.hear_hears hears
    exact hquiet rfl rfl (Server.hears_aside listed hhears hwrites)
  | rests => exact hquiet rfl rfl (Server.aside_of_same (.refl _) fun _ => rfl)
  | @hangsUp other request leaving =>
    have hother : Connection.Action.leave.byOwner = false := rfl
    exact hquiet rfl rfl (Server.within_aside other fun _ inner _ => inner.goesOn_link hother rfl (by simp))
  | @answers request leaving => exact hquiet rfl rfl (Server.respond_aside x.server request true none none)
  | terminates leaving =>
    exact hquiet rfl rfl (Server.aside_of_same x.server.terminate_sameWork.sessions x.server.terminate_writes)

theorem Standing.leads (hstanding : Standing x) (hfaithful : Faithful x.server requests session turns sent clean)
    (hlive : Live x.server limit []) (steps : List Step)
    (hbound : limit + (x.server.requestsFrom (movesOf steps)).length < UInt64.size) (hturns : x.InTurns steps)
    (hplaces : x.entrusted steps <+: requests.drop x.server.operations)
    (hsize : x.server.operations + (x.entrusted steps).length < UInt64.size)
    (hclean : clean → ∀ number cause, .moves (.step (.link session (.transmitFailed number cause))) ∉ steps) :
    Leads x.server requests session (turns ++ (x.requestTurns steps).filter (·.session = session)) sent clean
      (x.entrusted steps).length ((x.run steps).1.server, (x.run steps).2) := by
  induction steps generalizing x limit turns sent with
  | nil =>
    refine ⟨rfl, [], rfl, ?_⟩
    rw [List.append_nil, requestTurns, List.filter_nil, List.append_nil]
    exact hfaithful
  | cons step rest ih =>
    have hdoes := x.step_does step
    rw [entrusted] at hplaces hsize
    rw [List.length_append] at hsize
    obtain ⟨hnext, hlater⟩ := Server.entrusts_next hplaces
    obtain ⟨limit', hlive', hroom⟩ := hdoes.live hlive (by omega) hstanding.waits rest
    have hstep := hdoes.leads hfaithful hlive (by omega) hturns.1 hnext (by
      rintro h number cause rfl
      exact hclean h number cause (List.mem_cons_self ..))
    have hcount : (x.step step).1.server.operations = x.server.operations + (x.entrusts? step).toList.length := hstep.1
    have hbound' : limit' + ((x.step step).1.server.requestsFrom (movesOf rest)).length < UInt64.size := by omega
    have hsize' : (x.step step).1.server.operations + ((x.step step).1.entrusted rest).length < UInt64.size := by omega
    rw [← hcount] at hlater
    rw [entrusted, List.length_append, requestTurns, List.filter_append, ← List.append_assoc]
    refine hstep.append ?_
    intro sent' hafter
    refine ih (hstanding.after hdoes) hafter hlive' hbound' hturns.2 hlater hsize' ?_
    intro h number cause hmem
    exact hclean h number cause (List.mem_cons_of_mem _ hmem)

theorem entrusted_append (x : Strands) (steps more : List Step) :
    x.entrusted (steps ++ more) = x.entrusted steps ++ (x.run steps).1.entrusted more := by
  induction steps generalizing x with
  | nil => rfl
  | cons step rest ih =>
    rw [List.cons_append, entrusted, entrusted, ih, List.append_assoc]
    rfl

theorem Standing.entrusted_sublist (hstanding : Standing x) (hnamed : Named x.server) (steps : List Step) :
    ((x.entrusted steps).map (·.2)).Sublist (x.server.requestsFrom (movesOf steps)) := by
  induction steps generalizing x with
  | nil => exact List.nil_sublist _
  | cons step rest ih =>
    have hdoes := x.step_does step
    obtain ⟨read, haccounts, hread⟩ := hdoes.accounts hnamed hstanding.waits rest
    obtain ⟨taken, hserver, -⟩ := haccounts.handed
    have hrest := ih (hstanding.after hdoes) hserver.named
    rw [entrusted, List.map_append]
    cases hentry : x.entrusts? step with
    | none =>
      rw [hread]
      exact hrest.trans (List.sublist_append_right _ _)
    | some entry =>
      cases step with
      | relays session => cases hentry
      | leaves => cases hentry
      | moves m =>
        have hentry : x.server.entrusts? m = some entry := hentry
        -- Only what is one piece entrusts anything, so the request is read in this step.
        have hwhole : m.inPieces = false := by
          by_contra hpieces
          rw [Server.entrusts?_of_inPieces (by simpa using hpieces)] at hentry
          cases hentry
        obtain ⟨rfl, hreading, hkind, -⟩ := Server.entrusts?_cases hentry
        have hother : entry.2.command ≠ "disconnect" := by
          intro hcommand
          simp [Server.Move.inPieces, Server.Move.departs?, hkind, hcommand] at hwhole
        have hopen : x.server.broken = false := by simp [Server.broken, hreading]
        have hmove : x.server.move (.step (.receive entry.2)) = x.server.receive entry.2 := by
          simp [Server.move, Server.step, hopen]
        rw [step_receive hreading hother, hmove] at hrest ⊢
        exact (Server.requestsFrom_receive hnamed hreading hkind (movesOf rest)).symm ▸ hrest.cons_cons entry.2

/-- A request that may have an image, and is read while a session is in the slot, is entrusted to that session. -/
theorem entrusted_of_read {steps before after : List Step} {request : Message}
    (hsplit : steps = before ++ .moves (.step (.receive request)) :: after)
    (hreading : (x.run before).1.server.ending = none) (hkind : request.kind = .request)
    (hslot : (x.run before).1.server.slot = some session) (himage : ∃ known, (request.image known).isSome) :
    (x.entrusted steps)[(x.entrusted before).length]? = some (session, request) := by
  have hentrusts : (x.run before).1.entrusts? (.moves (.step (.receive request))) = some (session, request) :=
    Server.entrusts?_of_image hreading hkind hslot himage
  rw [hsplit, entrusted_append, entrusted, hentrusts, List.getElem?_append_right (Nat.le_refl _), Nat.sub_self]
  rfl

/-- For any session, wherever the relays and the request loop stand, as long as the writer takes a session's requests one
after the other:

* A request that is read while a session is in the slot, and that may be something to its server, is entrusted to that
  session. Nothing is entrusted that was not read.
* What is entrusted to the session is passed on to its server. -/
theorem requests_are_passed_on_in_pieces (defaults : ServerSettings) (files : FileTree) (steps : List Step)
    (session : Nat) (hbound : (requestsRead (movesOf steps)).length < UInt64.size)
    (hturns : ({ server := { defaults, files } } : Strands).InTurns steps) :
    let start : Strands := { server := { defaults, files } }
    let (x, effects) := start.run steps
    let requests := start.entrusted steps
    (∀ before request after, steps = before ++ .moves (.step (.receive request)) :: after →
      (start.run before).1.server.ending = none → request.kind = .request →
      (start.run before).1.server.slot = some session → (∃ known, (request.image known).isSome) →
      requests[(start.entrusted before).length]? = some (session, request)) ∧
    (requests.map (·.2)).Sublist (requestsRead (movesOf steps)) ∧
    PassesOn x.server requests session ((start.requestTurns steps).filter (·.session = session)) effects
      (∀ number cause, .moves (.step (.link session (.transmitFailed number cause))) ∉ steps) := by
  intro start
  have hstanding : Standing start := .start defaults files
  have hlive : Live start.server 0 [] := Server.live_fresh defaults files
  have hread : start.server.requestsFrom (movesOf steps) = requestsRead (movesOf steps) := by
    simp [start, Server.requestsFrom]
  have hsublist := hstanding.entrusted_sublist hlive.named steps
  rw [hread] at hsublist
  have hsize := hsublist.length_le
  rw [List.length_map] at hsize
  have hfresh : Faithful start.server (start.entrusted steps) session [] []
      (∀ number cause, .moves (.step (.link session (.transmitFailed number cause))) ∉ steps) := .fresh ..
  have hleads := hstanding.leads hfresh hlive steps (by rw [hread]; omega) hturns (List.prefix_refl _)
    (by rw [show start.server.operations = 0 from rfl]; omega) id
  rw [List.nil_append] at hleads
  refine ⟨?_, hsublist, hleads.passesOn (by omega) rfl⟩
  intro before request after hsplit hreading hkind hslot himage
  exact entrusted_of_read hsplit hreading hkind hslot himage

end

end Strands

end DebugBridge.Adapter
