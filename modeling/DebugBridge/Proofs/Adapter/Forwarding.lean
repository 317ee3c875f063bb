import DebugBridge.Proofs.Adapter.Faithful
import Mathlib.Data.String.Basic

/-!
# What the editor's requests come to

Over a whole run, each session's server is sent the images of the requests that the editor made of that session, in the
order of their turns.
-/

namespace DebugBridge.Adapter

open Connection (numbered frameOf)
open Debugger (Session IsComplete Breakpoints)

/-- A request that sets breakpoints is passed on with those of all sources. -/
theorem History.complete {requests : List (Nat × Message)} {session : Nat} {turns before after : List Turn}
    {turn : Turn} (hhistory : History requests session turns) (hsplit : turns = before ++ turn :: after) {request : Message}
    (hrequest : requests[turn.operation]? = some (session, request)) (hsets : request.update?.isSome) :
    ∃ set, request.image turn.known = some (.setBreakpoints set) ∧
      IsComplete (updates requests (before ++ [turn])) set := by
  obtain ⟨⟨path, breakpoints⟩, hupdate⟩ := Option.isSome_iff_exists.1 hsets
  have hafter : ({} : Breakpoints).after (updates requests (before ++ [turn]))
      = turn.known.breakpoints.set path breakpoints := by
    have hnew : updates requests [turn] = [{ operation := turn.operation, path, breakpoints }] := by
      simp [updates, hrequest, hupdate]
    rw [updates_append, hnew, Breakpoints.after_concat, hhistory.known before turn after hsplit]
  refine ⟨(turn.known.breakpoints.set path breakpoints).toWire, ?_, hafter ▸ Breakpoints.toWire_complete _⟩
  have hcommand : request.command = "setBreakpoints" := by
    unfold Message.update? at hupdate
    split at hupdate
    · assumption
    · cases hupdate
  unfold Message.image
  simp only [hcommand, hupdate, Option.map_some]

namespace Server

section

variable {s : Server} {requests : List (Nat × Message)} {session limit : Nat} {turns : List Turn}
  {sent : List Wire.Request} {clean : Prop}

/-! ## Runs -/

/-- What is entrusted in a step has the next place, and what is entrusted later comes after it. -/
theorem entrusts_next {entry : Option (Nat × Message)} {later : List (Nat × Message)} {count : Nat}
    (hplaces : entry.toList ++ later <+: requests.drop count) :
    (∀ next, entry = some next → requests[count]? = some next) ∧
      later <+: requests.drop (count + entry.toList.length) := by
  obtain ⟨others, hothers⟩ := hplaces
  constructor
  · rintro next rfl
    rw [← List.head?_drop, ← hothers]
    rfl
  · rw [← List.drop_drop, ← hothers, List.append_assoc, List.drop_left]
    exact List.prefix_append _ _

theorem writesOf_moves (s : Server) (m : Move) (rest : List Move) : writesOf session (s.moves (m :: rest)).2 =
    writesOf session (s.move m).2 ++ writesOf session ((s.move m).1.moves rest).2 :=
  writesOf_append session _ _

theorem writesOf_moves_append (s : Server) (moves more : List Move) : writesOf session (s.moves (moves ++ more)).2 =
    writesOf session (s.moves moves).2 ++ writesOf session ((s.moves moves).1.moves more).2 := by
  induction moves generalizing s with
  | nil => rfl
  | cons m rest ih =>
    rw [List.cons_append, writesOf_moves, writesOf_moves, ih, List.append_assoc]
    rfl

/-- Of a session's connection everything is written that this writes. -/
theorem writesOf_link {inner : Session} (hopen : s.broken = false) (hinner : s.inner? session = some inner)
    {action : Connection.Action} (hother : action.byOwner = false) :
    writesOf session (s.moves [.step (.link session action)]).2
      = Connection.writes (inner.connection.step action).2 := by
  have hmoves := (within_moves s session (·.link (·.step action))).of_inner hinner
  have hmove : s.move (.step (.link session action)) = s.within session (·.link (·.step action)) := by
    simp [Server.move, Server.step, hopen, hother]
  rw [writesOf_moves, hmove, hmoves.2, inner.writes_link]
  exact List.append_nil _

theorem Faithful.moves (hfaithful : Faithful s requests session turns sent clean) (hlive : Live s limit [])
    (moves : List Move) (hbound : limit + (s.requestsFrom moves).length < UInt64.size) (hturns : s.InTurns moves)
    (hplaces : s.entrusted moves <+: requests.drop s.operations)
    (hsize : s.operations + (s.entrusted moves).length < UInt64.size)
    (hclean : clean → ∀ number cause, .step (.link session (.transmitFailed number cause)) ∉ moves) :
    Leads s requests session (turns ++ (s.turns moves).filter (·.session = session)) sent clean
      (s.entrusted moves).length (s.moves moves) := by
  induction moves generalizing s limit turns sent with
  | nil =>
    refine ⟨rfl, [], rfl, ?_⟩
    rw [List.append_nil, Server.turns, List.filter_nil, List.append_nil]
    exact hfaithful
  | cons m rest ih =>
    rw [Server.entrusted] at hplaces hsize
    rw [List.length_append] at hsize
    obtain ⟨hnext, hlater⟩ := entrusts_next hplaces
    obtain ⟨limit', hlive', hroom⟩ := hlive.moves_one (by omega) m rest
    have hstep := hfaithful.move hlive (by omega) m hturns.1 hnext (by
      rintro h number cause rfl
      exact hclean h number cause (List.mem_cons_self ..))
    have hcount : (s.move m).1.operations = s.operations + (s.entrusts? m).toList.length := hstep.1
    have hbound' : limit' + ((s.move m).1.requestsFrom rest).length < UInt64.size := by omega
    have hsize' : (s.move m).1.operations + ((s.move m).1.entrusted rest).length < UInt64.size := by omega
    rw [← hcount] at hlater
    rw [Server.entrusted, List.length_append, Server.turns, List.filter_append, ← List.append_assoc]
    refine hstep.append ?_
    intro sent' hafter
    refine ih hafter hlive' hbound' hturns.2 hlater hsize' ?_
    intro h number cause hmem
    exact hclean h number cause (List.mem_cons_of_mem _ hmem)

/-- Whatever is entrusted to a session was read. -/
theorem entrusts?_cases {m : Move} {entry : Nat × Message} (hentry : s.entrusts? m = some entry) :
    m = .step (.receive entry.2) ∧ s.ending = none ∧ entry.2.kind = .request ∧ s.slot = some entry.1 := by
  unfold entrusts? at hentry
  split at hentry
  · next request =>
    split at hentry
    · cases hentry
    · next hread =>
      obtain ⟨hreading, hkind⟩ := not_or.1 hread
      split at hentry
      · obtain ⟨session, hslot, rfl⟩ := Option.map_eq_some_iff.1 hentry
        exact ⟨rfl, by simpa using hreading, by simpa using hkind, hslot⟩
      · cases hentry
  · cases hentry

theorem entrusted_sublist (hnamed : Named s) (moves : List Move) :
    ((s.entrusted moves).map (·.2)).Sublist (s.requestsFrom moves) := by
  induction moves generalizing s with
  | nil => exact List.nil_sublist _
  | cons m rest ih =>
    obtain ⟨read, haccounts, hread⟩ := move_accounts hnamed m rest
    have hrest := ih haccounts.named
    rw [entrusted, List.map_append]
    cases hentry : s.entrusts? m with
    | none =>
      rw [hread]
      exact hrest.trans (List.sublist_append_right _ _)
    | some entry =>
      obtain ⟨rfl, hreading, hkind, -⟩ := entrusts?_cases hentry
      have hopen : s.broken = false := by simp [broken, hreading]
      have hmove : s.move (.step (.receive entry.2)) = s.receive entry.2 := by simp [Server.move, Server.step, hopen]
      rw [hmove] at hrest ⊢
      rw [requestsFrom_receive hnamed hreading hkind]
      exact hrest.cons_cons _

theorem entrusted_append (s : Server) (moves more : List Move) :
    s.entrusted (moves ++ more) = s.entrusted moves ++ (s.moves moves).1.entrusted more := by
  induction moves generalizing s with
  | nil => rfl
  | cons m rest ih =>
    rw [List.cons_append, entrusted, entrusted, ih, List.append_assoc]
    rfl

theorem entrusts?_of_image {request : Message} (hreading : s.ending = none) (hkind : request.kind = .request)
    (hslot : s.slot = some session) (himage : ∃ known, (request.image known).isSome) :
    s.entrusts? (.step (.receive request)) = some (session, request) := by
  obtain ⟨known, himage⟩ := himage
  obtain ⟨what, hcommand⟩ : ∃ what, Command.of request = .ok (.operation what) := by
    rw [image_eq] at himage
    split at himage
    · next what hcommand => exact ⟨what, hcommand⟩
    · cases himage
  rw [entrusts?_receive, if_neg (by simp [hreading, hkind]), hcommand, hslot]
  rfl

/-- A request that may have an image, and is read while a session is in the slot, is entrusted to that session. -/
theorem entrusted_of_read {moves before after : List Move} {request : Message}
    (hsplit : moves = before ++ .step (.receive request) :: after) (hreading : (s.moves before).1.ending = none)
    (hkind : request.kind = .request) (hslot : (s.moves before).1.slot = some session)
    (himage : ∃ known, (request.image known).isSome) :
    (s.entrusted moves)[(s.entrusted before).length]? = some (session, request) := by
  have hentrusts := entrusts?_of_image hreading hkind hslot himage
  rw [hsplit, entrusted_append, entrusted, hentrusts, List.getElem?_append_right (Nat.le_refl _), Nat.sub_self]
  rfl

/-- A session's requests are passed on: after a run with such turns and effects, all that was entrusted to it has had
its turn or waits for that, and what its server was sent is what the turns came to. -/
structure PassesOn (s : Server) (requests : List (Nat × Message)) (session : Nat) (turns : List Turn)
    (effects : List ServerEffect) (clean : Prop) : Prop where
  turned : ∀ operation request, requests[operation]? = some (session, request) →
    operation ∈ s.waiting session ∨ ∃ turn ∈ turns, turn.operation = operation
  once : (turns.map (·.operation)).Nodup
  history : History requests session turns
  complete : ∀ before turn after request, turns = before ++ turn :: after →
    requests[turn.operation]? = some (session, request) → request.update?.isSome →
    ∃ set, request.image turn.known = some (.setBreakpoints set) ∧
      IsComplete (updates requests (before ++ [turn])) set
  sent : ∃ first sent,
    writesOf session effects = sent.map frameOf ∧
    sent.Pairwise (·.number < ·.number) ∧
    sent.Sublist ((numbered (images requests turns)).take first) ∧
    ∀ inner, s.inner? session = some inner →
      (∀ number payload, inner.connection.Unsent number payload ↔
        { number, payload := some payload } ∈ (numbered (images requests turns)).drop first) ∧
      (clean → inner.connection.state = .connected →
        sent = ((numbered (images requests turns)).take first).filter inner.connection.fits)

theorem Leads.passesOn {result : Server × List ServerEffect} (hsize : requests.length < UInt64.size)
    (hleads : Leads s requests session turns [] clean requests.length result) (hstart : s.operations = 0) :
    PassesOn result.1 requests session turns result.2 clean := by
  obtain ⟨hcount, sent, hwrote, hafter⟩ := hleads
  rw [List.nil_append] at hafter
  have hhistory := hafter.booked.history
  have hasks : (images requests turns).length < UInt64.size := by
    have hle := length_images_le requests turns
    have hturned := hafter.booked.length_le
    omega
  refine ⟨?_, hhistory.once, hhistory, ?_, ?_⟩
  · intro operation request hrequest
    have hplace := (List.getElem?_eq_some_iff.1 hrequest).1
    exact hafter.booked.complete operation request (by omega) hrequest
  · intro before turn after request hsplit hrequest hsets
    exact hhistory.complete hsplit hrequest hsets
  · cases hinner : result.1.inner? session with
    | none =>
      obtain ⟨-, rfl⟩ := hafter.absent hinner
      exact ⟨0, [], hwrote, .nil, List.nil_sublist _, fun inner hsome => by cases hsome⟩
    | some inner =>
      obtain ⟨first, hposted⟩ := (hafter.posts inner hinner).posted
      refine ⟨first, sent, hwrote, ?_, hposted.sublist, fun other hsome => ?_⟩
      · exact (Connection.ascending_numbered hasks).sublist (hposted.sublist.trans (List.take_sublist _ _))
      · cases hsome
        exact ⟨hposted.waiting, hposted.whole⟩

end

/-- For any session, and in whatever order requests, replies and events come, as long as the writer takes a session's
requests one after the other:

* A request that is read while a session is in the slot, and that may be something to its server, is entrusted to that
  session. Nothing is entrusted that was not read.
* Each request that was entrusted to the session has its turn once, or waits for it. The turns come in the order in
  which the requests were read, except that one that sets breakpoints waits until all before it that do so have been
  answered. What it is to the server has the breakpoints of all sources then.
* What is sent are the images of the requests that had their turn while the session was connected, one for each at most,
  with ascending numbers and in the order of the turns. Those that were not taken by the writer yet wait for it. As long
  as the session is connected, and the writer does not fail, all others were sent but for those that are too large. -/
theorem requests_are_passed_on_in_turn (defaults : ServerSettings) (files : FileTree) (moves : List Move)
    (session : Nat) (hbound : (requestsRead moves).length < UInt64.size) (hturns : ({ defaults, files } : Server).InTurns moves) :
    let start : Server := { defaults, files }
    let (s, effects) := start.moves moves
    let requests := start.entrusted moves
    let turns := (start.turns moves).filter (·.session = session)
    let asks := numbered (images requests turns)
    (∀ before request after, moves = before ++ .step (.receive request) :: after →
      (start.moves before).1.ending = none → request.kind = .request → (start.moves before).1.slot = some session →
      (∃ known, (request.image known).isSome) →
      requests[(start.entrusted before).length]? = some (session, request)) ∧
    (requests.map (·.2)).Sublist (requestsRead moves) ∧
    (∀ operation request, requests[operation]? = some (session, request) →
      operation ∈ s.waiting session ∨ ∃ turn ∈ turns, turn.operation = operation) ∧
    (turns.map (·.operation)).Nodup ∧
    History requests session turns ∧
    (∀ before turn after request, turns = before ++ turn :: after →
      requests[turn.operation]? = some (session, request) → request.update?.isSome →
      ∃ set, request.image turn.known = some (.setBreakpoints set) ∧
        IsComplete (updates requests (before ++ [turn])) set) ∧
    ∃ first sent,
      writesOf session effects = sent.map frameOf ∧
      sent.Pairwise (·.number < ·.number) ∧
      sent.Sublist (asks.take first) ∧
      ∀ inner, s.inner? session = some inner →
        (∀ number payload, inner.connection.Unsent number payload ↔
          { number, payload := some payload } ∈ asks.drop first) ∧
        ((∀ number cause, .step (.link session (.transmitFailed number cause)) ∉ moves) →
          inner.connection.state = .connected → sent = (asks.take first).filter inner.connection.fits) := by
  intro start
  have hlive : Live start 0 [] := live_fresh defaults files
  have hread : start.requestsFrom moves = requestsRead moves := by simp [start, requestsFrom]
  have hsublist := entrusted_sublist hlive.named moves
  rw [hread] at hsublist
  have hsize := hsublist.length_le
  rw [List.length_map] at hsize
  have hfresh : Faithful start (start.entrusted moves) session [] []
      (∀ number cause, .step (.link session (.transmitFailed number cause)) ∉ moves) := .fresh ..
  have hleads := hfresh.moves hlive moves (by rw [hread]; omega) hturns (List.prefix_refl _)
    (by rw [show start.operations = 0 from rfl]; omega) id
  rw [List.nil_append] at hleads
  have hpasses := hleads.passesOn (by omega) rfl
  refine ⟨?_, hsublist, hpasses.turned, hpasses.once, hpasses.history, hpasses.complete, hpasses.sent⟩
  intro before request after hsplit hreading hkind hslot himage
  exact entrusted_of_read hsplit hreading hkind hslot himage

/-! ## Runs of one session -/

/-- A launch whose session comes about. -/
def connecting : List Move :=
  [.step (.receive { seq := 1, command := "launch" }), .step .begin, .step (.link 0 (.opened 0 7)),
    .step (.link 0 (.attach 0))]

/-- The arguments of a request that sets a breakpoint in a source. -/
def breakpointIn (path : String) : Json :=
  .ofMembers [("source", .ofMembers [("path", .string path)]), ("lines", .array [.int 3])]

/-- The second source's breakpoints are late: they have to wait until the first one's have been set. -/
theorem requests_are_passed_on_past_breakpoints :
    let moves : List Move := connecting ++ [
      .step (.receive { seq := 2, command := "setBreakpoints", arguments := breakpointIn "a" }),
      .step (.receive { seq := 3, command := "setBreakpoints", arguments := breakpointIn "b" }),
      .step (.receive { seq := 4, command := "threads" }),
      .step (.receive { seq := 5, command := "configurationDone" }),
      .step .begin, .step .begin, .prepare, .step (.link 0 (.transmit 2)),
      .step (.link 0 (.arrive (Wire.frames Wire.Event.encode [{ number := 1, payload := some .setBreakpoints }]))),
      .step (.link 0 .read), .step (.collect 0 0), .step (.takeTurn 0)]
    let first : Wire.Breakpoint := { location := some { line := 3, path := "a" } }
    let second : Wire.Breakpoint := { location := some { line := 3, path := "b" } }
    let asks := numbered [.setBreakpoints [first], .startDebugging, .setBreakpoints [first, second]]
    ((requestsRead moves).length < UInt64.size ∧ ({} : Server).InTurns moves) ∧
    (∃ (most : Nat) (sent : List Wire.Request), writesOf 0 (({} : Server).moves moves).2 = sent.map frameOf ∧
      sent.Pairwise (·.number < ·.number) ∧ sent.Sublist (asks.take most)) ∧
    writesOf 0 (({} : Server).moves moves).2 = asks.map frameOf := by
  intro moves first second asks
  have hbound : (requestsRead moves).length < UInt64.size := by decide +kernel
  have hturns : ({} : Server).InTurns moves := by decide +kernel
  have hasks : numbered (images (({} : Server).entrusted moves)
      ((({} : Server).turns moves).filter (·.session = 0))) = asks := by decide +kernel
  obtain ⟨-, -, -, -, -, -, most, sent, hwrote, hascending, hsublist, -⟩ :=
    requests_are_passed_on_in_turn {} {} moves 0 hbound hturns
  exact ⟨⟨hbound, hturns⟩, ⟨most, sent, hwrote, hascending, hasks ▸ hsublist⟩, by decide +kernel⟩

theorem utf8ByteSize_replicate (n : Nat) : (String.ofList (List.replicate n 'a')).utf8ByteSize = n := by
  rw [String.utf8ByteSize_ofList]
  induction n with
  | zero => rfl
  | succ n ih =>
    rw [List.replicate_succ, String.utf8Len_cons, ih]
    rfl

/-- Breakpoints are not passed on if the path of their source is too large. -/
theorem unwritten_of_large {path : String} (hlarge : Wire.maxFrameBytes < path.utf8ByteSize) :
    let moves : List Move := connecting ++ [
      .step (.receive { seq := 2, command := "setBreakpoints", arguments := breakpointIn path }),
      .prepare, .step (.link 0 (.transmit 1))]
    images (({} : Server).entrusted moves) (({} : Server).turns moves)
      = [.setBreakpoints [{ location := some { line := 3, path } }]] ∧
    writesOf 0 (({} : Server).moves moves).2 = [] := by
  intro moves
  refine ⟨rfl, ?_⟩
  let before : List Move := connecting ++ [
    .step (.receive { seq := 2, command := "setBreakpoints", arguments := breakpointIn path }), .prepare]
  let s := (({} : Server).moves before).1
  obtain ⟨inner, hinner⟩ : ∃ inner, s.inner? 0 = some inner := ⟨_, rfl⟩
  have hcalls : (s.inner? 0).map (·.connection.calls)
      = some [(1, { payload := .setBreakpoints [{ location := some { line := 3, path } }] })] := rfl
  have hlimit : (s.inner? 0).map (·.connection.setup.maxFrameBytes) = some Wire.maxFrameBytes := rfl
  rw [hinner, Option.map_some, Option.some.injEq] at hcalls hlimit
  -- What is written is written in the last step, by the connection.
  have hopen : s.broken = false := rfl
  have hsilent : writesOf 0 (({} : Server).moves before).2 = [] := rfl
  have hwritten : writesOf 0 (({} : Server).moves moves).2 = Connection.writes (inner.connection.transmit 1).2 := by
    calc writesOf 0 (({} : Server).moves moves).2
      _ = writesOf 0 (({} : Server).moves before).2 ++ writesOf 0 (s.moves [.step (.link 0 (.transmit 1))]).2 :=
        writesOf_moves_append {} before [.step (.link 0 (.transmit 1))]
      _ = writesOf 0 (s.moves [.step (.link 0 (.transmit 1))]).2 := by rw [hsilent, List.nil_append]
      _ = Connection.writes (inner.connection.transmit 1).2 := writesOf_link hopen hinner rfl
  rw [hwritten]
  refine Connection.writes_transmit_of_large ?_
  rintro payload ⟨call, hfound, hpayload, -⟩
  rw [hcalls] at hfound
  cases hfound
  cases hpayload
  have hlength := Wire.utf8ByteSize_le_encode path 3 1
  simp only [Connection.fits, hlimit, decide_eq_false_iff_not]
  omega

/-- Not every request is passed on that a connected session gets. If the editor disconnects at once, the session is
closed before the request's task begins. And the frame of a request may be too large. -/
theorem a_request_may_not_be_passed_on :
    (let request : Message := { seq := 2, command := "configurationDone" }
      let moves : List Move := connecting ++ [
        .step (.receive request), .step (.receive { seq := 3, command := "disconnect" }), .step .begin]
      (({} : Server).moves connecting).1.isConnected 0 ∧ (∀ known, request.image known = some .startDebugging) ∧
        (({} : Server).moves moves).1.unanswered.isEmpty ∧ writesOf 0 (({} : Server).moves moves).2 = []) ∧
    (let path := String.ofList (List.replicate (Wire.maxFrameBytes + 1) 'a')
      let moves : List Move := connecting ++ [
        .step (.receive { seq := 2, command := "setBreakpoints", arguments := breakpointIn path }),
        .prepare, .step (.link 0 (.transmit 1))]
      images (({} : Server).entrusted moves) (({} : Server).turns moves)
        = [.setBreakpoints [{ location := some { line := 3, path } }]] ∧
      writesOf 0 (({} : Server).moves moves).2 = []) := by
  refine ⟨⟨by decide +kernel, fun _ => rfl, by decide +kernel, by decide +kernel⟩, unwritten_of_large ?_⟩
  rw [utf8ByteSize_replicate]
  exact Nat.lt_succ_self _

end Server

end DebugBridge.Adapter
