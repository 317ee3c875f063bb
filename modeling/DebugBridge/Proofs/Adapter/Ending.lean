import DebugBridge.Proofs.Adapter.Live

/-!
# The end of a run

After the end no session is left open. What is left to wait for is then sure to come, and the adapter is not finished
before every request that was read has its response.
-/

namespace DebugBridge.Adapter.Server

open Debugger (Session SessionEffect)

section

variable {s : Server} {limit : Nat}

/-! ## The end -/

/-- The reading of requests ends, with the slot empty unless that is for an error. -/
theorem Live.ends {coming : List (Nat × SessionEffect)} (hlive : Live s limit coming)
    {ending : Option (Except ReadError Unit)}
    (hslot : ending = some (.ok ()) → s.slot = none) : Live { s with ending } limit coming :=
  { hlive with
    named := { hlive.named with }
    ended := hslot }

/-- What a session's effects do never fills the slot. -/
theorem absorbOne_slot (hslot : s.slot = none) (session : Nat) (effect : SessionEffect) :
    (s.absorbOne session effect).1.slot = none := by
  unfold absorbOne
  split
  · split <;> exact hslot
  · unfold answerLaunch
    split
    · split
      · dsimp only
        split
        · exact hslot
        · exact ite_eq_left_iff.2 fun _ => hslot
      · exact hslot
    · exact hslot
  · exact hslot
  · exact hslot
  · exact hslot
  · unfold answerOperation
    split
    · dsimp only
      split <;> exact hslot
    · exact hslot
  · exact (tellNews_sameWork s _).slot.trans hslot

theorem absorb_slot (hslot : s.slot = none) (session : Nat) (effects : List SessionEffect) :
    (s.absorb session effects).1.slot = none := by
  induction effects generalizing s with
  | nil => exact hslot
  | cons effect rest ih => exact ih (absorbOne_slot hslot session effect)

/-- Both halves of a shutdown leave the connection closed. -/
theorem closed_of_shutdown (inner : Session) : (inner.link fun c =>
    let (c, first) := c.shutdown
    let (c, later) := c.leave
    (c, first ++ later)).1.connection.closed = true := by
  rw [Session.link_shutdown]
  dsimp only
  rw [Session.link_connection, Session.link_connection]
  simp only [Connection.step, Connection.shutdown, Connection.leave, Connection.takeWriter, Connection.close]
  split <;> simp [*]

/-- The session in the slot is closed, so the slot is emptied. -/
theorem Live.endSession (hlive : Live s limit []) : Live s.endSession.1 limit [] ∧ s.endSession.1.slot = none := by
  unfold Server.endSession
  split
  · next session hslot =>
    unfold Server.within
    dsimp only
    split
    · next launch hfound =>
      have hmem := Assoc.mem_of_find? hfound
      have hshut := hlive.advance hmem fun _ hattended hone _ => Session.minds_shutdown hattended hone
      -- The session is closed before the slot is emptied.
      have hvacant := hshut.vacate fun other held hother hheld => .inl (by
        obtain rfl : session = other := Option.some.inj (hslot.symm.trans hother)
        rw [← hshut.named.launches.unique (mem_setLaunch_self s session _) hheld]
        exact closed_of_shutdown launch.session)
      exact ⟨hvacant.absorb, absorb_slot rfl session _⟩
    · next hnone =>
      obtain ⟨launch, hmem⟩ := hlive.held session hslot
      rw [hlive.named.launches.find?_of_mem hmem] at hnone
      cases hnone
  · next hslot => exact ⟨hlive, hslot⟩

/-! ## Requests -/

theorem Live.more (hlive : Live s limit []) : Live s (limit + 1) [] :=
  { hlive with
    kept := fun session launch hmem =>
      (hlive.kept session launch hmem).retask (by omega) Iff.rfl fun _ _ => Iff.rfl }

theorem attended_fresh (setup : ConnectionSetup) (files : FileTree) (root : Option String) :
    Session.Attended { connection := { setup }, files, root } 0 where
  sound := .fresh setup
  sorted := List.Pairwise.nil
  holder _ h := by cases h
  counted := ⟨0, rfl, Nat.le_refl _, by simp⟩
  distinct := by simp
  called := by simp

/-- A launch takes the slot, which was empty, and gets a task that is to connect it. -/
theorem Live.enter {launch : Launched} (hlive : Live s limit []) (hslot : s.slot = none) (hreading : s.ending = none)
    (hattended : launch.session.Attended 0) (hone : launch.session.connection.OneDial)
    (hnone : launch.session.connection.dials = []) (hstate : launch.session.connection.state = .connecting) :
    Live { s.setLaunch s.launched launch with
      launched := s.launched + 1, slot := some s.launched, tasks := s.tasks ++ [.connect s.launched] } limit [] := by
  have hnew : ∀ {session held}, (session, held) ∈ s.launches → session ≠ s.launched :=
    fun hmem => Nat.ne_of_lt (hlive.named.launchesBelow _ _ hmem)
  have htasks : ∀ task ∈ s.tasks, task.session ≠ s.launched := by
    intro task htask
    obtain ⟨held, hmem⟩ := hlive.begins task htask
    exact hnew hmem
  have hmine : s.launched ∈ toConnect (s.tasks ++ [.connect s.launched]) :=
    mem_toConnect.2 (List.mem_append_right _ (List.mem_singleton_self _))
  refine {
    named := {
      asked := hlive.named.asked
      askedBelow := hlive.named.askedBelow
      launches := hlive.named.launches.insert _ _
      launchesBelow := fun session held hmem => ?_ }
    kept := fun session held hmem => ?_
    held := fun session heq => ⟨launch, ?_⟩
    begins := fun task htask => ?_
    once := ?_
    asked := fun operation asked hasked => ?_
    ended := fun h => ?_ }
  · rcases hlive.named.launches.mem_insert_of_ne hmem with heq | ⟨hmem, -⟩
    · cases heq
      exact Nat.lt_succ_self _
    · exact Nat.lt_succ_of_lt (hlive.named.launchesBelow session held hmem)
  · rcases hlive.named.launches.mem_insert_of_ne hmem with heq | ⟨hmem, hne⟩
    · cases heq
      have hidle : notBegun s.launched (s.tasks ++ [.connect s.launched]) = 0 := by
        rw [notBegun_append, notBegun_of_ne htasks]
        rfl
      exact ⟨⟨0, hattended, by dsimp only; omega⟩, hone, fun _ => ⟨hnone, .inl hstate⟩, fun _ => .inl hmine, .inl rfl,
        fun _ _ h => by cases h⟩
    · -- With the slot empty, every other session is over.
      have hothers : ∀ task ∈ [Task.connect s.launched], task.session ≠ session := by
        simpa [Task.session] using Ne.symm hne
      have hkept : Kept (s.tasks ++ [.connect s.launched]) s.slot limit [] session held :=
        (hlive.kept session held hmem).retask (by rw [notBegun_append, notBegun_of_ne hothers]; omega)
          (by rw [toConnect_append, List.mem_append, or_iff_left (not_mem_toConnect_of_ne hothers)])
          fun _ _ => Iff.rfl
      exact { hkept with gone := .inr (hkept.gone.resolve_left (by simp [hslot])) }
  · cases heq
    exact mem_setLaunch_self s s.launched launch
  · rcases List.mem_append.1 htask with hold | hnew
    · exact listed_setLaunch (hlive.begins task hold) s.launched launch
    · rw [List.mem_singleton.1 hnew]
      exact ⟨launch, mem_setLaunch_self s s.launched launch⟩
  · rw [toConnect_append]
    refine List.nodup_append.2 ⟨hlive.once, by simp [toConnect], fun session hmem other hother => ?_⟩
    rw [List.mem_singleton.1 hother]
    exact htasks _ (mem_toConnect.1 hmem)
  · rcases hlive.asked operation asked hasked with ⟨what, htask⟩ | ⟨held, hheld, hunderWay⟩ | ⟨other, answer, hnone⟩
    · exact .inl ⟨what, List.mem_append_left _ htask⟩
    · exact .inr (.inl ⟨held, Assoc.mem_insert_of_mem hheld (hnew hheld), hunderWay⟩)
    · cases hnone
  · have hstill : s.ending = some (.ok ()) := h
    rw [hreading] at hstill
    cases hstill

theorem Live.launch (hlive : Live s limit []) (hreading : s.ending = none) (request : Message) :
    Live (s.launch request).1 limit [] := by
  unfold Server.launch
  split
  · exact hlive.congr (fail_sameWork s request _)
  · next hslot =>
    have hslot : s.slot = none := by simpa using hslot
    split
    · exact hlive.congr (fail_sameWork s request _)
    · dsimp only
      split
      · refine Live.congr ?_ (output_sameWork _ "console" _)
        exact hlive.enter hslot hreading (attended_fresh _ _ _) ⟨.inl rfl, by simp, by simp, by simp⟩ rfl rfl
      · exact hlive.enter hslot hreading (attended_fresh _ _ _) ⟨.inl rfl, by simp, by simp, by simp⟩ rfl rfl

/-- A request is left to a task of the session in the slot. -/
theorem Live.ask (hlive : Live s limit []) (request : Message) (what : Debugger.Operation) :
    Live (s.ask request what).1 (limit + 1) [] := by
  unfold Server.ask
  split
  · exact hlive.more.congr (fail_sameWork s request _)
  · next session hslot =>
    have hconnect : toConnect (s.tasks ++ [.operation session s.operations what]) = toConnect s.tasks := by
      rw [toConnect_append]
      exact List.append_nil _
    exact {
      named := {
        asked := hlive.named.asked.insert _ _
        askedBelow := fun operation asked hmem => by
          rcases Assoc.mem_insert hmem with heq | hold
          · cases heq
            exact Nat.lt_succ_self _
          · exact Nat.lt_succ_of_lt (hlive.named.askedBelow operation asked hold)
        launches := hlive.named.launches
        launchesBelow := hlive.named.launchesBelow }
      kept := fun other launch hmem => by
        refine (hlive.kept other launch hmem).retask ?_ (by rw [hconnect]) fun _ _ => Iff.rfl
        have hone : notBegun other [.operation session s.operations what] ≤ 1 := List.countP_le_length
        rw [notBegun_append]
        omega
      held := hlive.held
      begins := fun task htask => by
        rcases List.mem_append.1 htask with hold | hnew
        · exact hlive.begins task hold
        · rw [List.mem_singleton.1 hnew]
          exact hlive.held session hslot
      once := hconnect ▸ hlive.once
      asked := fun operation asked hmem => by
        rcases Assoc.mem_insert hmem with heq | hold
        · cases heq
          exact .inl ⟨what, List.mem_append_right _ (List.mem_singleton_self _)⟩
        · exact (hlive.asked operation asked hold).imp_left fun ⟨what, htask⟩ => ⟨what, List.mem_append_left _ htask⟩
      ended := hlive.ended }

theorem Live.scopes (hlive : Live s limit []) (frame : Debugger.Reference) : Live (s.scopes frame).2 limit [] := by
  unfold Server.scopes current?
  cases s.slot with
  | none => exact hlive
  | some session =>
    dsimp only [Option.bind_some]
    cases hfound : Assoc.find? session s.launches with
    | none => exact hlive
    | some launch =>
      exact hlive.change (Assoc.mem_of_find? hfound) (fun _ h => { h with }) (fun _ => id) rfl (.inl rfl)

theorem Live.perform (hlive : Live s limit []) (hreading : s.ending = none) (request : Message) :
    Live (s.perform request).1 (limit + 1) [] := by
  unfold Server.perform
  split
  · exact hlive.more.congr (fail_sameWork s request _)
  · exact hlive.more.congr (respond_sameWork s request true _ none)
  · exact hlive.more.launch hreading request
  · exact hlive.more.congr (respond_sameWork s request true _ none)
  · next frame _ => exact (hlive.more.scopes frame).congr (respond_sameWork _ request true _ none)
  · exact hlive.ask request _
  · obtain ⟨hended, hslot⟩ := hlive.more.endSession
    have hsaid := (respond_sameWork s.endSession.1 request true none none).trans (terminate_sameWork _)
    exact (hended.congr hsaid).ends fun _ => hsaid.slot.trans hslot
  · exact hlive.more.congr (respond_sameWork s request true none _)

/-! ## Runs -/

theorem Live.endInput (hlive : Live s limit []) (ending : Except ReadError Unit) :
    Live (s.endInput ending).1 limit [] := by
  unfold Server.endInput
  split
  · exact hlive
  · split
    · obtain ⟨hended, hslot⟩ := hlive.endSession
      exact hended.ends fun _ => hslot
    · exact hlive.ends fun h => by cases h

/-- A move that reads a request makes room for one more operation. -/
theorem Live.receive (hlive : Live s limit []) (message : Message) (rest : List Move) :
    ∃ more, Live (s.receive message).1 more [] ∧ more + ((s.receive message).1.requestsFrom rest).length ≤
      limit + (s.requestsFrom (.step (.receive message) :: rest)).length := by
  by_cases hread : s.ending.isSome ∨ message.kind ≠ .request
  · obtain ⟨read, -, hrequests⟩ := receive_accounts hlive.named message rest
    refine ⟨limit, ?_, ?_⟩
    · unfold Server.receive
      rw [if_pos hread]
      exact hlive
    · rw [hrequests, List.length_append]
      omega
  · obtain ⟨hreading, hkind⟩ := not_or.1 hread
    refine ⟨limit + 1, ?_, ?_⟩
    · unfold Server.receive
      rw [if_neg hread]
      exact hlive.perform (by simpa using hreading) message
    · rw [requestsFrom_receive hlive.named (by simpa using hreading) (by simpa using hkind), List.length_cons]
      omega

theorem Live.moves_one (hlive : Live s limit []) (hlimit : limit < UInt64.size) (m : Move) (rest : List Move) :
    ∃ more, Live (s.move m).1 more [] ∧
      more + ((s.move m).1.requestsFrom rest).length ≤ limit + (s.requestsFrom (m :: rest)).length := by
  obtain ⟨read, -, hrequests⟩ := move_accounts hlive.named m rest
  have hsame : Live (s.move m).1 limit [] → ∃ more, Live (s.move m).1 more [] ∧
      more + ((s.move m).1.requestsFrom rest).length ≤ limit + (s.requestsFrom (m :: rest)).length :=
    fun hafter => ⟨limit, hafter, by rw [hrequests, List.length_append]; omega⟩
  by_cases hbroken : s.broken = true
  · rw [move_of_broken hbroken] at hsame ⊢
    exact hsame hlive
  · cases m with
    | step action =>
      cases action with
      | receive message =>
        simp only [move, Server.step, if_neg hbroken]
        exact hlive.receive message rest
      | endInput ending =>
        simp only [move, Server.step, if_neg hbroken] at hsame ⊢
        exact hsame (hlive.endInput ending)
      | begin =>
        simp only [move, Server.step, if_neg hbroken] at hsame ⊢
        exact hsame (hlive.begin hlimit)
      | relay session =>
        simp only [move, Server.step, if_neg hbroken] at hsame ⊢
        exact hsame (hlive.relay session)
      | collect session operation =>
        simp only [move, Server.step, if_neg hbroken] at hsame ⊢
        exact hsame (hlive.step fun hattended hone _ => Session.minds_collect hattended hone operation)
      | takeTurn session =>
        simp only [move, Server.step, if_neg hbroken] at hsame ⊢
        refine hsame (hlive.step fun {inner} _ hattended hone hroom => ?_)
        exact (Session.minds_turn hattended hone (by omega)).submits inner.takeTurn_submits
      | link session action =>
        simp only [move, Server.step, if_neg hbroken] at hsame ⊢
        split at hsame
        · next howner => simpa [howner] using hsame hlive
        · next hother =>
          rw [if_neg hother]
          exact hsame (hlive.step fun hattended hone _ => Session.minds_link hattended hone (by simpa using hother))
    | prepare =>
      simp only [move, if_neg hbroken] at hsame ⊢
      exact hsame (hlive.prepare hlimit)
    | prepareTurn session =>
      simp only [move, if_neg hbroken] at hsame ⊢
      exact hsame (hlive.step fun hattended hone hroom => Session.minds_turn hattended hone (by omega))

theorem Live.moves (hlive : Live s limit []) (moves : List Move)
    (hbound : limit + (s.requestsFrom moves).length < UInt64.size) : ∃ more, Live (s.moves moves).1 more [] := by
  induction moves generalizing s limit with
  | nil => exact ⟨limit, hlive⟩
  | cons m rest ih =>
    obtain ⟨more, hafter, hroom⟩ := hlive.moves_one (by omega) m rest
    have hrest : more + ((s.move m).1.requestsFrom rest).length < UInt64.size := by omega
    exact ih hafter hrest

/-! ## When nothing can happen -/

theorem inSession?_eq_none {α : Type} {what : Launched → Option α} (hnone : s.inSession? what = none) :
    ∀ session launch, (session, launch) ∈ s.launches → what launch = none :=
  fun _ _ hmem => Option.map_eq_none_iff.1 (List.findSome?_eq_none_iff.1 hnone _ hmem)

/-- Nothing can happen that needs nothing from outside. -/
theorem next?_eq_none (hopen : s.broken = false) (hnext : s.next? = none) : s.tasks = [] ∧
    ∀ session launch, (session, launch) ∈ s.launches → install? launch.session.connection = none ∧
      collect? launch.session = none ∧ (launch.session.syncing = none → launch.session.queue = []) := by
  simp only [next?, hopen, Bool.false_eq_true, if_false, inLink?, Option.orElse_eq_orElse, Option.orElse_eq_or,
    Option.or_eq_none_iff, Option.map_eq_none_iff] at hnext
  obtain ⟨hinstall, hbegin, hcollect, -, hturn, -⟩ := hnext
  refine ⟨by simpa using hbegin, fun session launch hmem => ⟨inSession?_eq_none hinstall session launch hmem,
    inSession?_eq_none hcollect session launch hmem, fun hsyncing => ?_⟩⟩
  have hline := inSession?_eq_none hturn session launch hmem
  simpa [hsyncing] using hline

/-- No dial goes on where none has a stream to install, one to open or a time to wait for. -/
theorem Idle.dials (hidle : Idle s) (hopen : s.broken = false) {session : Nat} {launch : Launched}
    (hmem : (session, launch) ∈ s.launches) : launch.session.connection.dials = [] := by
  obtain ⟨-, hquiet⟩ := next?_eq_none hopen hidle.next
  have hinstall := List.findSome?_eq_none_iff.1 (hquiet session launch hmem).1
  have herrands := List.flatMap_eq_nil_iff.1 hidle.errands _ hmem
  refine List.eq_nil_iff_forall_not_mem.2 fun (dial, stage) hdial => ?_
  have hinstall := hinstall _ hdial
  have herrand := List.filterMap_eq_nil_iff.1 herrands _ hdial
  cases stage with
  | opening attempt => cases herrand
  | resting attempt => cases herrand
  | attaching stream => cases hinstall
  | discarding => cases hinstall

/-- No operation is under way in a session that is over and in which nothing can happen. -/
theorem Idle.not_underWay (hidle : Idle s) (hopen : s.broken = false) {session : Nat} {launch : Launched}
    (hmem : (session, launch) ∈ s.launches) (hkept : Kept s.tasks none limit [] session launch) (operation : Nat) :
    ¬launch.session.UnderWay operation := by
  obtain ⟨room, hattended, -⟩ := hkept.attended
  obtain ⟨-, hcollect, hturn⟩ := (next?_eq_none hopen hidle.next).2 session launch hmem
  -- A connection with calls was closed, and then every call has an outcome.
  have hclosed : launch.session.connection.calls ≠ [] → launch.session.connection.closed = true := by
    intro hcalls
    rcases hkept.gone with hslot | hclosed | ⟨-, -, hlost⟩
    · cases hslot
    · exact hclosed
    · rcases hkept.oneDial.idle hcalls with hconnected | hclosed
      · exact hlost.resolve_left (not_not_intro hconnected)
      · exact hclosed
  have hnone : ∀ other running, (other, running) ∉ launch.session.running := by
    intro other running hrunning
    obtain ⟨call, hfound⟩ := hattended.called other running hrunning
    have hcall := Assoc.mem_of_find? hfound
    have hsent := hidle.submitted session launch hmem running.number call hcall
    have hdone := hclosed (List.ne_nil_of_mem hcall)
    cases houtcome : call.outcome with
    | none =>
      have hpending := hattended.sound.awaited running.number call hfound houtcome
      rw [hattended.sound.emptied hdone] at hpending
      cases hpending
    | some outcome =>
      have hstep := List.findSome?_eq_none_iff.1 hcollect _ hrunning
      obtain ⟨payload, sent, held⟩ := call
      obtain rfl : sent = true := hsent
      obtain rfl : held = some outcome := houtcome
      simp [hfound] at hstep
  rintro (⟨running, hrunning⟩ | ⟨queued, hqueued, -⟩)
  · exact hnone operation running hrunning
  · -- Without anyone to hold the turn, the line has to be empty.
    have hsyncing : launch.session.syncing = none := by
      cases hheld : launch.session.syncing with
      | none => rfl
      | some holder =>
        obtain ⟨running, hrunning⟩ := hattended.holder holder hheld
        exact absurd hrunning (hnone holder running)
    rw [hturn hsyncing] at hqueued
    cases hqueued

/-- After the end, the adapter does not stop before everything is done. -/
theorem Live.finished_of_idle (hlive : Live s limit []) (hended : s.ending = some (.ok ())) (hidle : Idle s) :
    s.finished = true := by
  have hopen : s.broken = false := by rw [broken, hended]
  have htasks := (next?_eq_none hopen hidle.next).1
  have hasked : s.asked = [] := by
    refine List.eq_nil_iff_forall_not_mem.2 fun (operation, asked) hmem => ?_
    rcases hlive.asked operation asked hmem with ⟨what, htask⟩ | ⟨launch, hheld, hunderWay⟩ | ⟨other, answer, hnone⟩
    · rw [htasks] at htask
      cases htask
    · have hkept := hlive.kept _ launch hheld
      rw [hlive.ended hended] at hkept
      exact hidle.not_underWay hopen hheld hkept operation hunderWay
    · cases hnone
  have hdials : s.launches.all (·.2.session.connection.dials.isEmpty) = true :=
    List.all_eq_true.2 fun (session, launch) hmem => List.isEmpty_iff.2 (hidle.dials hopen hmem)
  simp [finished, hended, htasks, hasked, hdials]

/-- When everything is done, every request has its response. -/
theorem Live.unanswered_of_finished (hlive : Live s limit []) (hended : s.ending = some (.ok ()))
    (hfinished : s.finished = true) : s.unanswered = [] := by
  have hopen : s.broken = false := by rw [broken, hended]
  simp only [finished, hopen, Bool.false_or, Bool.and_eq_true, List.isEmpty_iff, List.all_eq_true] at hfinished
  obtain ⟨⟨⟨-, htasks⟩, hasked⟩, hdials⟩ := hfinished
  have hlaunches : s.launches.filterMap (·.2.request) = [] := by
    refine List.filterMap_eq_nil_iff.2 fun (session, launch) hmem => ?_
    refine Option.not_isSome_iff_eq_none.1 fun hrequest => ?_
    rcases (hlive.kept session launch hmem).request hrequest with htask | hdialing | ⟨dial, ending, hnone⟩
    · rw [htasks] at htask
      cases htask
    · exact hdialing (hdials _ hmem)
    · cases hnone
  rw [unanswered, hlaunches, hasked]
  rfl

/-! ## The adapter -/

theorem live_fresh (defaults : ServerSettings) (files : FileTree) : Live { defaults, files } 0 [] where
  named := ⟨.nil, by simp, .nil, by simp⟩
  kept := by simp
  held := by simp
  begins := by simp
  once := .nil
  asked := by simp
  ended := by simp

/-- In whatever order requests, replies and events come:

* Messages to the editor are numbered from 1 on, in the order in which they are sent.
* Each response is for a request of its own, and carries that request's number and command.
* What is no request changes nothing.
* After an end that is no error, the adapter does not come to rest before it is finished, and then every request that
  was read has its response. The calls to a server are told apart by their numbers, so there must not have been as many
  requests as there are numbers. -/
theorem every_request_is_answered_once (defaults : ServerSettings) (files : FileTree) (moves : List Move) :
    let (s, effects) := ({ defaults, files } : Server).moves moves
    (Loop.sent effects).map (·.seq) = (List.range (Loop.sent effects).length).map (fun (i : Nat) => 1 + (i : Int)) ∧
    (∃ answered, List.Forall₂ Answers (responses effects) answered ∧
      (answered ++ s.unanswered).Perm (requestsRead moves)) ∧
    (∀ message : Message, message.kind ≠ .request → s.move (.step (.receive message)) = (s, [])) ∧
    ((requestsRead moves).length < UInt64.size → s.ending = some (.ok ()) →
      (s.Idle → s.finished = true) ∧
      (s.finished = true → ∃ answered, List.Forall₂ Answers (responses effects) answered ∧
        answered.Perm (requestsRead moves))) := by
  have hlive := live_fresh defaults files
  have haccounts := moves_accounts hlive.named moves
  obtain ⟨answered, hanswers, howed⟩ := haccounts.answered
  refine ⟨haccounts.numbered, ⟨answered, hanswers, howed⟩, fun message hkind => ?_, fun hbound hended => ?_⟩
  · simp only [move, Server.step, receive, hkind, ne_eq, not_false_eq_true, or_true, if_true, ite_self]
  · obtain ⟨limit, hafter⟩ := hlive.moves moves (by simpa [requestsFrom] using hbound)
    refine ⟨hafter.finished_of_idle hended, fun hfinished => ⟨answered, hanswers, ?_⟩⟩
    rw [hafter.unanswered_of_finished hended hfinished, List.append_nil] at howed
    exact howed

/-- When the editor disconnects, one request waits for the server and another one for its task. -/
theorem every_request_is_answered_once_after_disconnect :
    let request (seq : Int64) (command : String) : Move := .step (.receive { seq, command })
    let moves : List Move :=
      [request 1 "launch", .step .begin, .step (.link 0 (.opened 0 7)), .step (.link 0 (.attach 0)), .step (.relay 0),
        request 2 "configurationDone", .step .begin, request 3 "pause", request 4 "disconnect",
        .step .begin, .step (.collect 0 0), .step (.relay 0), .step (.link 0 .stopReading)]
    let (s, effects) := ({} : Server).moves moves
    ((requestsRead moves).length < UInt64.size ∧ s.ending = some (.ok ()) ∧ s.Idle) ∧
      (∃ answered, List.Forall₂ Answers (responses effects) answered ∧ answered.Perm (requestsRead moves)) ∧
      (responses effects).map (·.requestSeq) = [1, 4, 3, 2] := by
  intro request moves
  have hbound : (requestsRead moves).length < UInt64.size := by decide +kernel
  have hended : (({} : Server).moves moves).1.ending = some (.ok ()) := by rfl
  have hidle : (({} : Server).moves moves).1.Idle := {
    next := Option.isNone_iff_eq_none.1 (by decide +kernel)
    errands := by decide +kernel
    submitted := by
      have hcalls : ((({} : Server).moves moves).1.launches.all
          (·.2.session.connection.calls.all (·.2.sent))) = true := by decide +kernel
      intro session launch hmem number call hcall
      exact List.all_eq_true.1 (List.all_eq_true.1 hcalls _ hmem) _ hcall }
  obtain ⟨-, -, -, hend⟩ := every_request_is_answered_once {} {} moves
  obtain ⟨hfinished, hanswered⟩ := hend hbound hended
  exact ⟨⟨hbound, hended, hidle⟩, hanswered (hfinished hidle), by decide +kernel⟩

end

end DebugBridge.Adapter.Server
