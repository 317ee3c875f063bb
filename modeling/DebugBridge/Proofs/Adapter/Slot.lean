import DebugBridge.Proofs.Adapter.Launches

/-!
# One session at a time

The slot is taken as a launch begins and emptied from where its dial ends, or as the editor disconnects. In between come
other requests, other launches, and whatever becomes of earlier sessions. Still, the session that is there, or may come
about, is the one in the slot, and only a launch that connects is welcomed: `one_session_at_a_time`.
-/

namespace DebugBridge.Adapter

open Debugger (Session SessionEffect)

/-! ## What a run shows of launches -/

/-- The commands that are of no use without a session. -/
def needsSession (command : String) : Bool :=
  command ∈ ["setBreakpoints", "configurationDone", "stackTrace", "variables", "evaluate", "continue", "next", "stepIn",
    "stepOut", "pause"]

namespace Server

/-- The sessions that have come about from one state to another. -/
def newcomers (s s' : Server) : List Nat :=
  (List.range s'.launched).filter fun session => s'.isConnected session && !s.isConnected session

/-- The sessions that come about in a move. -/
def comesAbout (s : Server) (m : Move) : List Nat :=
  (List.range (s.move m).1.launched).filter fun session => (s.move m).1.isConnected session && !s.isConnected session

/-- The sessions that come about in a run, in this order. -/
def connects (s : Server) : List Move → List Nat
  | [] => []
  | m :: rest => s.comesAbout m ++ (s.move m).1.connects rest

/-- The launch that a move begins, if there is one: its arguments can be read, and the slot is empty. -/
def accepts (s : Server) : Move → List Message
  | .step (.receive message) =>
    if s.ending.isNone ∧ message.kind = .request ∧ isLaunch message.command ∧ s.slot.isNone ∧
        (message.readArguments LaunchArguments.record).isOk then [message]
    else []
  | _ => []

/-- The launches that begin in a run. The place of each is the number of its session. -/
def accepted (s : Server) : List Move → List Message
  | [] => []
  | m :: rest => s.accepts m ++ (s.move m).1.accepted rest

/-- A request is answered, and nothing else happens. -/
def OnlyAnswers (s : Server) (request : Message) (success : Bool) (body : Option Json)
    (result : Server × List ServerEffect) : Prop :=
  result.1 = { s with nextSeq := s.nextSeq + 1 } ∧ Loop.links result.2 = [] ∧
    ∃ message, Loop.sent result.2 =
      [.response { seq := s.nextSeq, requestSeq := request.seq, command := request.command, success, message, body }]

/-- A launch begins: it takes the slot, and a task is to connect it. -/
structure Enters (s : Server) (request : Message) (result : Server × List ServerEffect) : Prop where
  slot : result.1.slot = some s.launched
  tasks : result.1.tasks = s.tasks ++ [.connect s.launched]
  launch : ∃ launch, Assoc.find? s.launched result.1.launches = some launch ∧ launch.request = some request ∧
    launch.session.connection.state = .connecting
  links : Loop.links result.2 = []

/-- What becomes of a request that comes next, as far as the slot decides that. -/
structure Admits (s : Server) (request : Message) (result : Server × List ServerEffect) : Prop where
  refuses : isLaunch request.command → s.slot ≠ none ∨ (request.readArguments LaunchArguments.record).isOk = false →
    OnlyAnswers s request false none result
  enters : isLaunch request.command → s.slot = none → (request.readArguments LaunchArguments.record).isOk →
    Enters s request result
  fails : s.slot = none → needsSession request.command → OnlyAnswers s request false none result
  threads : s.slot = none → request.command = "threads" →
    OnlyAnswers s request true (some (.ofMembers [("threads", .array [])])) result
  scopes : s.slot = none → request.command = "scopes" → (request.requiredInt64 "frameId").isOk →
    OnlyAnswers s request true (some (.ofMembers [("scopes", .array [])])) result

/-- What a run shows of the sessions that come about in it, given all launches that have begun: each comes about once at
most and was not there before, and what is sent welcomes just their launches. -/
structure Shows (s : Server) (accepted : List Message) (sessions : List Nat) (effects : List ServerEffect) : Prop where
  once : sessions.Nodup
  due : ∀ session ∈ sessions, s.launched ≤ session ∨
    ∃ launch, Assoc.find? session s.launches = some launch ∧ launch.request.isSome
  welcomed : ∃ launches : List Message, launches.map some = sessions.map (accepted[·]?) ∧
    Welcomes launches (Loop.sent effects)

section

variable {s : Server} {accepted : List Message} {session : Nat} {launch : Launched}

/-! ## Requests -/

theorem accepts_of_ended (hended : s.ending.isSome) (m : Move) : s.accepts m = [] := by
  unfold accepts
  split
  · refine if_neg ?_
    intro h
    simp [Option.isNone_iff_eq_none.1 h.1] at hended
  · rfl

theorem accepts_of_not_launch {message : Message} (hother : isLaunch message.command = false) :
    s.accepts (.step (.receive message)) = [] := by
  simp [accepts, hother]

theorem scopes_passes (s : Server) (frame : Debugger.Reference) :
    Passes s ((s.scopes frame).2, []) := by
  unfold scopes current?
  cases s.slot with
  | none => exact .refl s
  | some session =>
    dsimp only [Option.bind_some]
    cases hfound : Assoc.find? session s.launches with
    | none => exact .refl s
    | some launch => exact setLaunch_passes hfound rfl fun horderly => horderly.refl

theorem ask_passes (request : Message) (hother : isLaunch request.command = false) (what : Debugger.Operation) :
    Passes s (s.ask request what) := by
  unfold ask
  split
  · exact fail_passes s request _
  · exact { Passes.refl s with
      connects := by
        rw [toConnect_append]
        exact List.append_nil _
      asked := fun hasked operation asked hmem => by
        rcases Assoc.mem_insert hmem with heq | hold
        · cases heq
          exact hother
        · exact hasked operation asked hold }

theorem Ordered.launches (hordered : Ordered s accepted) (hreading : s.ending = none) {request : Message}
    (hkind : request.kind = .request) (hcommand : isLaunch request.command = true) :
    Carries s accepted (s.accepts (.step (.receive request))) (s.launch request) := by
  -- What is accepted is decided by what the two tests find.
  have haccepts : ∀ {more : List Message}, (if s.ending.isNone ∧ request.kind = .request ∧ isLaunch request.command ∧
      s.slot.isNone ∧ (request.readArguments LaunchArguments.record).isOk then [request] else []) = more →
      s.accepts (.step (.receive request)) = more := id
  unfold Server.launch
  split
  · next hslot =>
    rw [haccepts (if_neg fun h => by simp [Option.isNone_iff_eq_none.1 h.2.2.2.1] at hslot)]
    exact hordered.passes (fail_passes s request _)
  · next hslot =>
    have hslot : s.slot = none := by simpa using hslot
    split
    · next hinvalid =>
      rw [haccepts (if_neg fun h => by simp [hinvalid, Except.isOk, Except.toBool] at h)]
      exact hordered.passes (fail_passes s request _)
    · next arguments hvalid =>
      rw [haccepts (if_pos
        ⟨by simp [hreading], hkind, hcommand, by simp [hslot], by simp [hvalid, Except.isOk, Except.toBool]⟩)]
      have hlogged : ∀ (s' : Server) (record : Log.Record), Passes s' (s', [.logged record]) :=
        fun s' => (Passes.refl s').log
      dsimp only
      split
      · exact hordered.enter hslot hreading rfl rfl ((output_passes _ "console" _).append (hlogged _ _))
      · exact hordered.enter hslot hreading rfl rfl ((Passes.refl _).append (hlogged _ _))

/-! ## The end -/

/-- A session that a step closes stays closed as the step's effects are told. -/
theorem closed_of_within {held : Launched} {step : Session → Session × List SessionEffect}
    (hheld : Assoc.find? session (s.within session step).1.launches = some held) (hasked : s.AskedApart)
    (hfound : Assoc.find? session s.launches = some launch) (hsteady : launch.session.Steady (step launch.session))
    (hclosed : (step launch.session).1.connection.closed = true) : held.session.connection.closed = true := by
  obtain ⟨changed, hchanged, hsame⟩ := within_listed step hasked hfound hsteady
  obtain rfl : changed = held := Option.some.inj (hchanged.symm.trans hheld)
  exact hsame.closed hclosed

/-- The session in the slot is closed, and the slot is emptied. -/
theorem Ordered.endSession (hordered : Ordered s accepted) : Passes { s with slot := none } s.endSession ∧
    ∀ session launch, s.slot = some session → Assoc.find? session s.endSession.1.launches = some launch →
      launch.session.connection.closed = true := by
  unfold Server.endSession
  split
  · next session hslot =>
    obtain ⟨launch, hfound⟩ := hordered.found (hordered.slot session hslot)
    have hsteady := Session.steady_shutdown (hordered.stands session launch hfound).orderly
    refine ⟨within_passes (s := { s with slot := none }) session hordered.asked fun held hheld => ?_,
      fun other held hother hheld => ?_⟩
    · obtain rfl : launch = held := Option.some.inj (hfound.symm.trans hheld)
      exact hsteady
    · obtain rfl : session = other := Option.some.inj (hslot.symm.trans hother)
      exact closed_of_within hheld hordered.asked hfound hsteady (closed_of_shutdown launch.session)
  · next hslot =>
    refine ⟨{ Passes.refl s with slot := hslot }, fun session launch h => ?_⟩
    rw [hslot] at h
    cases h

/-- The reading of requests ends, and with it the session in the slot. -/
theorem Ordered.leave (hordered : Ordered s accepted) {s' : Server} {effects : List ServerEffect}
    (hpasses : Passes s.endSession.1 (s', effects)) :
    Carries s accepted [] ({ s' with ending := some (.ok ()) }, s.endSession.2 ++ effects) := by
  obtain ⟨hended, hclosed⟩ := hordered.endSession
  have hboth : Passes { s with slot := none } (s', s.endSession.2 ++ effects) := hended.append hpasses
  refine hordered.aside none (some (.ok ())) { hboth with ending := rfl } (by simp) (fun _ => rfl)
    (fun _ _ => .inr rfl) fun session launch hslot hfound => .inr ?_
  obtain ⟨before, hbefore⟩ := hordered.found (hordered.slot session hslot)
  obtain ⟨closed, hclosed', -, hsteady⟩ :=
    hended.listed session before hbefore (hordered.stands session before hbefore).orderly
  obtain ⟨after, hafter, -, hsame⟩ := hpasses.listed session closed hclosed' hsteady.orderly
  obtain rfl : after = launch := Option.some.inj (hafter.symm.trans hfound)
  exact hsame.closed (hclosed session closed hslot hclosed')

theorem Ordered.endInput (hordered : Ordered s accepted) (ending : Except ReadError Unit) :
    Carries s accepted [] (s.endInput ending) := by
  unfold Server.endInput
  split
  · exact hordered.passes (.refl s)
  · next hreading =>
    have hreading : s.ending = none := by simpa using hreading
    split
    · have hleft := hordered.leave (.refl s.endSession.1)
      rwa [List.append_nil] at hleft
    · next error =>
      refine hordered.aside s.slot (some (.error error))
        { Passes.refl s with ending := rfl } (fun _ => id) (by simp) (fun session h => h.imp_right fun hended => ?_)
        fun _ _ h _ => .inl h
      rw [hreading] at hended
      cases hended

theorem Ordered.perform (hordered : Ordered s accepted) (hreading : s.ending = none) {request : Message}
    (hkind : request.kind = .request) :
    Carries s accepted (s.accepts (.step (.receive request))) (s.perform request) := by
  have hother : ∀ {result : Server × List ServerEffect}, isLaunch request.command = false →
      Carries s accepted [] result → Carries s accepted (s.accepts (.step (.receive request))) result := by
    intro result hother hcarries
    rwa [accepts_of_not_launch hother]
  unfold Server.perform
  cases hcommand : Command.of request with
  | error error =>
    have hnot : isLaunch request.command = false :=
      Bool.eq_false_iff.2 fun h => by simp [Command.of_eq_launch.2 h] at hcommand
    exact hother hnot (hordered.passes (fail_passes s request error))
  | ok command =>
    have hnot : command ≠ .launch → isLaunch request.command = false := fun hne =>
      Bool.eq_false_iff.2 fun h => hne (by simpa [Command.of_eq_launch.2 h] using hcommand.symm)
    cases command with
    | launch => exact hordered.launches hreading hkind (Command.of_eq_launch.1 hcommand)
    | capabilities =>
      have hnot := hnot (by simp)
      exact hother hnot (hordered.passes (respond_passes s request true _ none (.inr hnot)))
    | threads =>
      have hnot := hnot (by simp)
      exact hother hnot (hordered.passes (respond_passes s request true _ none (.inr hnot)))
    | unknown =>
      have hnot := hnot (by simp)
      exact hother hnot (hordered.passes (respond_passes s request true none _ (.inr hnot)))
    | scopes frame =>
      have hnot := hnot (by simp)
      exact hother hnot (hordered.passes
        ((scopes_passes s frame).append (respond_passes _ request true _ none (.inr hnot))))
    | operation what =>
      have hnot := hnot (by simp)
      exact hother hnot (hordered.passes (ask_passes request hnot what))
    | disconnect =>
      have hnot := hnot (by simp)
      have hsaid := respond_passes s.endSession.1 request true none none (.inr hnot)
      have hleft := hordered.leave (hsaid.append (terminate_passes _))
      rw [← List.append_assoc] at hleft
      exact hother hnot hleft

theorem Ordered.receive (hordered : Ordered s accepted) (message : Message) :
    Carries s accepted (s.accepts (.step (.receive message))) (s.receive message) := by
  unfold Server.receive
  split
  · next hleft =>
    have hnone : s.accepts (.step (.receive message)) = [] := by
      refine if_neg fun h => ?_
      rcases hleft with hended | hkind
      · simp [Option.isNone_iff_eq_none.1 h.1] at hended
      · exact hkind h.2.1
    rw [hnone]
    exact hordered.passes (.refl s)
  · next hread =>
    obtain ⟨hreading, hkind⟩ := not_or.1 hread
    exact (hordered.perform (by simpa using hreading) (by simpa using hkind)).log _

/-! ## Tasks -/

/-- A session's step in which its dial does not end. -/
theorem Ordered.within (hordered : Ordered s accepted) {tasks : List Task}
    (htasks : toConnect tasks = toConnect s.tasks) (session : Nat) {step : Session → Session × List SessionEffect}
    (hsteady : ∀ inner : Session, inner.connection.Orderly → inner.Steady (step inner)) :
    Carries s accepted [] ({ s with tasks }.within session step) := by
  have hpopped : Passes s ({ s with tasks }, []) := { Passes.refl s with connects := htasks }
  have hstep := within_passes (s := { s with tasks }) session hordered.asked fun launch hfound =>
    hsteady launch.session (hordered.stands session launch hfound).orderly
  exact hordered.passes (hpopped.append hstep)

/-- A step of the connection in which the dial ends is passed on as it is. -/
theorem link_of_endsDial {inner : Session} {action : Connection.Action}
    (hends : inner.connection.EndsDial (inner.connection.step action)) :
    inner.link (·.step action) = ({ inner with connection := (inner.connection.step action).1 },
      (inner.connection.step action).2.map .link) := by
  rcases inner.link_cases action with ⟨answer, operation, running, heffects, -, -⟩ | ⟨-, hlink⟩
  · obtain ⟨before, dial, ending, htold, -⟩ := hends.told
    have hlast := congrArg List.getLast? (htold.symm.trans heffects)
    simp at hlast
  · exact hlink

/-- A session's dial ends in a step of its connection. -/
theorem Ordered.linkEnds (hordered : Ordered s accepted) {tasks : List Task} (honce : (toConnect tasks).Nodup)
    (htasks : ∀ other, other ∈ toConnect tasks ↔ other ∈ toConnect s.tasks ∧ other ≠ session)
    (hfound : Assoc.find? session s.launches = some launch) (hsome : launch.request.isSome) (action : Connection.Action)
    (hends : launch.session.connection.EndsDial (launch.session.connection.step action)) :
    Carries s accepted [] ({ s with tasks }.within session (·.link (·.step action))) := by
  obtain ⟨request, hrequest⟩ := Option.isSome_iff_exists.1 hsome
  have hsettled := hordered.settle honce htasks hfound hrequest
    { launch.session with connection := (launch.session.connection.step action).1 } hends
  unfold Server.within
  rw [show Assoc.find? session ({ s with tasks } : Server).launches = some launch from hfound]
  dsimp only
  rw [link_of_endsDial hends]
  exact hsettled

theorem Ordered.beginConnect (hordered : Ordered s accepted) {tasks : List Task}
    (htasks : s.tasks = .connect session :: tasks) :
    Carries s accepted [] ({ s with tasks }.within session (·.link (·.dial))) := by
  obtain ⟨hmine, honce, hothers⟩ := hordered.popped htasks
  obtain ⟨launch, hfound⟩ := hordered.found (hordered.tasks session hmine)
  have hstands := hordered.stands session launch hfound
  obtain ⟨hnone, hearly⟩ := hstands.fresh hmine
  rcases hstands.orderly.dial hnone hearly with ⟨horderly, hdials, hclosed, hsilent⟩ | hends
  · have hdialled := hordered.dials htasks hfound
      { launch.session with connection := launch.session.connection.dial.1 } horderly hdials hclosed
    unfold Server.within
    rw [show Assoc.find? session ({ s with tasks } : Server).launches = some launch from hfound]
    dsimp only
    rw [show launch.session.link (·.dial) = ({ launch.session with connection := launch.session.connection.dial.1 }, [])
      by simp [Session.link, hsilent, Session.absorb]]
    exact hdialled
  · exact hordered.linkEnds honce hothers hfound (hstands.unanswered.2 (.inl hmine)) .dial hends

/-- A step of the connection that no task has to do. -/
theorem Ordered.link (hordered : Ordered s accepted) (session : Nat) {action : Connection.Action}
    (hother : action.byOwner = false) : Carries s accepted [] (s.within session (·.link (·.step action))) := by
  cases hfound : Assoc.find? session s.launches with
  | none =>
    unfold Server.within
    rw [hfound]
    exact hordered.passes (.refl s)
  | some launch =>
    have hstands := hordered.stands session launch hfound
    rcases hstands.orderly.step hother with hsteady | ⟨hdialing, hends⟩
    · refine hordered.passes (within_passes session hordered.asked fun held hheld => ?_)
      obtain rfl : launch = held := Option.some.inj (hfound.symm.trans hheld)
      exact Session.steady_link hsteady
    · -- Who is dialled for does not wait for its task any more.
      have hnot : session ∉ toConnect s.tasks := fun h => hdialing (hstands.fresh h).1
      refine @Ordered.linkEnds _ _ _ _ hordered s.tasks hordered.once (fun other => ?_) hfound
        (hstands.unanswered.2 (.inr hdialing)) action hends
      refine ⟨fun h => ⟨h, ?_⟩, fun h => h.1⟩
      rintro rfl
      exact hnot h

theorem Ordered.begin (hordered : Ordered s accepted) : Carries s accepted [] s.begin := by
  unfold Server.begin
  split
  · exact hordered.passes (.refl s)
  · next htasks => exact hordered.beginConnect htasks
  · next operation what _ htasks =>
    refine hordered.within (by rw [htasks]; rfl) _ fun inner horderly => ?_
    exact Session.steady_submits (inner.start_submits operation what) (Session.steady_begin horderly operation what)

theorem Ordered.prepare (hordered : Ordered s accepted) : Carries s accepted [] s.prepare := by
  unfold Server.prepare
  split
  · exact hordered.passes (.refl s)
  · next htasks => exact hordered.beginConnect htasks
  · next operation what _ htasks =>
    exact hordered.within (by rw [htasks]; rfl) _ fun inner horderly => Session.steady_begin horderly operation what

/-- What is told is relayed beside the launches. -/
theorem Ordered.relay (hordered : Ordered s accepted) (session : Nat) : Carries s accepted [] (s.relay session) := by
  refine hordered.passes ?_
  unfold Server.relay
  split
  · exact .refl s
  · next launch hfound =>
    split
    · exact .refl s
    · split
      · exact .refl s
      · next delivery inbox _ =>
        dsimp only
        have htaken : Passes s (s.setLaunch session { launch with inbox }, []) :=
          setLaunch_passes hfound rfl fun horderly => horderly.refl
        have hstopped : Passes s ((s.setLaunch session { launch with inbox }).setLaunch session
            { launch with inbox, relaying := false }, []) :=
          htaken.append (@setLaunch_passes _ _ { launch with inbox } _ (Assoc.find?_insert_self _ _ _) rfl
            fun horderly => horderly.refl)
        split
        · exact htaken.log _
        · split
          · exact htaken.append (output_passes _ "console" _)
          · exact htaken
        · split
          · exact htaken.append (output_passes _ "console" _)
          · exact htaken
        · next payload _ =>
          split
          · have hheard : Passes (s.setLaunch session { launch with inbox })
                ((s.setLaunch session { launch with inbox }).within session (·.handleEvent payload)) := by
              refine within_passes session hordered.asked fun held hheld => ?_
              obtain rfl : { launch with inbox } = held :=
                Option.some.inj ((Assoc.find?_insert_self session _ s.launches).symm.trans hheld)
              exact (hordered.stands session launch hfound).orderly.refl
            exact htaken.append hheard
          · exact hstopped
        · split
          · exact hstopped.append ((output_passes _ "stderr" _).append (terminate_passes _))
          · exact hstopped.append (terminate_passes _)

/-- What any move does to the launches. -/
theorem Ordered.move (hordered : Ordered s accepted) (m : Move) : Carries s accepted (s.accepts m) (s.move m) := by
  by_cases hbroken : s.broken = true
  · rw [move_of_broken hbroken, accepts_of_ended (ended_of_broken hbroken)]
    exact hordered.passes (.refl s)
  · cases m with
    | step action =>
      cases action with
      | receive message =>
        simp only [Server.move, Server.step, if_neg hbroken]
        exact hordered.receive message
      | endInput ending =>
        simp only [Server.move, Server.step, if_neg hbroken]
        exact hordered.endInput ending
      | begin =>
        simp only [Server.move, Server.step, if_neg hbroken]
        exact hordered.begin
      | relay session =>
        simp only [Server.move, Server.step, if_neg hbroken]
        exact hordered.relay session
      | collect session operation =>
        simp only [Server.move, Server.step, if_neg hbroken]
        exact hordered.within rfl session fun inner horderly => Session.steady_collect horderly operation
      | takeTurn session =>
        simp only [Server.move, Server.step, if_neg hbroken]
        refine hordered.within rfl session fun inner horderly => ?_
        exact Session.steady_submits inner.takeTurn_submits (Session.steady_turn horderly)
      | link session action =>
        simp only [Server.move, Server.step, if_neg hbroken]
        split
        · exact hordered.passes (.refl s)
        · next hother => exact hordered.link session (by simpa using hother)
    | prepare =>
      simp only [Server.move, if_neg hbroken]
      exact hordered.prepare
    | prepareTurn session =>
      simp only [Server.move, if_neg hbroken]
      exact hordered.within rfl session fun inner horderly => Session.steady_turn horderly

/-! ## Runs -/

/-- In a step no session comes about, or one does, whose launch is welcomed. -/
theorem Carries.newcomers {more : List Message} {result : Server × List ServerEffect} (hordered : Ordered s accepted)
    (hcarries : Carries s accepted more result) : s.newcomers result.1 = [] ∧ Plain result.2 ∨
      ∃ session launch request, s.newcomers result.1 = [session] ∧ Assoc.find? session s.launches = some launch ∧
        launch.request = some request ∧ Welcomes [request] (Loop.sent result.2) := by
  rcases hcarries.welcomed with ⟨hplain, hnone⟩ | ⟨session, launch, request, hfound, hrequest, hwelcomes, hone⟩
  · left
    refine ⟨List.filter_eq_nil_iff.2 ?_, hplain⟩
    intro session _ h
    rw [Bool.and_eq_true, Bool.not_eq_true'] at h
    rw [hnone session h.1] at h
    cases h.2
  · right
    refine ⟨session, launch, request, ?_, hfound, hrequest, hwelcomes⟩
    have hbelow : session < result.1.launched := Nat.lt_of_lt_of_le (hordered.below hfound) hcarries.grown
    have hperm : (s.newcomers result.1).Perm [session] := by
      refine (List.perm_ext_iff_of_nodup (List.nodup_range.filter _) (by simp)).2 ?_
      intro other
      rw [List.mem_filter, hone, List.mem_range, List.mem_singleton]
      constructor
      · exact fun h => h.2
      · exact fun h => ⟨h ▸ hbelow, h⟩
    exact List.perm_singleton.1 hperm

/-- Who is answered is welcomed before, or not any more. -/
theorem Carries.unanswered {more : List Message} {result : Server × List ServerEffect}
    (hordered : Ordered s accepted) (hcarries : Carries s accepted more result)
    (hlater : result.1.launched ≤ session ∨
      ∃ launch, Assoc.find? session result.1.launches = some launch ∧ launch.request.isSome) :
    s.launched ≤ session ∨ ∃ launch, Assoc.find? session s.launches = some launch ∧ launch.request.isSome := by
  rcases hlater with hbelow | ⟨later, hlater, hsome⟩
  · exact .inl (Nat.le_trans hcarries.grown hbelow)
  · refine (Nat.lt_or_ge session s.launched).symm.imp_right fun hbelow => ?_
    obtain ⟨launch, hfound⟩ := hordered.found hbelow
    refine ⟨launch, hfound, Option.isSome_iff_ne_none.2 fun hnone => ?_⟩
    obtain ⟨other, hother, hanswered⟩ := hcarries.answered session launch hfound hnone
    obtain rfl : later = other := Option.some.inj (hlater.symm.trans hother)
    rw [hanswered] at hsome
    cases hsome

theorem Ordered.moves (hordered : Ordered s accepted) (moves : List Move) :
    Ordered (s.moves moves).1 (accepted ++ s.accepted moves) := by
  induction moves generalizing s accepted with
  | nil =>
    rw [Server.accepted, List.append_nil]
    exact hordered
  | cons m rest ih =>
    have hrest := ih (hordered.move m).ordered
    rwa [List.append_assoc] at hrest

theorem Shows.nil (s : Server) (accepted : List Message) : Shows s accepted [] [] where
  once := List.nodup_nil
  due session h := by cases h
  welcomed := ⟨[], rfl, .nil⟩

/-- What a step shows comes before what the rest of the run shows: who has come about is answered, and so will not come
about again. -/
theorem Carries.shows {more launches : List Message} {result : Server × List ServerEffect} {sessions : List Nat}
    {effects : List ServerEffect} (hordered : Ordered s accepted) (hcarries : Carries s accepted more result)
    (hplaces : accepted <+: launches) (hrest : Shows result.1 launches sessions effects) :
    Shows s launches (s.newcomers result.1 ++ sessions) (result.2 ++ effects) := by
  obtain ⟨welcomed, hlaunches, hwelcomes⟩ := hrest.welcomed
  have hbefore := fun session hmem => hcarries.unanswered hordered (hrest.due session hmem)
  rcases hcarries.newcomers hordered with ⟨hnone, hplain⟩ | ⟨session, launch, request, hone, hfound, hrequest, hwelcome⟩
  · rw [hnone, List.nil_append]
    refine ⟨hrest.once, hbefore, welcomed, hlaunches, ?_⟩
    rw [sent_append]
    exact (Welcomes.of_plain hplain).append hwelcomes
  · have hplace : launches[session]? = some request := by
      obtain ⟨later, rfl⟩ := hplaces
      rw [List.getElem?_append_left (hordered.launched ▸ hordered.below hfound)]
      exact (hordered.stands session launch hfound).request request hrequest
    rw [hone]
    refine ⟨List.nodup_append.2 ⟨by simp, hrest.once, ?_⟩, ?_, request :: welcomed, ?_, ?_⟩
    · intro first hfirst other hother
      rw [List.mem_singleton.1 hfirst]
      rintro rfl
      have hthere : session ∈ s.newcomers result.1 := by simp [hone]
      have hconnected := (Bool.and_eq_true_iff.1 (List.mem_filter.1 hthere).2).1
      rcases hrest.due session hother with hbelow | ⟨later, hlater, hsome⟩
      · exact absurd (hordered.below hfound) (Nat.not_lt.2 (Nat.le_trans hcarries.grown hbelow))
      · refine (hcarries.ordered.stands session later hlater).not_connected hsome ?_
        exact (isConnected_of_find? hlater).1 hconnected
    · intro other hmem
      rcases List.mem_append.1 hmem with hself | hrest
      · rw [List.mem_singleton.1 hself]
        exact .inr ⟨launch, hfound, by rw [hrequest]; rfl⟩
      · exact hbefore other hrest
    · simp [hplace, hlaunches]
    · rw [sent_append]
      exact hwelcome.append hwelcomes

/-- Each session comes about once at most, and what is sent welcomes just the launches of those that do. -/
theorem Ordered.connects (hordered : Ordered s accepted) (moves : List Move) :
    Shows s (accepted ++ s.accepted moves) (s.connects moves) (s.moves moves).2 := by
  induction moves generalizing s accepted with
  | nil => exact .nil s _
  | cons m rest ih =>
    have hcarries := hordered.move m
    have hrest := ih hcarries.ordered
    rw [List.append_assoc] at hrest
    exact hcarries.shows hordered (List.prefix_append _ _) hrest

/-! ## Requests while reading -/

theorem receive_eq (hreading : s.ending = none) {message : Message} (hkind : message.kind = .request) :
    ∃ record, s.move (.step (.receive message)) = ((s.perform message).1, .logged record :: (s.perform message).2) := by
  have hopen : s.broken = false := by simp [broken, hreading]
  simp only [Server.move, Server.step, hopen, Bool.false_eq_true, if_false, Server.receive]
  rw [if_neg (by simp [hreading, hkind])]
  exact ⟨_, rfl⟩

theorem onlyAnswers_fail (s : Server) (request : Message) (error : Debugger.Error) :
    OnlyAnswers s request false none (s.fail request error) :=
  ⟨rfl, rfl, some error.message, rfl⟩

theorem OnlyAnswers.log {request : Message} {success : Bool} {body : Option Json} {s' : Server}
    {effects : List ServerEffect} (honly : OnlyAnswers s request success body (s', effects)) (record : Log.Record) :
    OnlyAnswers s request success body (s', .logged record :: effects) :=
  honly

/-- A launch that finds the slot taken, or whose arguments cannot be read. -/
theorem launch_onlyAnswers {request : Message}
    (hrefused : s.slot ≠ none ∨ (request.readArguments LaunchArguments.record).isOk = false) :
    OnlyAnswers s request false none (s.launch request) := by
  unfold Server.launch
  split
  · exact onlyAnswers_fail s request _
  · next hslot =>
    split
    · exact onlyAnswers_fail s request _
    · next hvalid =>
      rcases hrefused with htaken | hinvalid
      · simp [htaken] at hslot
      · simp [hvalid, Except.isOk, Except.toBool] at hinvalid

theorem launch_enters {request : Message} (hslot : s.slot = none)
    (hvalid : (request.readArguments LaunchArguments.record).isOk = true) : Enters s request (s.launch request) := by
  unfold Server.launch
  rw [if_neg (by simp [hslot])]
  cases harguments : request.readArguments LaunchArguments.record with
  | error error => simp [harguments, Except.isOk, Except.toBool] at hvalid
  | ok arguments =>
    dsimp only
    split
    · exact ⟨rfl, rfl, ⟨_, Assoc.find?_insert_self _ _ _, rfl, rfl⟩, rfl⟩
    · exact ⟨rfl, rfl, ⟨_, Assoc.find?_insert_self _ _ _, rfl, rfl⟩, rfl⟩

/-- What needs a session is an operation, unless its arguments are wrong. -/
theorem of_needsSession {request : Message} (hneeds : needsSession request.command = true) :
    (∃ error, Command.of request = .error error) ∨ ∃ what, Command.of request = .ok (.operation what) := by
  have hmapped : ∀ {α : Type} (result : Except Debugger.Error α) (what : α → Debugger.Operation),
      (∃ error, (result.map fun a => Command.operation (what a)) = .error error) ∨
        ∃ operation, (result.map fun a => Command.operation (what a)) = .ok (.operation operation) := by
    intro α result what
    cases result with
    | error error => exact .inl ⟨error, rfl⟩
    | ok a => exact .inr ⟨what a, rfl⟩
  simp only [needsSession, List.mem_cons, List.not_mem_nil, or_false, decide_eq_true_eq] at hneeds
  unfold Command.of
  rcases hneeds with hname | hname | hname | hname | hname | hname | hname | hname | hname | hname <;> rw [hname]
  · cases harguments : request.readArguments BreakpointsArguments.record with
    | error error => exact .inl ⟨error, rfl⟩
    | ok arguments =>
      cases hpath : arguments.path with
      | none =>
        simp only [hpath]
        exact .inl ⟨_, rfl⟩
      | some path =>
        simp only [hpath]
        exact .inr ⟨_, rfl⟩
  · exact .inr ⟨_, rfl⟩
  · exact hmapped _ _
  · exact hmapped _ _
  · cases hexpression : (request.argument? "expression").bind (·.asString?) with
    | none => exact .inl ⟨_, rfl⟩
    | some expression => exact .inr ⟨_, rfl⟩
  · exact hmapped _ _
  · exact hmapped _ _
  · exact hmapped _ _
  · exact hmapped _ _
  · exact .inr ⟨_, rfl⟩

/-- Without a session. -/
theorem perform_of_needsSession {request : Message} (hslot : s.slot = none)
    (hneeds : needsSession request.command = true) : OnlyAnswers s request false none (s.perform request) := by
  unfold Server.perform
  rcases of_needsSession hneeds with ⟨error, hcommand⟩ | ⟨what, hcommand⟩
  · rw [hcommand]
    exact onlyAnswers_fail s request error
  · rw [hcommand]
    simp only [ask, hslot]
    exact onlyAnswers_fail s request _

theorem perform_threads {request : Message} (hslot : s.slot = none) (hname : request.command = "threads") :
    OnlyAnswers s request true (some (.ofMembers [("threads", .array [])])) (s.perform request) := by
  have hcommand : Command.of request = .ok .threads := by
    unfold Command.of
    rw [hname]
    rfl
  simp only [perform, hcommand, current?, hslot]
  exact ⟨rfl, rfl, none, rfl⟩

theorem perform_scopes {request : Message} (hslot : s.slot = none) (hname : request.command = "scopes")
    (hvalid : (request.requiredInt64 "frameId").isOk = true) :
    OnlyAnswers s request true (some (.ofMembers [("scopes", .array [])])) (s.perform request) := by
  cases hframe : request.requiredInt64 "frameId" with
  | error error => simp [hframe, Except.isOk, Except.toBool] at hvalid
  | ok frame =>
    have hcommand : Command.of request = .ok (.scopes frame.toInt) := by
      unfold Command.of
      rw [hname]
      dsimp only
      rw [hframe]
      rfl
    simp only [perform, hcommand, scopes, current?, hslot]
    exact ⟨rfl, rfl, none, rfl⟩

/-- While requests are read. -/
theorem receive_admits (hreading : s.ending = none) {message : Message} (hkind : message.kind = .request) :
    Admits s message (s.move (.step (.receive message))) := by
  obtain ⟨record, hreceive⟩ := receive_eq hreading hkind
  have hlaunch : isLaunch message.command → s.perform message = s.launch message := by
    intro hcommand
    simp only [perform, Command.of_eq_launch.2 hcommand]
  rw [hreceive]
  constructor
  · intro hcommand hrefused
    rw [hlaunch hcommand]
    exact (launch_onlyAnswers hrefused).log record
  · intro hcommand hslot hvalid
    rw [hlaunch hcommand]
    exact { launch_enters hslot hvalid with }
  · intro hslot hneeds
    exact (perform_of_needsSession hslot hneeds).log record
  · intro hslot hname
    exact (perform_threads hslot hname).log record
  · intro hslot hname hvalid
    exact (perform_scopes hslot hname hvalid).log record

end

/-- There is one session at a time. After any run, whatever has become of launches and connections in it:

* A session that is there, or that may still come about, is the one in the slot.
* Each session comes about once at most. What was sent has `initialized` right after the success response of each launch
  whose session has come about, and nowhere else; and nobody else who launches gets a success response.
* Whatever happens next, an unanswered launch waits for its connection, or has got that, or is told that it failed; and
  then the slot is empty.
* A request to launch that comes next takes the slot if that is empty and the arguments can be read, and else is
  refused, with nothing changed. Where the slot is empty, requests that need a session are refused too, and there are no
  threads and no scopes. -/
theorem one_session_at_a_time (defaults : ServerSettings) (files : FileTree) (moves : List Move) :
    let start : Server := { defaults, files }
    let s := (start.moves moves).1
    ((∀ session, s.slot = some session → (Assoc.find? session s.launches).isSome) ∧
      ∀ session launch, Assoc.find? session s.launches = some launch →
        launch.session.connection.state = .connected ∨
          launch.request.isSome ∧ launch.session.connection.closed = false →
        s.slot = some session) ∧
    ((start.connects moves).Nodup ∧
      ∃ launches : List Message, launches.map some = (start.connects moves).map ((start.accepted moves)[·]?) ∧
        Welcomes launches (Loop.sent (start.moves moves).2)) ∧
    (∀ m session launch request, Assoc.find? session s.launches = some launch → launch.request = some request →
      Fate session request (s.move m)) ∧
    (∀ message, s.ending = none → message.kind = .request →
      let result := s.move (.step (.receive message))
      (isLaunch message.command → s.slot ≠ none ∨ (message.readArguments LaunchArguments.record).isOk = false →
        OnlyAnswers s message false none result) ∧
      (isLaunch message.command → s.slot = none → (message.readArguments LaunchArguments.record).isOk →
        Enters s message result) ∧
      (s.slot = none → needsSession message.command → OnlyAnswers s message false none result) ∧
      (s.slot = none → message.command = "threads" →
        OnlyAnswers s message true (some (.ofMembers [("threads", .array [])])) result) ∧
      (s.slot = none → message.command = "scopes" → (message.requiredInt64 "frameId").isOk →
        OnlyAnswers s message true (some (.ofMembers [("scopes", .array [])])) result)) := by
  intro start s
  have hstart : Ordered start [] := .fresh defaults files
  have hordered := hstart.moves moves
  have hshows := hstart.connects moves
  refine ⟨⟨?_, ?_⟩, ⟨hshows.once, hshows.welcomed⟩, ?_, ?_⟩
  · intro session hslot
    exact (hordered.listed session).2 (hordered.slot session hslot)
  · intro session launch hfound
    exact (hordered.stands session launch hfound).current
  · intro m
    exact (hordered.move m).fate
  · intro message hreading hkind
    have hadmits := receive_admits hreading hkind
    exact ⟨hadmits.refuses, hadmits.enters, hadmits.fails, hadmits.threads, hadmits.scopes⟩

/-- A launch that connects at once, and another one that comes too late. -/
example : ({} : Server).connects [.step (.receive { seq := 1, kind := .request, command := "launch" }), .step .begin,
    .step (.receive { seq := 2, kind := .request, command := "attach" }), .step (.link 0 (.opened 0 0)),
    .step (.link 0 (.attach 0))] = [0] := by
  decide

end Server

end DebugBridge.Adapter
