import DebugBridge.Proofs.Connection.History

/-!
# What a step does to the calls

A connection has many kinds of step, but only a few of them touch its calls. `CallStep` lists what a step can do
to the calls and to the table of pending numbers, with all that has to hold for it and all that is noticed of it;
`step_callStep` shows that there is nothing else. What is said about calls is proved by cases on `CallStep`.
-/

namespace DebugBridge

/-- Whether an error is found on this side: the request was not sent, was waited for too long, or its connection was
closed. -/
def CallError.isLocal : CallError → Bool
  | io _ | protocol _ | notConnected | connectionClosed | timeout => true
  | _ => false

namespace Connection

/-- The calls, and what decides about them, are the same in two connections. -/
structure SameCalls (c c' : Connection) : Prop where
  setup : c'.setup = c.setup
  closed : c'.closed = c.closed
  nextNumber : c'.nextNumber = c.nextNumber
  pending : c'.pending = c.pending
  calls : c'.calls = c.calls

/-- Whether an effect is about no call: it writes no request and answers no caller. -/
def Silent : Effect → Prop
  | .wrote .. | .answered .. => False
  | _ => True

/-- A call as closing leaves it: it is to end if its number is pending. -/
def failCall (c : Connection) (number : UInt64) (call : Call) : Call :=
  if number ∈ c.pending then { call with outcome := some (.error .connectionClosed) } else call

/-- The calls as closing leaves them. -/
def failPending (c : Connection) : List (UInt64 × Call) :=
  c.calls.map fun (number, call) => (number, c.failCall number call)

/-- What a step can do to the calls: the connection after it, and what has happened. -/
inductive CallStep (c : Connection) : Connection → List Moment → Prop
  /-- Nothing happens to a call, and only an open connection becomes connected. -/
  | quiet {c' : Connection} {effects : List Effect} (same : SameCalls c c')
      (state : c'.state = .connected → c.state = .connected ∨ c.closed = false)
      (silent : ∀ effect ∈ effects, Silent effect) : CallStep c c' (effects.map .did)
  /-- A call begins. -/
  | issued (payload : Wire.Request.Payload) (connected : c.state = .connected) :
      CallStep c
        { c with
          nextNumber := c.nextNumber + 1
          pending := c.pending ++ [c.nextNumber]
          calls := Assoc.insert c.nextNumber { payload } c.calls }
        [.issued c.nextNumber payload]
  /-- A request is written. -/
  | sent {number : UInt64} {call : Call} {bytes : Bytes} (stream : StreamId)
      (found : Assoc.find? number c.calls = some call) (unsent : call.sent = false)
      (framed : Wire.frame c.setup.maxFrameBytes { number, payload := some call.payload : Wire.Request }.encode
        = .ok bytes) :
      CallStep c { c with calls := Assoc.insert number { call with sent := true } c.calls }
        [.did (.wrote stream bytes)]
  /-- A call fails on this side: it could not be sent, or has waited too long. -/
  | failed {number : UInt64} {call : Call} {error : CallError} (found : Assoc.find? number c.calls = some call)
      (cause : call.sent = false ∧ error.isLocal = true ∨ call.sent = true ∧ call.outcome = none ∧ error = .timeout) :
      CallStep c { c with pending := c.pending.erase number, calls := Assoc.erase number c.calls }
        [.did (.answered number (.error error))]
  /-- A call ends with what its waiting ended with. -/
  | collected {number : UInt64} {payload : Wire.Request.Payload} {outcome : Except CallError Wire.Event}
      (found : Assoc.find? number c.calls = some { payload, sent := true, outcome := some outcome }) :
      CallStep c { c with calls := Assoc.erase number c.calls } [.did (.answered number (result payload outcome))]
  /-- A call is dropped. -/
  | dropped (number : UInt64) : CallStep c { c with calls := Assoc.erase number c.calls } [.dropped number]
  /-- A message comes that no call waits for. -/
  | ignored {c' : Connection} {effects : List Effect} (event : Wire.Event) (same : SameCalls c c')
      (state : c'.state = c.state) (unawaited : event.number = 0 ∨ event.number ∉ c.pending)
      (silent : ∀ effect ∈ effects, Silent effect) : CallStep c c' (.received event :: effects.map .did)
  /-- A message comes with a pending number. -/
  | resolved {event : Wire.Event} {call : Call} (incoming : Option Incoming) (nonzero : event.number ≠ 0)
      (awaited : event.number ∈ c.pending) (found : Assoc.find? event.number c.calls = some call) :
      CallStep c
        { c with
          incoming
          pending := c.pending.erase event.number
          calls := Assoc.insert event.number { call with outcome := some (.ok event) } c.calls }
        [.received event]
  /-- A message comes with a pending number whose call was dropped. -/
  | resolvedDropped {event : Wire.Event} (incoming : Option Incoming) (nonzero : event.number ≠ 0)
      (awaited : event.number ∈ c.pending) (gone : Assoc.find? event.number c.calls = none) :
      CallStep c { c with incoming, pending := c.pending.erase event.number } [.received event]
  /-- The connection is closed. -/
  | shut {c' : Connection} {effects : List Effect} (wasOpen : c.closed = false) (setup : c'.setup = c.setup)
      (closed : c'.closed = true) (state : c'.state ≠ .connected) (nextNumber : c'.nextNumber = c.nextNumber)
      (pending : c'.pending = []) (calls : c'.calls = c.failPending)
      (silent : ∀ effect ∈ effects, Silent effect) : CallStep c c' (effects.map .did)

/-! ## Quiet steps -/

/-- A step that is no concern of the calls. -/
structure Quiet (c : Connection) (after : Connection × List Effect) : Prop where
  same : SameCalls c after.1
  state : after.1.state = .connected → c.state = .connected ∨ c.closed = false
  silent : ∀ effect ∈ after.2, Silent effect

theorem Quiet.callStep {c : Connection} {after : Connection × List Effect} (hquiet : Quiet c after) :
    CallStep c after.1 (after.2.map .did) :=
  .quiet hquiet.same hquiet.state hquiet.silent

theorem SameCalls.refl (c : Connection) : SameCalls c c :=
  ⟨rfl, rfl, rfl, rfl, rfl⟩

theorem Quiet.none (c : Connection) : Quiet c (c, []) :=
  ⟨.refl c, .inl, by simp⟩

theorem endDial_quiet (c : Connection) (dial : Nat) (result : Except CallError Unit) :
    Quiet c (c.endDial dial result) :=
  ⟨⟨rfl, rfl, rfl, rfl, rfl⟩, .inl, by simp [endDial, Silent]⟩

theorem takeWriter_quiet (c : Connection) : Quiet c c.takeWriter := by
  refine ⟨⟨rfl, rfl, rfl, rfl, rfl⟩, .inl, fun effect heffect => ?_⟩
  cases hwriter : c.writer with
  | none => simp [takeWriter, hwriter] at heffect
  | some stream =>
    simp only [takeWriter, hwriter, Option.map_some, Option.toList_some, List.mem_singleton] at heffect
    rw [heffect]
    trivial

theorem attempt_quiet (c : Connection) (dial number : Nat) : Quiet c (c.attempt dial number) := by
  unfold attempt
  split
  · exact endDial_quiet c dial _
  · exact ⟨⟨rfl, rfl, rfl, rfl, rfl⟩, .inl, by simp⟩

theorem dial_quiet (c : Connection) : Quiet c c.dial := by
  have hattempt := attempt_quiet { c with dialed := c.dialed + 1 } c.dialed 1
  unfold dial
  dsimp only
  split
  · exact ⟨⟨rfl, rfl, rfl, rfl, rfl⟩, .inl, by simp [Silent]⟩
  · exact ⟨⟨hattempt.same.setup, hattempt.same.closed, hattempt.same.nextNumber, hattempt.same.pending,
      hattempt.same.calls⟩, hattempt.state, hattempt.silent⟩

theorem refused_quiet (c : Connection) (dial : Nat) (cause : String) : Quiet c (c.refused dial cause) := by
  unfold refused
  split
  · split
    · exact ⟨⟨rfl, rfl, rfl, rfl, rfl⟩, .inl, by simp [Silent]⟩
    · exact ⟨⟨rfl, rfl, rfl, rfl, rfl⟩, fun hstate => by simp [endDial] at hstate, by simp [endDial, Silent]⟩
  · exact .none c

theorem retry_quiet (c : Connection) (dial : Nat) : Quiet c (c.retry dial) := by
  unfold retry
  split
  · exact attempt_quiet c dial _
  · exact .none c

theorem giveUp_quiet (c : Connection) (dial : Nat) : Quiet c (c.giveUp dial) := by
  unfold giveUp
  split
  · split
    · exact endDial_quiet c dial _
    · exact .none c
  · exact .none c

theorem opened_quiet (c : Connection) (dial : Nat) (stream : StreamId) : Quiet c (c.opened dial stream) := by
  unfold opened
  split
  · exact ⟨⟨rfl, rfl, rfl, rfl, rfl⟩, .inl, by simp⟩
  · exact .none c

theorem attach_quiet (c : Connection) (dial : Nat) : Quiet c (c.attach dial) := by
  unfold attach
  dsimp only
  split
  · split
    · exact ⟨⟨rfl, rfl, rfl, rfl, rfl⟩, .inl, by simp⟩
    · next hnew =>
      simp only [not_or, Bool.not_eq_true] at hnew
      exact ⟨⟨rfl, rfl, rfl, rfl, rfl⟩, fun _ => .inr hnew.1, by simp [endDial, Silent]⟩
  · exact .none c

theorem discard_quiet (c : Connection) (dial : Nat) : Quiet c (c.discard dial) := by
  have htaken := takeWriter_quiet c
  unfold discard
  split
  · refine ⟨⟨rfl, rfl, rfl, rfl, rfl⟩, .inl, fun effect heffect => ?_⟩
    rcases List.mem_append.1 heffect with heffect | heffect
    · exact htaken.silent effect heffect
    · exact (endDial_quiet c dial _).silent effect heffect
  · exact .none c

theorem dropDial_quiet (c : Connection) (dial : Nat) : Quiet c (c.dropDial dial, []) :=
  ⟨⟨rfl, rfl, rfl, rfl, rfl⟩, .inl, by simp⟩

theorem leave_quiet (c : Connection) : Quiet c c.leave := by
  have htaken := takeWriter_quiet c
  unfold leave
  split
  · exact .none c
  · exact ⟨⟨rfl, rfl, rfl, rfl, rfl⟩, .inl, htaken.silent⟩

theorem arrive_quiet (c : Connection) (bytes : Bytes) : Quiet c (c.arrive bytes) := by
  unfold arrive
  split
  · split
    · exact .none c
    · exact ⟨⟨rfl, rfl, rfl, rfl, rfl⟩, .inl, by simp⟩
  · exact .none c

theorem arriveEnd_quiet (c : Connection) : Quiet c c.arriveEnd := by
  unfold arriveEnd
  split
  · exact ⟨⟨rfl, rfl, rfl, rfl, rfl⟩, .inl, by simp⟩
  · exact .none c

theorem stopReading_quiet (c : Connection) : Quiet c c.stopReading := by
  unfold stopReading
  split
  · exact ⟨⟨rfl, rfl, rfl, rfl, rfl⟩, .inl, by simp⟩
  · exact .none c

/-! ## Steps of the calls -/

theorem issue_callStep (c : Connection) (payload : Wire.Request.Payload) :
    CallStep c (c.step (.issue payload)).1 (c.moments (.issue payload)) := by
  by_cases hconnected : c.state = .connected
  · have hissue : c.issue payload = .ok (c.nextNumber, { c with
        nextNumber := c.nextNumber + 1
        pending := c.pending ++ [c.nextNumber]
        calls := Assoc.insert c.nextNumber { payload } c.calls }) := by
      simp [issue, hconnected]
    simp only [moments, intake, step, hissue, List.map_nil, List.append_nil]
    exact .issued payload hconnected
  · have hissue : c.issue payload = .error .notConnected := by simp [issue, hconnected]
    simp only [moments, intake, step, hissue]
    exact (Quiet.none c).callStep

theorem transmit_callStep (c : Connection) (number : UInt64) :
    CallStep c (c.transmit number).1 ((c.transmit number).2.map .did) := by
  unfold transmit
  split
  · next call hfound =>
    split
    · exact (Quiet.none c).callStep
    · next hunsent =>
      have hunsent : call.sent = false := by simpa using hunsent
      split
      · exact .failed hfound (.inl ⟨hunsent, rfl⟩)
      · next stream _ =>
        split
        · exact .failed hfound (.inl ⟨hunsent, rfl⟩)
        · next hframed => exact .sent stream hfound hunsent hframed
  · exact (Quiet.none c).callStep

theorem transmitFailed_callStep (c : Connection) (number : UInt64) (cause : String) :
    CallStep c (c.transmitFailed number cause).1 ((c.transmitFailed number cause).2.map .did) := by
  unfold transmitFailed
  split
  · next call hfound =>
    split
    · exact (Quiet.none c).callStep
    · next hunsent =>
      simp only [not_or, Bool.not_eq_true] at hunsent
      exact .failed hfound (.inl ⟨hunsent.1, rfl⟩)
  · exact (Quiet.none c).callStep

theorem collect_callStep (c : Connection) (number : UInt64) :
    CallStep c (c.collect number).1 ((c.collect number).2.map .did) := by
  unfold collect
  split
  · next hfound => exact .collected hfound
  · exact (Quiet.none c).callStep

theorem expire_callStep (c : Connection) (number : UInt64) :
    CallStep c (c.expire number).1 ((c.expire number).2.map .did) := by
  unfold expire
  split
  · next hfound => exact .failed hfound (.inr ⟨rfl, rfl, rfl⟩)
  · exact (Quiet.none c).callStep

/-- Closing, with whatever becomes of the stream and of those who leave, shuts an open connection and does nothing to
a closed one. -/
theorem close_callStep (c : Connection) (incoming : Option Incoming) (error : Option String) (leaving : Nat → Nat) :
    let after := { c with incoming }.close error
    CallStep c { after.1 with leaving := leaving after.1.leaving } (after.2.map .did) := by
  unfold close
  split
  · exact .quiet ⟨rfl, rfl, rfl, rfl, rfl⟩ .inl (by simp)
  · next hopen =>
    refine .shut (by simpa using hopen) rfl rfl ?_ rfl rfl rfl (by simp [Silent])
    cases error <;> simp

theorem dispatch_callStep (c : Connection) (incoming : Option Incoming) (event : Wire.Event) :
    CallStep c ({ c with incoming }.dispatch event).1
      (.received event :: ({ c with incoming }.dispatch event).2.map .did) := by
  unfold dispatch
  split
  · next hnews =>
    refine .ignored event ⟨rfl, rfl, rfl, rfl, rfl⟩ rfl (.inl hnews) fun effect heffect => ?_
    simp only [Option.mem_toList, Option.map_eq_some_iff] at heffect
    obtain ⟨payload, -, rfl⟩ := heffect
    trivial
  · next hnonzero =>
    split
    · next hawaited =>
      dsimp only
      split
      · next hfound => exact .resolved incoming hnonzero hawaited hfound
      · next hgone => exact .resolvedDropped incoming hnonzero hawaited hgone
    · next hstray => exact .ignored event ⟨rfl, rfl, rfl, rfl, rfl⟩ rfl (.inr hstray) (by simp)

theorem read_callStep (c : Connection) : CallStep c (c.step .read).1 (c.moments .read) := by
  unfold moments
  cases hincoming : c.incoming with
  | none =>
    simp only [step, intake, read, hincoming]
    exact (Quiet.none c).callStep
  | some incoming =>
    simp only [step, intake, read, hincoming]
    cases Wire.next c.setup.maxFrameBytes Wire.Event.decode incoming.unread with
    | message event rest => exact dispatch_callStep c _ event
    | refused error rest => exact close_callStep c none _ id
    | wait =>
      dsimp only
      split
      · exact (Quiet.none c).callStep
      · exact close_callStep c none _ id

theorem readFailed_callStep (c : Connection) (cause : String) :
    CallStep c (c.readFailed cause).1 ((c.readFailed cause).2.map .did) := by
  unfold readFailed
  split
  · exact close_callStep c none _ id
  · exact (Quiet.none c).callStep

/-- Every step is one of these. -/
theorem step_callStep (c : Connection) (action : Action) : CallStep c (c.step action).1 (c.moments action) := by
  cases action with
  | dial => exact (dial_quiet c).callStep
  | opened dial stream => exact (opened_quiet c dial stream).callStep
  | refused dial cause => exact (refused_quiet c dial cause).callStep
  | retry dial => exact (retry_quiet c dial).callStep
  | giveUp dial => exact (giveUp_quiet c dial).callStep
  | attach dial => exact (attach_quiet c dial).callStep
  | discard dial => exact (discard_quiet c dial).callStep
  | dropDial dial => exact (dropDial_quiet c dial).callStep
  | issue payload => exact issue_callStep c payload
  | transmit number => exact transmit_callStep c number
  | transmitFailed number cause => exact transmitFailed_callStep c number cause
  | collect number => exact collect_callStep c number
  | expire number => exact expire_callStep c number
  | dropCall number => exact .dropped number
  | arrive bytes => exact (arrive_quiet c bytes).callStep
  | arriveEnd => exact (arriveEnd_quiet c).callStep
  | read => exact read_callStep c
  | readFailed cause => exact readFailed_callStep c cause
  | stopReading => exact (stopReading_quiet c).callStep
  | shutdown => exact close_callStep c c.incoming none (· + 1)
  | leave => exact (leave_quiet c).callStep

/-! ## One step seen from a call -/

section

variable {c c' : Connection} {more : List Moment}

theorem CallStep.setup_eq (hstep : CallStep c c' more) : c'.setup = c.setup := by
  cases hstep with
  | quiet same state silent => exact same.setup
  | ignored event same state unawaited silent => exact same.setup
  | shut wasOpen setup closed state nextNumber pending calls silent => exact setup
  | _ => rfl

/-- A connection that was closed stays so. -/
theorem CallStep.closed_of_closed (hstep : CallStep c c' more) (hclosed : c.closed = true) : c'.closed = true := by
  cases hstep with
  | quiet same state silent => rw [same.closed, hclosed]
  | ignored event same state unawaited silent => rw [same.closed, hclosed]
  | shut wasOpen setup closed state nextNumber pending calls silent => exact closed
  | _ => exact hclosed

theorem CallStep.wasOpen (hstep : CallStep c c' more) (hopen : c'.closed = false) : c.closed = false := by
  cases hclosed : c.closed with
  | false => rfl
  | true =>
    rw [hstep.closed_of_closed hclosed] at hopen
    cases hopen

/-- Numbers are given out by the counter, one for each call that begins. -/
theorem CallStep.counter (hstep : CallStep c c' more) :
    (numbers more = [] ∧ c'.nextNumber = c.nextNumber) ∨
      (numbers more = [c.nextNumber] ∧ c'.nextNumber = c.nextNumber + 1 ∧ c.state = .connected) := by
  cases hstep with
  | quiet same state silent => exact .inl ⟨numbers_did _, same.nextNumber⟩
  | issued payload connected => exact .inr ⟨rfl, rfl, connected⟩
  | ignored event same state unawaited silent => exact .inl ⟨numbers_did _, same.nextNumber⟩
  | shut wasOpen setup closed state nextNumber pending calls silent => exact .inl ⟨numbers_did _, nextNumber⟩
  | _ => exact .inl ⟨rfl, rfl⟩

/-- What a step can do to one call that is still under way after it. -/
inductive CallChange (c c' : Connection) (more : List Moment) (number : UInt64) (after : Call) : Prop
  /-- It begins. -/
  | begun (payload : Wire.Request.Payload) (isNext : number = c.nextNumber) (moments : more = [.issued number payload])
      (eq : after = { payload })
  /-- It knows no more than before, and no message came that it waits for. -/
  | kept (before : Call) (found : Assoc.find? number c.calls = some before) (payload : after.payload = before.payload)
      (outcome : after.outcome = before.outcome) (sent : before.sent = true → after.sent = true)
      (strange : ∀ event, .received event ∈ more → event.number = number → number = 0 ∨ number ∉ c.pending)
  /-- Its message comes. -/
  | replied (before : Call) (event : Wire.Event) (found : Assoc.find? number c.calls = some before)
      (payload : after.payload = before.payload) (own : event.number = number) (awaited : number ∈ c.pending)
      (moments : more = [.received event]) (outcome : after.outcome = some (.ok event))
  /-- Its connection is closed. -/
  | broken (before : Call) (found : Assoc.find? number c.calls = some before) (payload : after.payload = before.payload)
      (wasOpen : c.closed = false) (closed : c'.closed = true)
      (outcome : after.outcome = some (.error .connectionClosed))

theorem CallChange.of_erase {ended number : UInt64} {after : Call}
    (hfound : Assoc.find? number (Assoc.erase ended c.calls) = some after)
    (hstrange : ∀ event, .received event ∉ more) : CallChange c c' more number after := by
  rw [Assoc.find?_erase] at hfound
  split at hfound
  · cases hfound
  · exact .kept after hfound rfl rfl id fun event hevent => absurd hevent (hstrange event)

theorem CallStep.change (hstep : CallStep c c' more) {number : UInt64} {after : Call}
    (hfound : Assoc.find? number c'.calls = some after) : CallChange c c' more number after := by
  cases hstep with
  | quiet same state silent =>
    rw [same.calls] at hfound
    exact .kept after hfound rfl rfl id (by simp)
  | issued payload connected =>
    by_cases hnumber : number = c.nextNumber
    · rw [hnumber, Assoc.find?_insert_self] at hfound
      cases hfound
      exact .begun payload hnumber (by rw [hnumber]) rfl
    · rw [Assoc.find?_insert_of_ne hnumber] at hfound
      exact .kept after hfound rfl rfl id (by simp)
  | @sent sentNumber call bytes stream found unsent framed =>
    by_cases hnumber : number = sentNumber
    · rw [hnumber, Assoc.find?_insert_self] at hfound
      cases hfound
      exact .kept call (hnumber ▸ found) rfl rfl (fun _ => rfl) (by simp)
    · rw [Assoc.find?_insert_of_ne hnumber] at hfound
      exact .kept after hfound rfl rfl id (by simp)
  | failed found cause => exact .of_erase hfound (by simp)
  | collected found => exact .of_erase hfound (by simp)
  | dropped ended => exact .of_erase hfound (by simp)
  | ignored event same state unawaited silent =>
    rw [same.calls] at hfound
    refine .kept after hfound rfl rfl id fun other hother heq => ?_
    simp only [List.mem_cons, Moment.received.injEq, List.mem_map, reduceCtorEq, and_false, exists_false,
      or_false] at hother
    rw [← heq, hother]
    exact unawaited
  | @resolved event call incoming nonzero awaited found =>
    by_cases hnumber : number = event.number
    · rw [hnumber, Assoc.find?_insert_self] at hfound
      cases hfound
      exact .replied call event (hnumber ▸ found) rfl hnumber.symm (hnumber ▸ awaited) rfl rfl
    · rw [Assoc.find?_insert_of_ne hnumber] at hfound
      refine .kept after hfound rfl rfl id fun other hother heq => ?_
      simp only [List.mem_singleton, Moment.received.injEq] at hother
      exact absurd (by rw [← heq, hother]) hnumber
  | @resolvedDropped event incoming nonzero awaited gone =>
    refine .kept after hfound rfl rfl id fun other hother heq => ?_
    simp only [List.mem_singleton, Moment.received.injEq] at hother
    rw [← heq, hother, gone] at hfound
    cases hfound
  | shut wasOpen setup closed state nextNumber pending calls silent =>
    rw [calls, failPending, Assoc.find?_map c.failCall, Option.map_eq_some_iff] at hfound
    obtain ⟨before, hbefore, rfl⟩ := hfound
    unfold failCall
    split
    · exact .broken before hbefore rfl wasOpen closed rfl
    · exact .kept before hbefore rfl rfl id (by simp)

/-- A silent effect is no answer and no request. -/
theorem silent_of_mem {effects : List Effect} (hsilent : ∀ effect ∈ effects, Silent effect) {effect : Effect}
    (hmem : Moment.did effect ∈ effects.map Moment.did) : Silent effect := by
  obtain ⟨other, hother, heq⟩ := List.mem_map.1 hmem
  cases heq
  exact hsilent effect hother

/-- A caller is told of the end of a call under way, of nothing else, and then the call is no longer. It is told either
what its waiting has ended with, or that it has failed on this side. -/
theorem CallStep.answered (hstep : CallStep c c' more) {number : UInt64}
    {answer : Except CallError Wire.Event.Payload} (hanswered : .did (.answered number answer) ∈ more) :
    ∃ call, more = [.did (.answered number answer)] ∧ Assoc.find? number c.calls = some call ∧
      Assoc.find? number c'.calls = none ∧
      ((∃ outcome, call.outcome = some outcome ∧ answer = result call.payload outcome) ∨
        ∃ error, answer = .error error ∧ error.isLocal = true ∧ (call.sent = true → call.outcome = none)) := by
  cases hstep with
  | quiet same state silent => exact (silent_of_mem silent hanswered).elim
  | @failed ended call error found cause =>
    simp only [List.mem_singleton, Moment.did.injEq, Effect.answered.injEq] at hanswered
    obtain ⟨rfl, rfl⟩ := hanswered
    refine ⟨call, rfl, found, by simp [Assoc.find?_erase], .inr ⟨error, rfl, ?_⟩⟩
    rcases cause with ⟨hunsent, hlocal⟩ | ⟨-, hnone, rfl⟩
    · exact ⟨hlocal, fun hsent => by simp [hunsent] at hsent⟩
    · exact ⟨rfl, fun _ => hnone⟩
  | @collected ended payload outcome found =>
    simp only [List.mem_singleton, Moment.did.injEq, Effect.answered.injEq] at hanswered
    obtain ⟨rfl, rfl⟩ := hanswered
    exact ⟨_, rfl, found, by simp [Assoc.find?_erase], .inl ⟨outcome, rfl, rfl⟩⟩
  | ignored event same state unawaited silent =>
    simp only [List.mem_cons, reduceCtorEq, false_or] at hanswered
    exact (silent_of_mem silent hanswered).elim
  | shut wasOpen setup closed state nextNumber pending calls silent => exact (silent_of_mem silent hanswered).elim
  | _ => simp at hanswered

/-- A call ends well with what its message holds. -/
theorem payload_of_result {payload : Wire.Request.Payload} {outcome : Except CallError Wire.Event}
    {answer : Wire.Event.Payload} (hresult : result payload outcome = .ok answer) :
    ∃ event, outcome = .ok event ∧ event.payload = some answer := by
  unfold result at hresult
  split at hresult
  · cases hresult
  · cases hresult
  · cases hresult
    exact ⟨_, rfl, rfl⟩
  · cases hresult

/-- A call is under way until its caller is told of its end, or drops it. -/
theorem CallStep.lost (hstep : CallStep c c' more) {number : UInt64} {call : Call}
    (hfound : Assoc.find? number c.calls = some call) (hgone : Assoc.find? number c'.calls = none) :
    (∃ answer, .did (.answered number answer) ∈ more) ∨ .dropped number ∈ more := by
  have hkept : ∀ (other : UInt64) (inserted : Call),
      Assoc.find? number (Assoc.insert other inserted c.calls) ≠ none := by
    intro other inserted
    by_cases hnumber : number = other
    · simp [hnumber, Assoc.find?_insert_self]
    · simp [Assoc.find?_insert_of_ne hnumber, hfound]
  have herased : ∀ ended : UInt64, Assoc.find? number (Assoc.erase ended c.calls) = none → number = ended := by
    intro ended herased
    simpa [Assoc.find?_erase, hfound] using herased
  cases hstep with
  | quiet same state silent => simp [same.calls, hfound] at hgone
  | issued payload connected => exact absurd hgone (hkept _ _)
  | sent stream found unsent framed => exact absurd hgone (hkept _ _)
  | failed found cause =>
    obtain rfl := herased _ hgone
    exact .inl ⟨_, List.mem_singleton_self _⟩
  | collected found =>
    obtain rfl := herased _ hgone
    exact .inl ⟨_, List.mem_singleton_self _⟩
  | dropped ended =>
    obtain rfl := herased _ hgone
    exact .inr (List.mem_singleton_self _)
  | ignored event same state unawaited silent => simp [same.calls, hfound] at hgone
  | resolved incoming nonzero awaited found => exact absurd hgone (hkept _ _)
  | resolvedDropped incoming nonzero awaited gone => simp [hfound] at hgone
  | shut wasOpen setup closed state nextNumber pending calls silent =>
    rw [calls, failPending, Assoc.find?_map c.failCall, hfound] at hgone
    cases hgone

/-- The step that closes a connection. -/
theorem CallStep.closing (hstep : CallStep c c' more) (hopen : c.closed = false) (hclosed : c'.closed = true) :
    c'.calls = c.failPending ∧ ∀ effect, .did effect ∈ more → Silent effect := by
  have habsurd : ∀ {P : Prop}, c.closed = true → P := by
    intro P hwasClosed
    rw [hopen] at hwasClosed
    cases hwasClosed
  cases hstep with
  | quiet same state silent => exact habsurd (same.closed.symm.trans hclosed)
  | ignored event same state unawaited silent => exact habsurd (same.closed.symm.trans hclosed)
  | shut wasOpen setup closed state nextNumber pending calls silent => exact ⟨calls, fun _ => silent_of_mem silent⟩
  | _ => exact habsurd hclosed

/-- A request is written for a call under way, with its number. -/
theorem CallStep.wrote (hstep : CallStep c c' more) {stream : StreamId} {bytes : Bytes}
    (hwrote : .did (.wrote stream bytes) ∈ more) :
    ∃ number call, Assoc.find? number c.calls = some call ∧
      Wire.frame c.setup.maxFrameBytes { number, payload := some call.payload : Wire.Request }.encode = .ok bytes := by
  cases hstep with
  | quiet same state silent => exact (silent_of_mem silent hwrote).elim
  | @sent number call other stream found unsent framed =>
    simp only [List.mem_singleton, Moment.did.injEq, Effect.wrote.injEq] at hwrote
    rw [hwrote.2]
    exact ⟨number, call, found, framed⟩
  | ignored event same state unawaited silent =>
    simp only [List.mem_cons, reduceCtorEq, false_or] at hwrote
    exact (silent_of_mem silent hwrote).elim
  | shut wasOpen setup closed state nextNumber pending calls silent => exact (silent_of_mem silent hwrote).elim
  | _ => simp at hwrote

end

end Connection

end DebugBridge
