import DebugBridge.Proofs.Connection.Steps

/-!
# What goes in and out over a connection's stream

A request goes out once, for a call that has not sent it yet. And a connection that was connected takes messages in
from one stream only, in the order of their bytes, until it stops reading for good.
-/

namespace DebugBridge.Connection

/-! ## Going out -/

/-- A call whose request was not handed to the writer yet. -/
def Unsent (c : Connection) (number : UInt64) (payload : Wire.Request.Payload) : Prop :=
  ∃ call, Assoc.find? number c.calls = some call ∧ call.payload = payload ∧ call.sent = false

section

variable {c c' : Connection} {more : List Moment} {number : UInt64} {payload : Wire.Request.Payload}

theorem Unsent.of_calls (hunsent : Unsent c' number payload) (hcalls : c'.calls = c.calls) :
    Unsent c number payload := by
  unfold Unsent at hunsent ⊢
  rw [hcalls] at hunsent
  exact hunsent

theorem Unsent.of_erase {ended : UInt64} (hunsent : Unsent c' number payload)
    (hcalls : c'.calls = Assoc.erase ended c.calls) : Unsent c number payload := by
  obtain ⟨call, hfound, hcall⟩ := hunsent
  rw [hcalls, Assoc.find?_erase] at hfound
  split at hfound
  · cases hfound
  · exact ⟨call, hfound, hcall⟩

/-- A call that is replaced by one that is sent, if it was, leaves the others as they are. -/
theorem Unsent.of_insert {other : UInt64} {call : Call} (hunsent : Unsent c' number payload)
    (hcalls : c'.calls = Assoc.insert other call c.calls) (hother : number = other → Unsent c number payload) :
    Unsent c number payload := by
  by_cases hnumber : number = other
  · exact hother hnumber
  · obtain ⟨call, hfound, hcall⟩ := hunsent
    rw [hcalls, Assoc.find?_insert_of_ne hnumber] at hfound
    exact ⟨call, hfound, hcall⟩

/-- A step that does not begin a call begins none. -/
theorem not_issued {action : Action} (hother : ∀ payload, action ≠ .issue payload) (number : UInt64)
    (payload : Wire.Request.Payload) : .issued number payload ∉ c.moments action := by
  intro hissued
  rcases List.mem_append.1 hissued with hintake | hdid
  · cases action with
    | issue payload => exact hother payload rfl
    | read =>
      rcases mem_intake hintake with ⟨_, _, heq⟩ | ⟨_, heq, -⟩ | ⟨_, heq, haction⟩
      · simp only [intake] at hintake
        split at hintake
        · cases hintake
        · split at hintake <;> simp at hintake
      · cases heq
      · cases haction
    | dropCall number => simp [intake] at hintake
    | _ => cases hintake
  · simp at hdid

/-- Such a step takes no number. -/
theorem nextNumber_eq {action : Action} (hother : ∀ payload, action ≠ .issue payload) :
    (c.step action).1.nextNumber = c.nextNumber := by
  rcases (step_callStep c action).counter with ⟨-, hnext⟩ | ⟨hone, -, -⟩
  · exact hnext
  · have hmem : c.nextNumber ∈ numbers (c.moments action) := by
      rw [hone]
      exact List.mem_singleton_self _
    obtain ⟨m, hm, hnumber⟩ := List.mem_filterMap.1 hmem
    cases m with
    | issued number payload => exact absurd hm (not_issued hother number payload)
    | _ => cases hnumber

/-- What was not sent after a step was not sent before, unless its call begins. -/
theorem CallStep.unsent (hstep : CallStep c c' more) (hnew : ∀ number payload, .issued number payload ∉ more)
    (hunsent : Unsent c' number payload) : Unsent c number payload := by
  cases hstep with
  | quiet same state silent => exact hunsent.of_calls same.calls
  | issued payload connected => exact absurd (List.mem_singleton_self _) (hnew _ _)
  | @sent other call bytes stream found unsent framed =>
    refine hunsent.of_insert rfl fun hnumber => ?_
    obtain ⟨after, hfound, -, hafter⟩ := hunsent
    rw [hnumber, Assoc.find?_insert_self] at hfound
    cases hfound
    cases hafter
  | failed found cause => exact hunsent.of_erase rfl
  | collected found => exact hunsent.of_erase rfl
  | dropped ended => exact hunsent.of_erase rfl
  | ignored event same state unawaited silent => exact hunsent.of_calls same.calls
  | @resolved event call incoming nonzero awaited found =>
    refine hunsent.of_insert rfl fun hnumber => ?_
    obtain ⟨after, hfound, hpayload, hafter⟩ := hunsent
    rw [hnumber, Assoc.find?_insert_self] at hfound
    cases hfound
    exact ⟨call, hnumber ▸ found, hpayload, hafter⟩
  | resolvedDropped incoming nonzero awaited gone => exact hunsent.of_calls rfl
  | shut wasOpen setup closed state nextNumber pending calls silent =>
    obtain ⟨after, hfound, hpayload, hafter⟩ := hunsent
    rw [calls, failPending, Assoc.find?_map c.failCall, Option.map_eq_some_iff] at hfound
    obtain ⟨before, hbefore, rfl⟩ := hfound
    refine ⟨before, hbefore, ?_⟩
    unfold failCall at hpayload hafter
    split at hafter
    · simp_all
    · simp_all

/-- A request that is written is that of a call which had not sent it, and now has. -/
theorem CallStep.wrote_unsent (hstep : CallStep c c' more) {stream : StreamId} {bytes : Bytes}
    (hwrote : .did (.wrote stream bytes) ∈ more) :
    ∃ number payload, more = [.did (.wrote stream bytes)] ∧ Unsent c number payload ∧
      (∀ payload, ¬ Unsent c' number payload) ∧
      Wire.frame c.setup.maxFrameBytes { number, payload := some payload : Wire.Request }.encode = .ok bytes := by
  cases hstep with
  | quiet same state silent => exact (silent_of_mem silent hwrote).elim
  | @sent number call other stream' found unsent framed =>
    obtain ⟨rfl, rfl⟩ : stream = stream' ∧ bytes = other := by simpa using hwrote
    refine ⟨number, call.payload, rfl, ⟨call, found, rfl, unsent⟩, ?_, framed⟩
    rintro payload ⟨after, hfound, -, hafter⟩
    rw [Assoc.find?_insert_self] at hfound
    cases hfound
    cases hafter
  | ignored event same state unawaited silent =>
    rcases List.mem_cons.1 hwrote with heq | hwrote
    · cases heq
    · exact (silent_of_mem silent hwrote).elim
  | shut wasOpen setup closed state nextNumber pending calls silent => exact (silent_of_mem silent hwrote).elim
  | _ => simp at hwrote

end

/-! ## Coming in -/

/-- A connection that was connected, or was given up. No stream is installed any more. -/
structure Settled (c : Connection) : Prop where
  state : c.state ≠ .connecting
  dials : c.dials = []

/-- What a step does to the stream that messages are read from. -/
inductive Reads (c c' : Connection) : Action → Prop
  | stops {action : Action} (stopped : c'.incoming = none) (silent : c.intake action = []) : Reads c c' action
  | keeps {action : Action} (same : c'.incoming = c.incoming) (silent : ∀ event, .received event ∉ c.intake action) :
      Reads c c' action
  | takes {incoming : Incoming} {event : Wire.Event} {rest : Bytes} (found : c.incoming = some incoming)
      (next : Wire.next c.setup.maxFrameBytes Wire.Event.decode incoming.unread = .message event rest)
      (left : c'.incoming = some { incoming with unread := rest }) : Reads c c' .read
  | comes {incoming : Incoming} (bytes : Bytes) (found : c.incoming = some incoming) (goesOn : incoming.ended = false)
      (joined : c'.incoming = some { incoming with unread := incoming.unread ++ bytes }) : Reads c c' (.arrive bytes)
  | ends {incoming : Incoming} (found : c.incoming = some incoming)
      (marked : c'.incoming = some { incoming with ended := true }) : Reads c c' .arriveEnd

section

variable {c : Connection}

theorem close_reads (c : Connection) (error : Option String) :
    (c.close error).1.incoming = c.incoming ∧ (Settled c → Settled (c.close error).1) := by
  unfold close
  split
  · exact ⟨rfl, id⟩
  · refine ⟨rfl, fun hsettled => ⟨?_, hsettled.dials⟩⟩
    cases error <;> simp

theorem dispatch_reads (c : Connection) (event : Wire.Event) :
    (c.dispatch event).1.incoming = c.incoming ∧ (Settled c → Settled (c.dispatch event).1) := by
  have hsame : ∀ (pending : List UInt64) (calls : List (UInt64 × Call)),
      Settled c → Settled { c with pending, calls } :=
    fun _ _ hsettled => ⟨hsettled.state, hsettled.dials⟩
  unfold dispatch forget
  split
  · exact ⟨rfl, id⟩
  · split
    · dsimp only
      split
      · exact ⟨rfl, hsame _ _⟩
      · exact ⟨rfl, hsame _ c.calls⟩
    · exact ⟨rfl, id⟩

/-- The streams are the same in two connections. -/
structure SameStreams (c c' : Connection) : Prop where
  incoming : c'.incoming = c.incoming
  state : c'.state = c.state
  dials : c'.dials = c.dials

/-- Whether a step is one of a call's. -/
def Action.ofCall : Action → Bool
  | .issue _ | .transmit _ | .transmitFailed .. | .collect _ | .expire _ | .dropCall _ => true
  | _ => false

/-- What changes nothing but the calls, and does nothing to others that is not about a call. -/
structure OfCalls (c : Connection) (result : Connection × List Effect) : Prop extends SameStreams c result.1 where
  setup : result.1.setup = c.setup
  closed : result.1.closed = c.closed
  writer : result.1.writer = c.writer
  dialed : result.1.dialed = c.dialed
  leaving : result.1.leaving = c.leaving
  about : ∀ effect ∈ result.2, ¬ Silent effect

theorem OfCalls.of (c : Connection) (nextNumber : UInt64) (pending : List UInt64) (calls : List (UInt64 × Call))
    {effects : List Effect} (habout : ∀ effect ∈ effects, ¬ Silent effect) :
    OfCalls c ({ c with nextNumber, pending, calls }, effects) where
  incoming := rfl
  state := rfl
  dials := rfl
  setup := rfl
  closed := rfl
  writer := rfl
  dialed := rfl
  leaving := rfl
  about := habout

theorem OfCalls.not_mem {result : Connection × List Effect} (hcalls : OfCalls c result) {effect : Effect}
    (hsilent : Silent effect) : effect ∉ result.2 :=
  fun hmem => hcalls.about effect hmem hsilent

/-- The steps of calls leave the streams, the dials and the shutdowns alone. -/
theorem step_ofCalls (c : Connection) {action : Action} (hcall : action.ofCall = true) :
    OfCalls c (c.step action) := by
  have hself : OfCalls c (c, []) := .of c c.nextNumber c.pending c.calls (by simp)
  have hended : ∀ (pending : List UInt64) (number : UInt64) (answer : Except CallError Wire.Event.Payload),
      OfCalls c ({ c with pending }.endCall number answer) :=
    fun pending _ _ => .of c c.nextNumber pending _ (by simp [Silent])
  cases action with
  | issue payload =>
    simp only [Connection.step, issue]
    split
    · next hissued =>
      split at hissued
      · cases hissued
      · cases hissued
        exact .of c _ _ _ (by simp)
    · exact hself
  | transmit number =>
    simp only [Connection.step, transmit]
    split
    · split
      · exact hself
      · split
        · exact hended _ _ _
        · split
          · exact hended _ _ _
          · exact .of c c.nextNumber c.pending _ (by simp [Silent])
    · exact hself
  | transmitFailed number cause =>
    simp only [Connection.step, transmitFailed]
    split
    · split
      · exact hself
      · exact hended _ _ _
    · exact hself
  | collect number =>
    simp only [Connection.step, collect]
    split
    · exact hended c.pending _ _
    · exact hself
  | expire number =>
    simp only [Connection.step, expire]
    split
    · exact hended _ _ _
    · exact hself
  | dropCall number => exact .of c c.nextNumber c.pending _ (by simp)
  | _ => cases hcall

theorem SameStreams.settled {c' : Connection} (hsame : SameStreams c c') (hsettled : Settled c) : Settled c' :=
  ⟨by rw [hsame.state]; exact hsettled.state, by rw [hsame.dials]; exact hsettled.dials⟩

theorem attempt_incoming (c : Connection) (dial number : Nat) :
    (c.attempt dial number).1.incoming = c.incoming := by
  unfold attempt
  split <;> rfl

/-- What a step does to the stream that is read: only a connection that waits for a stream gets a new one. -/
theorem step_reads (c : Connection) (action : Action) :
    Reads c (c.step action).1 action ∨
      c.state = .connecting ∧ (c.step action).1.state = .connected ∧
        ∃ dial stream, action = .attach dial ∧ (c.step action).1.incoming = some { stream } := by
  have hself : ∀ {action : Action}, c.intake action = [] → Reads c c action :=
    fun hsilent => .keeps rfl (by simp [hsilent])
  -- The steps of dials and calls leave the stream alone.
  have hsame : ∀ {action : Action} {c' : Connection}, c'.incoming = c.incoming → c.intake action = [] →
      Reads c c' action :=
    fun hsame hsilent => .keeps hsame (by simp [hsilent])
  by_cases hcall : action.ofCall = true
  · refine .inl (.keeps (step_ofCalls c hcall).incoming fun event hmem => ?_)
    rcases mem_intake hmem with ⟨_, _, heq⟩ | ⟨_, -, rfl⟩ | ⟨_, heq, -⟩
    · cases heq
    · cases hcall
    · cases heq
  cases action with
  | dial =>
    refine .inl (hsame ?_ rfl)
    simp only [Connection.step, dial]
    split
    · rfl
    · exact attempt_incoming _ _ _
  | opened dial stream =>
    refine .inl (hsame ?_ rfl)
    simp only [Connection.step, opened]
    split <;> rfl
  | refused dial cause =>
    refine .inl (hsame ?_ rfl)
    simp only [Connection.step, refused]
    split
    · split <;> rfl
    · rfl
  | retry dial =>
    refine .inl (hsame ?_ rfl)
    simp only [Connection.step, retry]
    split
    · exact attempt_incoming _ _ _
    · rfl
  | giveUp dial =>
    refine .inl (hsame ?_ rfl)
    simp only [Connection.step, giveUp]
    split
    · split <;> rfl
    · rfl
  | attach dial =>
    simp only [Connection.step, attach]
    split
    · next stream _ =>
      split
      · exact .inl (hsame rfl rfl)
      · next hnew =>
        simp only [not_or, ne_eq, Decidable.not_not] at hnew
        exact .inr ⟨hnew.2, rfl, dial, stream, rfl, rfl⟩
    · exact .inl (hself rfl)
  | discard dial =>
    refine .inl (hsame ?_ rfl)
    simp only [Connection.step, discard]
    split <;> rfl
  | dropDial dial => exact .inl (hsame rfl rfl)
  | arrive bytes =>
    left
    simp only [Connection.step, arrive]
    split
    · next incoming hincoming =>
      split
      · exact hself rfl
      · next hgoesOn => exact .comes bytes hincoming (by simpa using hgoesOn) rfl
    · exact hself rfl
  | arriveEnd =>
    left
    simp only [Connection.step, arriveEnd]
    split
    · next incoming hincoming => exact .ends hincoming rfl
    · exact hself rfl
  | read =>
    left
    simp only [Connection.step, read]
    split
    · next hincoming => exact hself (by simp [intake, hincoming])
    · next incoming hincoming =>
      split
      · next event rest hnext => exact .takes hincoming hnext (dispatch_reads _ event).1
      · next hnext => exact .stops (close_reads { c with incoming := none } _).1 (by simp [intake, hincoming, hnext])
      · next hnext =>
        split
        · exact hself (by simp [intake, hincoming, hnext])
        · exact .stops (close_reads { c with incoming := none } _).1 (by simp [intake, hincoming, hnext])
  | readFailed cause =>
    left
    simp only [Connection.step, readFailed]
    split
    · exact .stops (close_reads { c with incoming := none } (some cause)).1 rfl
    · exact hself rfl
  | stopReading =>
    left
    simp only [Connection.step, stopReading]
    split
    · exact .stops rfl rfl
    · exact hself rfl
  | shutdown => exact .inl (hsame (close_reads c none).1 rfl)
  | leave =>
    refine .inl (hsame ?_ rfl)
    simp only [Connection.step, leave]
    split <;> rfl
  | _ => exact absurd rfl hcall

/-- A settled connection stays so: without a dial no stream is installed, and no step begins to wait again. -/
theorem Settled.stays (hsettled : Settled c) (action : Action) : Settled (c.step action).1 := by
  have hnone : ∀ dial, Assoc.find? dial c.dials = none := by
    intro dial
    rw [hsettled.dials]
    rfl
  have hunread : ∀ incoming, Settled { c with incoming } := fun _ => ⟨hsettled.state, hsettled.dials⟩
  by_cases hcall : action.ofCall = true
  · exact (step_ofCalls c hcall).settled hsettled
  cases action with
  | dial =>
    simp only [Connection.step, dial, ne_eq, hsettled.state, not_false_eq_true, if_true]
    exact ⟨hsettled.state, hsettled.dials⟩
  | opened dial stream => simpa only [Connection.step, opened, hnone] using hsettled
  | refused dial cause => simpa only [Connection.step, refused, hnone] using hsettled
  | retry dial => simpa only [Connection.step, retry, hnone] using hsettled
  | giveUp dial => simpa only [Connection.step, giveUp, hnone] using hsettled
  | attach dial => simpa only [Connection.step, attach, hnone] using hsettled
  | discard dial => simpa only [Connection.step, discard, hnone] using hsettled
  | dropDial dial => exact ⟨hsettled.state, by simp [Connection.step, dropDial, hsettled.dials, Assoc.erase]⟩
  | arrive bytes =>
    simp only [Connection.step, arrive]
    split
    · split
      · exact hsettled
      · exact hunread _
    · exact hsettled
  | arriveEnd =>
    simp only [Connection.step, arriveEnd]
    split
    · exact hunread _
    · exact hsettled
  | read =>
    simp only [Connection.step, read]
    split
    · exact hsettled
    · split
      · exact (dispatch_reads _ _).2 (hunread _)
      · exact (close_reads _ _).2 (hunread none)
      · split
        · exact hsettled
        · exact (close_reads _ _).2 (hunread none)
  | readFailed cause =>
    simp only [Connection.step, readFailed]
    split
    · exact (close_reads _ _).2 (hunread none)
    · exact hsettled
  | stopReading =>
    simp only [Connection.step, stopReading]
    split
    · exact hunread none
    · exact hsettled
  | shutdown =>
    have hclosed := (close_reads c none).2 hsettled
    exact ⟨hclosed.state, hclosed.dials⟩
  | leave =>
    simp only [Connection.step, leave]
    split
    · exact hsettled
    · exact ⟨hsettled.state, hsettled.dials⟩
  | _ => exact absurd rfl hcall

/-- What a step does to a settled connection's streams. -/
theorem Settled.step (hsettled : Settled c) (action : Action) :
    Settled (c.step action).1 ∧ Reads c (c.step action).1 action :=
  ⟨hsettled.stays action, (step_reads c action).resolve_right fun hwaits => hsettled.state hwaits.1⟩

end

end DebugBridge.Connection
