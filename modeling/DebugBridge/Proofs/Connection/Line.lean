import DebugBridge.Proofs.Connection.Dials
import DebugBridge.Proofs.Connection.Ledger
import DebugBridge.Proofs.Connection.Streams
import DebugBridge.Proofs.Wire.Frames

/-!
# The line to the writer

A call that has begun waits for the writer, which takes one request after the other. Nothing else takes a request from
the line, and as long as a connection is there nobody takes the stream away that is written to.
-/

namespace DebugBridge.Connection

/-- Whether a request is not too large. -/
def fits (c : Connection) (request : Wire.Request) : Bool :=
  request.encode.length ≤ c.setup.maxFrameBytes

/-- What is written, piece by piece. -/
def writes (effects : List Effect) : List Bytes :=
  effects.filterMap fun
    | .wrote _ bytes => some bytes
    | _ => none

/-- A request as it is written. -/
def frameOf (request : Wire.Request) : Bytes :=
  Wire.frames Wire.Request.encode [request]

/-- The call that a step takes from the line. -/
def Action.taken? : Action → Option UInt64
  | .transmit number | .transmitFailed number _ => some number
  | _ => none

/-- The writer takes no request before one that is further ahead in the line. -/
def InTurn (c : Connection) (action : Action) : Prop :=
  ∀ number ∈ action.taken?, ∀ entry ∈ c.calls, entry.2.sent = false → number ≤ entry.1

/-- Nobody is in line. -/
def Free (c : Connection) : Prop :=
  ∀ entry ∈ c.calls, entry.2.sent = true

-- The instance is named because numbers are finitely many: they are not to be tried one after the other.
instance (c : Connection) (action : Action) : Decidable (c.InTurn action) :=
  (Option.decidableForallMem action.taken? :
    Decidable (∀ number ∈ action.taken?, ∀ entry ∈ c.calls, entry.2.sent = false → number ≤ entry.1))

instance (c : Connection) : Decidable c.Free :=
  inferInstanceAs (Decidable (∀ entry ∈ c.calls, entry.2.sent = true))

section

variable {c c' : Connection} {more : List Moment} {action : Action}

theorem InTurn.le {number : UInt64} (hturn : c.InTurn action) (htaken : action.taken? = some number) {other : UInt64}
    {payload : Wire.Request.Payload} (hunsent : c.Unsent other payload) : number ≤ other := by
  obtain ⟨call, hfound, -, hsent⟩ := hunsent
  exact hturn number htaken (other, call) (Assoc.mem_of_find? hfound) hsent

theorem inTurn_of_taken? (hnone : action.taken? = none) : c.InTurn action := by
  intro number hmem
  rw [hnone] at hmem
  cases hmem

/-! ## Steps of the line -/

/-- A request leaves the line: it is written, or its call fails. -/
structure Leaves (c : Connection) (number : UInt64) (payload : Wire.Request.Payload)
    (result : Connection × List Effect) : Prop where
  waited : c.Unsent number payload
  others : ∀ other asked, result.1.Unsent other asked ↔ c.Unsent other asked ∧ other ≠ number
  written : writes result.2 = [] ∨
    c.fits { number, payload := some payload } ∧ writes result.2 = [frameOf { number, payload := some payload }]

/-- The line stays as it is. -/
structure Waits (c : Connection) (result : Connection × List Effect) : Prop where
  same : ∀ number payload, result.1.Unsent number payload ↔ c.Unsent number payload
  silent : writes result.2 = []

theorem unsent_congr (hcalls : c'.calls = c.calls) (number : UInt64) (payload : Wire.Request.Payload) :
    c'.Unsent number payload ↔ c.Unsent number payload := by
  unfold Unsent
  rw [hcalls]

theorem writes_of_silent {effects : List Effect} (hsilent : ∀ effect ∈ effects, Silent effect) :
    writes effects = [] := by
  refine List.filterMap_eq_nil_iff.2 fun effect hmem => ?_
  have hquiet := hsilent effect hmem
  cases effect with
  | wrote stream bytes => exact hquiet.elim
  | _ => rfl

theorem Quiet.waits {result : Connection × List Effect} (hquiet : Quiet c result) : Waits c result :=
  ⟨unsent_congr hquiet.same.calls, writes_of_silent hquiet.silent⟩

/-- Without a call there is nobody in line, and one that is sent has left it. -/
theorem unsent_erase {ended : UInt64} (hcalls : c'.calls = Assoc.erase ended c.calls) (number : UInt64)
    (payload : Wire.Request.Payload) : c'.Unsent number payload ↔ c.Unsent number payload ∧ number ≠ ended := by
  unfold Unsent
  rw [hcalls, Assoc.find?_erase]
  by_cases hself : number = ended <;> simp [hself]

theorem unsent_erase_sent {ended : UInt64} {call : Call} (hcalls : c'.calls = Assoc.erase ended c.calls)
    (hfound : Assoc.find? ended c.calls = some call) (hsent : call.sent = true) (number : UInt64)
    (payload : Wire.Request.Payload) : c'.Unsent number payload ↔ c.Unsent number payload := by
  rw [unsent_erase hcalls, and_iff_left_iff_imp]
  rintro ⟨other, hother, -, hunsent⟩ rfl
  obtain rfl : call = other := Option.some.inj (hfound.symm.trans hother)
  rw [hsent] at hunsent
  cases hunsent

theorem unsent_insert {changed : UInt64} {call : Call} (hcalls : c'.calls = Assoc.insert changed call c.calls)
    (number : UInt64) (payload : Wire.Request.Payload) : c'.Unsent number payload ↔
      if number = changed then call.payload = payload ∧ call.sent = false else c.Unsent number payload := by
  unfold Unsent
  rw [hcalls]
  split
  · next hself => simp [hself, Assoc.find?_insert_self]
  · next hne => rw [Assoc.find?_insert_of_ne hne]

theorem unsent_failPending (hcalls : c'.calls = c.failPending) (number : UInt64) (payload : Wire.Request.Payload) :
    c'.Unsent number payload ↔ c.Unsent number payload := by
  have hkept : ∀ call, (c.failCall number call).payload = call.payload ∧ (c.failCall number call).sent = call.sent := by
    intro call
    unfold failCall
    split <;> exact ⟨rfl, rfl⟩
  unfold Unsent
  rw [hcalls, find?_failPending]
  cases Assoc.find? number c.calls with
  | none => simp
  | some call => simp [hkept]

/-- A step that is about no call in particular leaves the line as it is. -/
theorem unsent_of_silent (hstep : CallStep c c' more) (hall : ∀ effect, .did effect ∈ more → Silent effect)
    (hissued : ∀ number payload, .issued number payload ∉ more) (hdropped : ∀ number, .dropped number ∉ more) :
    ∀ number payload, c'.Unsent number payload ↔ c.Unsent number payload := by
  cases hstep with
  | quiet same state silent => exact unsent_congr same.calls
  | issued payload connected => exact absurd (List.mem_singleton_self _) (hissued _ _)
  | sent stream found unsent framed => exact (hall _ (List.mem_singleton_self _)).elim
  | failed found cause => exact (hall _ (List.mem_singleton_self _)).elim
  | collected found => exact (hall _ (List.mem_singleton_self _)).elim
  | dropped ended => exact absurd (List.mem_singleton_self _) (hdropped _)
  | ignored event same state unawaited silent => exact unsent_congr same.calls
  | @resolved event call incoming nonzero awaited found =>
    intro number payload
    rw [unsent_insert rfl]
    split
    · next hself =>
      unfold Unsent
      rw [hself, found]
      simp
    · exact Iff.rfl
  | resolvedDropped incoming nonzero awaited gone => exact fun _ _ => Iff.rfl
  | shut wasOpen setup closed state nextNumber pending calls silent => exact unsent_failPending calls

/-- A request is written as its frame, if it is not too large. -/
theorem frame_cases (c : Connection) (request : Wire.Request) :
    (c.fits request ∧ Wire.frame c.setup.maxFrameBytes request.encode = .ok (frameOf request)) ∨
    (c.fits request = false ∧ ∃ error, Wire.frame c.setup.maxFrameBytes request.encode = .error error) := by
  by_cases hfits : request.encode.length ≤ c.setup.maxFrameBytes
  · refine .inl ⟨by simpa [fits] using hfits, ?_⟩
    rw [Wire.frame_of_le hfits, frameOf, Wire.frames_singleton]
  · refine .inr ⟨by simpa [fits] using hfits, ?_⟩
    unfold Wire.frame
    rw [if_pos (by omega)]
    exact ⟨_, rfl⟩

/-- A call that waits for the writer is handed to it, unless it already was. -/
theorem transmit_cases (c : Connection) (number : UInt64) : Waits c (c.transmit number) ∨
    ∃ payload, Leaves c number payload (c.transmit number) ∧
      (c.writer.isSome → writes (c.transmit number).2 =
        if c.fits { number, payload := some payload } then [frameOf { number, payload := some payload }] else []) := by
  unfold transmit
  split
  · next call hfound =>
    split
    · exact .inl (Quiet.none c).waits
    · next hunsent =>
      have hwaited : c.Unsent number call.payload := ⟨call, hfound, rfl, by simpa using hunsent⟩
      refine .inr ⟨call.payload, ?_⟩
      split
      · next hnone => exact ⟨⟨hwaited, unsent_erase rfl, .inl rfl⟩, by simp [hnone]⟩
      · rcases c.frame_cases { number, payload := some call.payload } with ⟨hfits, hframe⟩ | ⟨hlarge, error, hframe⟩
        · rw [hframe]
          refine ⟨⟨hwaited, fun other asked => ?_, .inr ⟨hfits, rfl⟩⟩, fun _ => by simp [hfits, writes]⟩
          rw [unsent_insert rfl]
          by_cases hself : other = number <;> simp [hself]
        · rw [hframe]
          exact ⟨⟨hwaited, unsent_erase rfl, .inl rfl⟩, fun _ => by simp [hlarge, writes, endCall]⟩
  · exact .inl (Quiet.none c).waits

/-- A request that is too large is not written. -/
theorem writes_transmit_of_large {number : UInt64}
    (hlarge : ∀ payload, c.Unsent number payload → c.fits { number, payload := some payload } = false) :
    writes (c.transmit number).2 = [] := by
  rcases c.transmit_cases number with hwaits | ⟨payload, hleaves, -⟩
  · exact hwaits.silent
  · rcases hleaves.written with hnone | ⟨hfits, -⟩
    · exact hnone
    · rw [hlarge payload hleaves.waited] at hfits
      cases hfits

theorem transmitFailed_cases (c : Connection) (number : UInt64) (cause : String) :
    Waits c (c.transmitFailed number cause) ∨ ∃ payload, Leaves c number payload (c.transmitFailed number cause) := by
  unfold transmitFailed
  split
  · next call hfound =>
    split
    · exact .inl (Quiet.none c).waits
    · next hunsent =>
      simp only [not_or, Bool.not_eq_true] at hunsent
      exact .inr ⟨call.payload, ⟨call, hfound, rfl, hunsent.1⟩, unsent_erase rfl, .inl rfl⟩
  · exact .inl (Quiet.none c).waits

theorem collect_waits (c : Connection) (number : UInt64) : Waits c (c.collect number) := by
  unfold collect
  split
  · next hfound => exact ⟨unsent_erase_sent rfl hfound rfl, rfl⟩
  · exact (Quiet.none c).waits

theorem expire_waits (c : Connection) (number : UInt64) : Waits c (c.expire number) := by
  unfold expire
  split
  · next hfound => exact ⟨unsent_erase_sent rfl hfound rfl, rfl⟩
  · exact (Quiet.none c).waits

theorem close_silent (c : Connection) (error : Option String) : ∀ effect ∈ (c.close error).2, Silent effect := by
  unfold close
  split <;> simp [Silent]

theorem dispatch_silent (c : Connection) (event : Wire.Event) : ∀ effect ∈ (c.dispatch event).2, Silent effect := by
  unfold dispatch
  split
  · cases event.payload <;> simp [Silent]
  · split
    · dsimp only
      split <;> simp
    · simp

theorem read_silent (c : Connection) : ∀ effect ∈ c.read.2, Silent effect := by
  unfold read
  split
  · simp
  · split
    · exact dispatch_silent _ _
    · exact close_silent _ _
    · split
      · simp
      · exact close_silent _ _

/-- A step that begins and drops nothing, and does nothing that is about a call. -/
theorem waits_step (hother : action.byOwner = false) (hsilent : ∀ effect ∈ (c.step action).2, Silent effect) :
    Waits c (c.step action) := by
  refine ⟨unsent_of_silent (step_callStep c action) (fun effect hdid => hsilent effect (did_mem_moments.1 hdid))
    (not_issued ?_) fun number hdropped => ?_, writes_of_silent hsilent⟩
  · rintro _ rfl
    cases hother
  · have hdrop := dropped_mem_moments hdropped
    rw [hdrop] at hother
    cases hother

/-- Besides the writer nobody takes a request from the line. -/
theorem step_waits (hother : action.byOwner = false) (hnot : ∀ number, action ≠ .transmit number)
    (hnotFailed : ∀ number cause, action ≠ .transmitFailed number cause) : Waits c (c.step action) := by
  cases action with
  | dial => cases hother
  | issue payload => cases hother
  | dropCall number => cases hother
  | dropDial dial => cases hother
  | transmit number => exact absurd rfl (hnot number)
  | transmitFailed number cause => exact absurd rfl (hnotFailed number cause)
  | opened dial stream => exact (opened_quiet c dial stream).waits
  | refused dial cause => exact (refused_quiet c dial cause).waits
  | retry dial => exact (retry_quiet c dial).waits
  | giveUp dial => exact (giveUp_quiet c dial).waits
  | attach dial => exact (attach_quiet c dial).waits
  | discard dial => exact (discard_quiet c dial).waits
  | collect number => exact collect_waits c number
  | expire number => exact expire_waits c number
  | arrive bytes => exact (arrive_quiet c bytes).waits
  | arriveEnd => exact (arriveEnd_quiet c).waits
  | stopReading => exact (stopReading_quiet c).waits
  | leave => exact (leave_quiet c).waits
  | read => exact waits_step rfl c.read_silent
  | readFailed cause =>
    refine waits_step rfl ?_
    simp only [Connection.step, readFailed]
    split
    · exact close_silent _ _
    · simp
  | shutdown => exact waits_step rfl (c.close_silent none)

end

/-! ## Who writes -/

/-- A connection that is there has a stream to write to, and nobody is about to take it away. -/
structure Manned (c : Connection) : Prop where
  leaving : c.closed = false → c.leaving = 0
  writer : c.state = .connected → c.writer.isSome

section

variable {c c' : Connection}

/-- A step that does not touch the stream that is written to. -/
theorem Manned.congr (hmanned : Manned c) (hwriter : c'.writer = c.writer) (hleaving : c'.leaving = c.leaving)
    (hclosed : c'.closed = c.closed) (hstate : c'.state = c.state ∨ c'.state ≠ .connected) : Manned c' where
  leaving h := hleaving.trans (hmanned.leaving (hclosed.symm.trans h))
  writer h := by
    rw [hwriter]
    exact hmanned.writer ((hstate.resolve_right fun hnot => hnot h).symm.trans h)

/-- Who is closed needs no stream. -/
theorem manned_of_closed (hclosed : c.closed = true) (hover : c.state ≠ .connected) : Manned c where
  leaving h := by
    rw [hclosed] at h
    cases h
  writer h := absurd h hover

theorem attempt_manned (hmanned : Manned c) (dial number : Nat) : Manned (c.attempt dial number).1 := by
  unfold attempt
  split <;> exact hmanned.congr rfl rfl rfl (.inl rfl)

theorem close_closed (c : Connection) (error : Option String) : (c.close error).1.closed = true := by
  unfold close
  split
  · assumption
  · rfl

theorem dispatch_manned (hmanned : Manned c) (event : Wire.Event) : Manned (c.dispatch event).1 := by
  unfold dispatch
  split
  · exact hmanned
  · split
    · dsimp only
      split <;> exact hmanned.congr rfl rfl rfl (.inl rfl)
    · exact hmanned

/-- What a connection does while it is there leaves it its stream. -/
theorem Manned.step (hmanned : Manned c) (horderly : Orderly c) {action : Action} (hother : action.byOwner = false) :
    Manned (c.step action).1 := by
  -- Whoever takes the stream away does so when the connection is closed.
  have hafter : (c.step action).1.closed = true → Manned (c.step action).1 := fun hclosed =>
    manned_of_closed hclosed (over_step horderly.parted action hclosed)
  by_cases hcall : action.ofCall = true
  · have hsame := step_ofCalls c hcall
    exact hmanned.congr hsame.writer hsame.leaving hsame.closed (.inl hsame.state)
  cases action with
  | dial => cases hother
  | dropDial dial => cases hother
  | opened dial stream =>
    simp only [Connection.step, opened]
    split
    · exact hmanned.congr rfl rfl rfl (.inl rfl)
    · exact hmanned
  | refused dial cause =>
    simp only [Connection.step, refused]
    split
    · split
      · exact hmanned.congr rfl rfl rfl (.inl rfl)
      · exact hmanned.congr rfl rfl rfl (.inr (by simp [endDial]))
    · exact hmanned
  | retry dial =>
    simp only [Connection.step, retry]
    split
    · exact attempt_manned hmanned _ _
    · exact hmanned
  | giveUp dial =>
    simp only [Connection.step, giveUp]
    split
    · split
      · exact hmanned.congr rfl rfl rfl (.inl rfl)
      · exact hmanned
    · exact hmanned
  | attach dial =>
    simp only [Connection.step, attach]
    split
    · split
      · exact ⟨hmanned.leaving, fun _ => rfl⟩
      · exact ⟨hmanned.leaving, fun _ => rfl⟩
    · exact hmanned
  | discard dial =>
    simp only [Connection.step, discard]
    split
    · next hfound =>
      have hclosed := horderly.oneDial.late dial (Assoc.mem_of_find? hfound)
      exact ⟨hmanned.leaving, fun hconnected => absurd hconnected (horderly.parted hclosed)⟩
    · exact hmanned
  | arrive bytes =>
    simp only [Connection.step, arrive]
    split
    · split <;> exact hmanned.congr rfl rfl rfl (.inl rfl)
    · exact hmanned
  | arriveEnd =>
    simp only [Connection.step, arriveEnd]
    split
    · exact hmanned.congr rfl rfl rfl (.inl rfl)
    · exact hmanned
  | read =>
    revert hafter
    simp only [Connection.step, read]
    split
    · exact fun _ => hmanned
    · next incoming _ =>
      split
      · next event rest _ =>
        refine fun _ => dispatch_manned ?_ event
        exact hmanned.congr rfl rfl rfl (.inl rfl)
      · exact fun hafter => hafter (close_closed _ _)
      · split
        · exact fun _ => hmanned
        · exact fun hafter => hafter (close_closed _ _)
  | readFailed cause =>
    revert hafter
    simp only [Connection.step, readFailed]
    split
    · exact fun hafter => hafter (close_closed _ _)
    · exact fun _ => hmanned
  | stopReading =>
    simp only [Connection.step, stopReading]
    split
    · exact hmanned.congr rfl rfl rfl (.inl rfl)
    · exact hmanned
  | shutdown => exact hafter (close_closed c none)
  | leave =>
    revert hafter
    simp only [Connection.step, leave]
    split
    · exact fun _ => hmanned
    · next hleaving =>
      refine fun hafter => hafter (Bool.eq_false_or_eq_true _ |>.resolve_right fun hopen => ?_)
      exact hleaving (hmanned.leaving hopen)
  | _ => exact absurd rfl hcall

end

end DebugBridge.Connection
