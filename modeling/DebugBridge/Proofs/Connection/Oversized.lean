import Mathlib.Data.List.Nodup
import DebugBridge.Proofs.Connection.Sifted

/-!
# Requests that are too large

A call whose request is too large ends when the writer takes it, and all that stays of it is that its number is used up:
the run goes on as one in which the call was never made, with smaller numbers.
-/

namespace DebugBridge.Connection

/-- The numbers of the calls whose requests are too large. -/
def oversized (limit : Nat) (h : List Moment) : List UInt64 :=
  h.filterMap fun
    | .issued number payload => if TooLarge limit number payload then some number else none
    | _ => none

section

variable {gone : List UInt64} {count limit : Nat} {c d : Connection} {number : UInt64}

theorem mem_oversized {h : List Moment} : number ∈ oversized limit h ↔
    ∃ payload, .issued number payload ∈ h ∧ TooLarge limit number payload := by
  unfold oversized
  rw [List.mem_filterMap]
  constructor
  · rintro ⟨m, hmem, hfound⟩
    cases m with
    | issued other payload =>
      simp only [Option.ite_none_right_eq_some, Option.some.injEq] at hfound
      obtain ⟨hlarge, rfl⟩ := hfound
      exact ⟨payload, hmem, hlarge⟩
    | _ => cases hfound
  · rintro ⟨payload, hmem, hlarge⟩
    exact ⟨_, hmem, if_pos hlarge⟩

/-! ## Whole runs -/

/-- A request that was sent is not too large. -/
def SentFit (c : Connection) : Prop :=
  ∀ number call, Assoc.find? number c.calls = some call → call.sent = true →
    ¬ TooLarge c.setup.maxFrameBytes number call.payload

theorem SentFit.step {c' : Connection} {more : List Moment} (hfit : SentFit c) (hstep : CallStep c c' more) :
    SentFit c' := by
  intro number call hfound hsent
  rw [hstep.setup_eq]
  have herase : ∀ ended, Assoc.find? number (Assoc.erase ended c.calls) = some call →
      ¬ TooLarge c.setup.maxFrameBytes number call.payload := by
    intro ended hkept
    rw [Assoc.find?_erase] at hkept
    split at hkept
    · cases hkept
    · exact hfit number call hkept hsent
  cases hstep with
  | quiet same state silent => exact hfit number call (same.calls ▸ hfound) hsent
  | issued payload connected =>
    by_cases hself : number = c.nextNumber
    · rw [hself, Assoc.find?_insert_self] at hfound
      cases hfound
      cases hsent
    · rw [Assoc.find?_insert_of_ne hself] at hfound
      exact hfit number call hfound hsent
  | @sent sentNumber before bytes stream found unsent framed =>
    by_cases hself : number = sentNumber
    · rw [hself, Assoc.find?_insert_self] at hfound
      cases hfound
      rw [hself]
      exact Nat.not_lt.2 (Wire.eq_of_frame framed).1
    · rw [Assoc.find?_insert_of_ne hself] at hfound
      exact hfit number call hfound hsent
  | failed found cause => exact herase _ hfound
  | collected found => exact herase _ hfound
  | dropped ended => exact herase _ hfound
  | ignored event same state unawaited silent => exact hfit number call (same.calls ▸ hfound) hsent
  | @resolved event before incoming nonzero awaited found =>
    by_cases hself : number = event.number
    · rw [hself, Assoc.find?_insert_self] at hfound
      cases hfound
      rw [hself]
      exact hfit _ before found hsent
    · rw [Assoc.find?_insert_of_ne hself] at hfound
      exact hfit number call hfound hsent
  | resolvedDropped incoming nonzero awaited gone => exact hfit number call hfound hsent
  | shut wasOpen setup closed state nextNumber pending calls silent =>
    rw [calls, find?_failPending, Option.map_eq_some_iff] at hfound
    obtain ⟨before, hbefore, rfl⟩ := hfound
    have hkept : (c.failCall number before).payload = before.payload ∧
        (c.failCall number before).sent = before.sent := by
      unfold failCall
      split <;> exact ⟨rfl, rfl⟩
    rw [hkept.2] at hsent
    rw [hkept.1]
    exact hfit number before hbefore hsent

/-- Where exactly the calls with too large requests are left out, they are so in every connection on the way. -/
theorem Tied.sifted {h : List Moment} (htied : Tied c h) (hfit : SentFit c)
    (hgone : ∀ number payload, .issued number payload ∈ h →
      (number ∈ gone ↔ TooLarge c.setup.maxFrameBytes number payload)) : Sifted gone c := by
  have hlarge : ∀ number call, Assoc.find? number c.calls = some call →
      (number ∈ gone ↔ TooLarge c.setup.maxFrameBytes number call.payload) := by
    intro number call hfound
    obtain ⟨after, hcall⟩ := htied.calls number call hfound
    exact hgone number call.payload (mem_of_since hcall.since).1
  refine ⟨hlarge, fun number hmem call hfound => ?_⟩
  cases hsent : call.sent with
  | false => rfl
  | true => exact absurd ((hlarge number call hfound).1 hmem) (hfit number call hfound hsent)

theorem Twin.spares {effect effect' : Effect} (htwin : Twin gone limit effect effect') :
    effect.spares gone = true := by
  cases htwin with
  | wrote stream kept framed framed' => rfl
  | answered kept result => simpa [Effect.spares] using kept
  | silent silent =>
    cases effect with
    | answered number result => exact silent.elim
    | _ => rfl

theorem Match.filter {after other : Connection × List Effect} (hmatch : Match gone count limit after other) :
    after.2.filter (·.spares gone) = after.2 := by
  refine List.filter_eq_self.2 fun effect hmem => ?_
  obtain ⟨index, hindex, rfl⟩ := List.mem_iff_getElem.1 hmem
  have hlength := hmatch.twins.length_eq
  exact (hmatch.twins.get hindex (hlength ▸ hindex)).spares

/-- A run on its way: its calls are what they should be after what has happened, and of all that begin exactly those
with too large requests are left out. -/
structure OnCourse (gone : List UInt64) (limit : Nat) (c : Connection) (h : List Moment) (actions : List Action) :
    Prop where
  limit_eq : c.setup.maxFrameBytes = limit
  sound : Sound c
  tied : Tied c h
  fit : SentFit c
  gone_iff : ∀ number payload, .issued number payload ∈ h ++ c.history actions →
    (number ∈ gone ↔ TooLarge limit number payload)
  bound : (numbers (h ++ c.history actions)).length < UInt64.size

namespace OnCourse

variable {h : List Moment} {action : Action} {actions : List Action}

theorem step (hcourse : OnCourse gone limit c h (action :: actions)) :
    OnCourse gone limit (c.step action).1 (h ++ c.moments action) actions := by
  have hstep := step_callStep c action
  have hiff := hcourse.gone_iff
  have hbound := hcourse.bound
  rw [history, ← List.append_assoc] at hiff hbound
  refine ⟨?_, hcourse.sound.step hstep, hcourse.tied.step hcourse.sound hstep ?_, hcourse.fit.step hstep, hiff, hbound⟩
  · rw [hstep.setup_eq]
    exact hcourse.limit_eq
  · rw [numbers_append, List.length_append] at hbound
    omega

theorem sifted (hcourse : OnCourse gone limit c h actions) : Sifted gone c := by
  refine hcourse.tied.sifted hcourse.fit fun number payload hmem => ?_
  rw [hcourse.limit_eq]
  exact hcourse.gone_iff number payload (List.mem_append_left _ hmem)

/-- There is a number for the next call that begins. -/
theorem room (hcourse : OnCourse gone limit c h (action :: actions)) :
    (numbers h).length + (numbers (c.moments action)).length < UInt64.size := by
  have hbound := hcourse.bound
  rw [history, numbers_append, numbers_append, List.length_append, List.length_append] at hbound
  omega

end OnCourse

/-- Two runs alongside each other do the same but for what ends the calls that are left out. -/
theorem Alongside.run {actions others : List Action} (halong : Alongside gone c d actions others) {h : List Moment}
    (hcourse : OnCourse gone limit c h actions) (hbeside : Beside gone (numbers h).length c d) :
    Beside gone (numbers (h ++ c.history actions)).length (c.run actions).1 (d.run others).1 ∧
      List.Forall₂ (Twin gone limit) ((c.run actions).2.filter (·.spares gone)) (d.run others).2 := by
  induction halong generalizing h with
  | done c d =>
    rw [history, List.append_nil]
    exact ⟨hbeside, .nil⟩
  | @alone c d action actions others number about left later ih =>
    obtain ⟨hafter, hnothing⟩ := hbeside.alone hcourse.sifted left about
    rw [← List.length_append, ← numbers_append] at hafter
    obtain ⟨hend, htwins⟩ := ih hcourse.step hafter
    rw [history, ← List.append_assoc, run_cons]
    refine ⟨hend, ?_⟩
    rw [List.filter_append, hnothing, List.nil_append]
    exact htwins
  | @arrived c d actions others bytes later ih =>
    obtain ⟨hend, htwins⟩ := ih hcourse.step (by
      rw [numbers_append, numbers_moments (by simp), List.append_nil]
      exact hbeside.arrive bytes)
    rw [history, ← List.append_assoc, run_cons]
    refine ⟨hend, ?_⟩
    rw [show (c.step (.arrive bytes)).2 = [] from effects_arrive c bytes, List.nil_append]
    exact htwins
  | @arrivedThere c d actions others bytes later ih =>
    obtain ⟨hend, htwins⟩ := ih hcourse (hbeside.arriveThere bytes)
    rw [run_cons]
    refine ⟨hend, ?_⟩
    rw [show (d.step (.arrive bytes)).2 = [] from effects_arrive d bytes, List.nil_append]
    exact htwins
  | @both c d action actions others kept alike later ih =>
    have hmatch := hbeside.step hcourse.sifted kept alike hcourse.room
    rw [← List.length_append, ← numbers_append, hcourse.limit_eq] at hmatch
    obtain ⟨hend, htwins⟩ := ih hcourse.step hmatch.beside
    rw [history, ← List.append_assoc, run_cons, run_cons]
    refine ⟨hend, ?_⟩
    rw [List.filter_append, hmatch.filter]
    exact List.rel_append hmatch.twins htwins

end

/-! ## The calls of a connection -/

/-- In a history in which every number is given out once, a call asks for one thing. -/
theorem issued_unique {h : List Moment} (hnodup : (numbers h).Nodup) {number : UInt64}
    {asked asked' : Wire.Request.Payload} (hissued : .issued number asked ∈ h) (hissued' : .issued number asked' ∈ h) :
    asked = asked' := by
  induction h with
  | nil => cases hissued
  | cons m h ih =>
    cases m with
    | issued other payload =>
      obtain ⟨hnew, hrest⟩ := List.nodup_cons.1 (show (other :: numbers h).Nodup from hnodup)
      simp only [List.mem_cons, Moment.issued.injEq] at hissued hissued'
      rcases hissued with ⟨rfl, rfl⟩ | hlater
      · rcases hissued' with ⟨-, rfl⟩ | hlater'
        · rfl
        · exact absurd (mem_numbers hlater') hnew
      · rcases hissued' with ⟨rfl, -⟩ | hlater'
        · exact absurd (mem_numbers hlater) hnew
        · exact ih hrest hlater hlater'
    | _ => exact ih hnodup (by simpa using hissued) (by simpa using hissued')

theorem SentFit.run {c : Connection} (hfit : SentFit c) (actions : List Action) : SentFit (c.run actions).1 :=
  @run_rule (fun c _ => SentFit c) (fun c _ action hinv => hinv.step (step_callStep c action)) c [] actions hfit

section

variable (setup : ConnectionSetup) (actions : List Action)

/-- Before anything has happened a run is on course, with the calls left out that turn out too large. -/
theorem onCourse_start (hcount : (numbers (history { setup } actions)).length < UInt64.size) :
    OnCourse (oversized setup.maxFrameBytes (history { setup } actions)) setup.maxFrameBytes { setup } [] actions where
  limit_eq := rfl
  sound := .fresh setup
  tied := .start setup
  fit := by simp [SentFit]
  gone_iff number payload hissued := by
    have hnodup := ((ledger setup actions).2 hcount).nodup_numbers hcount
    rw [List.nil_append] at hissued
    rw [mem_oversized]
    constructor
    · rintro ⟨other, hother, hlarge⟩
      rwa [issued_unique hnodup hissued hother]
    · exact fun hlarge => ⟨payload, hissued, hlarge⟩
  bound := hcount

theorem beside_start {gone : List UInt64} (hzero : 0 ∉ gone) : Beside gone 0 { setup } { setup } where
  rest := rfl
  counted := rfl
  next := by
    have hzero : UInt64.ofNat 0 ∉ gone := hzero
    rw [keptBelow_succ_of_not_mem hzero]
    rfl
  pending := rfl
  calls := by simp
  incoming := rfl

end

/-- A call ends in a step of its own. -/
theorem concerned?_of_answered {c : Connection} {action : Action} {number : UInt64}
    {answer : Except CallError Wire.Event.Payload} (hanswered : .answered number answer ∈ (c.step action).2) :
    c.concerned? action = some number ∧ (∀ payload, action ≠ .issue payload) ∧ action ≠ .dropCall number := by
  have hloud {P : Prop} (hsilent : ∀ effect ∈ (c.step action).2, Silent effect) : P := (hsilent _ hanswered).elim
  have hended {other : UInt64} {result : Except CallError Wire.Event.Payload} {d : Connection}
      (hmem : .answered number answer ∈ (d.endCall other result).2) : number = other := by
    simp only [endCall, List.mem_singleton, Effect.answered.injEq] at hmem
    exact hmem.1
  cases action with
  | transmit other =>
    obtain rfl : number = other := by
      simp only [step, transmit] at hanswered
      repeat' split at hanswered
      all_goals first | exact hended hanswered | simp at hanswered
    exact ⟨rfl, by simp, by simp⟩
  | transmitFailed other cause =>
    obtain rfl : number = other := by
      simp only [step, transmitFailed] at hanswered
      repeat' split at hanswered
      all_goals first | exact hended hanswered | simp at hanswered
    exact ⟨rfl, by simp, by simp⟩
  | collect other =>
    obtain rfl : number = other := by
      simp only [step, collect] at hanswered
      split at hanswered
      · exact hended hanswered
      · cases hanswered
    exact ⟨rfl, by simp, by simp⟩
  | expire other =>
    obtain rfl : number = other := by
      simp only [step, expire] at hanswered
      split at hanswered
      · exact hended hanswered
      · cases hanswered
    exact ⟨rfl, by simp, by simp⟩
  | issue payload =>
    simp only [step] at hanswered
    split at hanswered <;> cases hanswered
  | dropCall other => cases hanswered
  | dial => exact hloud (dial_quiet c).silent
  | opened dial stream => exact hloud (opened_quiet c dial stream).silent
  | refused dial cause => exact hloud (refused_quiet c dial cause).silent
  | retry dial => exact hloud (retry_quiet c dial).silent
  | giveUp dial => exact hloud (giveUp_quiet c dial).silent
  | attach dial => exact hloud (attach_quiet c dial).silent
  | discard dial => exact hloud (discard_quiet c dial).silent
  | dropDial dial => exact hloud (dropDial_quiet c dial).silent
  | arrive bytes => exact hloud (arrive_quiet c bytes).silent
  | arriveEnd => exact hloud (arriveEnd_quiet c).silent
  | read => exact hloud c.read_silent
  | readFailed cause =>
    simp only [step, readFailed] at hanswered
    split at hanswered
    · exact (close_silent _ _ _ hanswered).elim
    · cases hanswered
  | stopReading => exact hloud (stopReading_quiet c).silent
  | shutdown => exact hloud (close_silent c none)
  | leave => exact hloud (leave_quiet c).silent

section

variable (setup : ConnectionSetup) (actions : List Action)

/-- A call with a request that is too large fails with a protocol error when the writer takes it, and in no other way
while there is a writer and its stream does not fail: nothing is written for it, its number is pending no more, and
nothing else changes. What is written are the requests of the others. And the others fare as in every run that differs
in that these calls are not made: their requests are written in the same order on the same streams with the numbers
that they have then, they end with the same results, and what is told is the same. -/
theorem oversized_calls_leave_no_trace (hcount : (numbers (history { setup } actions)).length < UInt64.size) :
    let c := (run { setup } actions).1
    let h := history { setup } actions
    let gone := oversized setup.maxFrameBytes h
    (∀ number ∈ gone, ∀ call, Assoc.find? number c.calls = some call → ∀ stream, c.writer = some stream →
      c.step (.transmit number)
        = ({ c with pending := c.pending.erase number, calls := Assoc.erase number c.calls },
          [.answered number (.error (.protocol (.outgoingTooLarge
            (Wire.Request.encode { number, payload := some call.payload }).length setup.maxFrameBytes)))])) ∧
    (∀ number ∈ gone, ∀ action answer, .answered number answer ∈ (c.step action).2 →
      c.step action
        = ({ c with pending := c.pending.erase number, calls := Assoc.erase number c.calls },
          [.answered number answer]) ∧
      number ∉ c.pending.erase number ∧
      ((∃ length, setup.maxFrameBytes < length ∧
          answer = .error (.protocol (.outgoingTooLarge length setup.maxFrameBytes))) ∨
        (c.writer = none ∧ answer = .error .notConnected) ∨
        ∃ cause, action = .transmitFailed number cause ∧ answer = .error (.io cause))) ∧
    (∀ stream bytes, .did (.wrote stream bytes) ∈ h → ∃ number payload, .issued number payload ∈ h ∧ number ∉ gone ∧
      Wire.frame setup.maxFrameBytes { number, payload := some payload : Wire.Request }.encode = .ok bytes) ∧
    (∀ others, Alongside gone { setup } { setup } actions others →
      let d := (run { setup } others).1
      List.Forall₂ (Twin gone setup.maxFrameBytes) ((run { setup } actions).2.filter (·.spares gone))
        (run { setup } others).2 ∧
      d.state = c.state ∧ d.closed = c.closed ∧ d.writer = c.writer ∧ d.pending = renumbered gone c.pending ∧
      ∀ number ∉ gone, (Assoc.find? (renumber gone number) d.calls).map Call.gist
        = (Assoc.find? number c.calls).map Call.gist) := by
  intro c h gone
  obtain ⟨-, htied⟩ := ledger setup actions
  have htied : Tied c h := htied hcount
  have hcourse : OnCourse gone setup.maxFrameBytes { setup } [] actions := onCourse_start setup actions hcount
  have hsetup : c.setup = setup := run_setup { setup } actions
  have hiff : ∀ number payload, .issued number payload ∈ h →
      (number ∈ gone ↔ TooLarge setup.maxFrameBytes number payload) := hcourse.gone_iff
  have hsifted : Sifted gone c :=
    htied.sifted ((SentFit.run hcourse.fit actions)) (by rw [hsetup]; exact hiff)
  refine ⟨fun number hgone call hfound stream hwriter => ?_, fun number hgone action answer hanswered => ?_,
    fun stream bytes hwrote => ?_, fun others halong => ?_⟩
  · have hlarge := (hsifted.large number call hfound).1 hgone
    have hended := transmit_of_tooLarge hfound (hsifted.unsent number hgone call hfound) hwriter hlarge
    rw [hsetup] at hended
    exact hended
  · obtain ⟨habout, hnotIssue, hnotDropped⟩ := concerned?_of_answered hanswered
    rcases hsifted.step_gone hgone habout hnotIssue hnotDropped with hnone | ⟨call, ended, hfound, hended, hwhy⟩
    · rw [hnone] at hanswered
      cases hanswered
    · rw [hended] at hanswered
      obtain rfl : ended = answer := by
        simp only [endCall, List.mem_singleton, Effect.answered.injEq, true_and] at hanswered
        exact hanswered.symm
      refine ⟨hended, htied.nodup.not_mem_erase, ?_⟩
      have hlarge := (hsifted.large number call hfound).1 hgone
      rw [hsetup] at hwhy hlarge
      rcases hwhy with hlength | hwhy
      · exact .inl ⟨_, hlarge, hlength⟩
      · exact .inr hwhy
  · obtain ⟨number, payload, hissued, hframed⟩ := htied.wrote stream bytes hwrote
    rw [hsetup] at hframed
    refine ⟨number, payload, hissued, fun hgone => ?_, hframed⟩
    exact Nat.not_lt.2 (Wire.eq_of_frame hframed).1 ((hiff number payload hissued).1 hgone)
  · have hzero : 0 ∉ gone := by
      intro hmem
      obtain ⟨payload, hissued, -⟩ := mem_oversized.1 hmem
      exact htied.ne_zero hcount (mem_numbers hissued) rfl
    obtain ⟨hbeside, htwins⟩ := halong.run hcourse (beside_start setup hzero)
    exact ⟨htwins, hbeside.state_eq, hbeside.closed_eq, hbeside.writer_eq, hbeside.pending, hbeside.calls⟩

end

/-- The second of three calls is too large, and the first two are handed to the writer in the other order. -/
theorem oversized_calls_leave_no_trace_of_one_between_two :
    let setup : ConnectionSetup := { maxFrameBytes := 12 }
    let replies (number : UInt64) : List Wire.Event :=
      [{ number, payload := some .startDebugging }, { number := 1, payload := some (.listFrames []) }]
    let bytes (number : UInt64) := (Wire.putAll 12 [] ((replies number).map Wire.Event.encode)).1
    let actions : List Action := [.dial, .opened 0 0, .attach 0, .issue (.listFrames 7),
      .issue (.evaluate 7 "a long expression"), .issue .startDebugging, .transmit 2, .transmit 1, .transmit 3,
      .arrive (bytes 3), .read, .read, .collect 3, .collect 1]
    let others : List Action := [.dial, .opened 0 0, .attach 0, .issue (.listFrames 7), .issue .startDebugging,
      .transmit 1, .transmit 2, .arrive (bytes 2), .read, .read, .collect 2, .collect 1]
    (numbers (history { setup } actions)).length < UInt64.size ∧
      oversized setup.maxFrameBytes (history { setup } actions) = [2] ∧
      answersTo 2 (run { setup } actions).2 = [.error (.protocol (.outgoingTooLarge 26 12))] ∧
      Alongside [2] { setup } { setup } actions others ∧
      List.Forall₂ (Twin [2] setup.maxFrameBytes) ((run { setup } actions).2.filter (·.spares [2]))
        (run { setup } others).2 := by
  intro setup replies bytes actions others
  have hcount : (numbers (history { setup } actions)).length < UInt64.size := by decide +kernel
  have hgone : oversized setup.maxFrameBytes (history { setup } actions) = [2] := by decide +kernel
  have halong : Alongside [2] { setup } { setup } actions others := by
    refine .both (by decide +kernel) (by simp) ?_
    refine .both (by decide +kernel) (by simp) ?_
    refine .both (by decide +kernel) (by simp) ?_
    refine .both (by decide +kernel) (by simp) ?_
    refine .alone 2 (by decide +kernel) (by decide) ?_
    refine .both (by decide +kernel) (by simp) ?_
    refine .alone 2 (by decide +kernel) (by decide) ?_
    refine .both (by decide +kernel) (by simp) ?_
    refine .both (by decide +kernel) (by simp) ?_
    refine .arrived _ (.arrivedThere _ ?_)
    -- Each reply carries the number that its call has in the run it belongs to.
    refine .both (by decide +kernel) (fun _ => readsAlike_of_coming { number := 3, payload := some .startDebugging }
      { number := 2, payload := some .startDebugging } (by decide +kernel) (by decide +kernel)
      (by decide +kernel)) ?_
    refine .both (by decide +kernel) (fun _ => readsAlike_of_coming { number := 1, payload := some (.listFrames []) }
      { number := 1, payload := some (.listFrames []) } (by decide +kernel) (by decide +kernel)
      (by decide +kernel)) ?_
    exact .both (by decide +kernel) (by simp) (.both (by decide +kernel) (by simp) (.done _ _))
  obtain ⟨-, -, -, hothers⟩ := oversized_calls_leave_no_trace setup actions hcount
  rw [hgone] at hothers
  exact ⟨hcount, hgone, by decide +kernel, halong, (hothers others halong).1⟩

end DebugBridge.Connection
