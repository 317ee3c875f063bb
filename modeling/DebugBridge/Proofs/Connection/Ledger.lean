import Mathlib.Data.List.Nodup
import DebugBridge.Proofs.Connection.Steps

/-!
# The ledger of calls

Three things have to agree for a call to get its own answer: the counter, the table of pending numbers, and the calls
that are still under way. `Sound` is what holds of them in every connection that was ever reached, `Tied` what ties
them to the history as long as the counter has not come round.
-/

namespace DebugBridge.Connection

/-- The calls wait for something that can still come. -/
structure Sound (c : Connection) : Prop where
  isOpen : c.state = .connected → c.closed = false
  emptied : c.closed = true → c.pending = []
  awaited : ∀ number call, Assoc.find? number c.calls = some call → call.outcome = none → number ∈ c.pending

/-- What is known of a call under way: when it began, and that its outcome is the first message with its number, unless
the connection was closed before that came. -/
structure TiedCall (call : Call) (closed : Bool) (number : UInt64) (h after : List Moment) : Prop where
  since : since number h = some (call.payload, after)
  waiting : call.outcome = none → reply? number after = none
  replied : ∀ event, call.outcome = some (.ok event) → reply? number after = some event
  broken : ∀ error, call.outcome = some (.error error) → error = .connectionClosed ∧ closed = true

/-- The number of the call that begins after so many others. -/
def nth (count : Nat) : UInt64 :=
  UInt64.ofNat (count + 1)

/-- The counter, the pending numbers and the calls fit what has happened. -/
structure Tied (c : Connection) (h : List Moment) : Prop where
  counted : numbers h = (List.range (numbers h).length).map nth
  next : c.nextNumber = nth (numbers h).length
  outstanding : c.closed = false → ∀ number, number ∈ c.pending ↔ Outstanding h number
  nodup : c.pending.Nodup
  present : ∀ number ∈ c.pending, .dropped number ∉ h →
    ∃ call, Assoc.find? number c.calls = some call ∧ call.outcome = none
  calls : ∀ number call, Assoc.find? number c.calls = some call → ∃ after, TiedCall call c.closed number h after
  ended : ∀ number result, .did (.answered number result) ∈ h →
    number ∈ numbers h ∧ Assoc.find? number c.calls = none
  wrote : ∀ stream bytes, .did (.wrote stream bytes) ∈ h → ∃ number payload, .issued number payload ∈ h ∧
    Wire.frame c.setup.maxFrameBytes { number, payload := some payload : Wire.Request }.encode = .ok bytes

/-! ## Every reachable connection -/

theorem find?_failPending (c : Connection) (number : UInt64) :
    Assoc.find? number c.failPending = (Assoc.find? number c.calls).map (c.failCall number) :=
  Assoc.find?_map c.failCall number c.calls

/-- Numbers are pending in open connections only. -/
theorem Sound.open_of_mem {c : Connection} (hsound : Sound c) {number : UInt64} (hmem : number ∈ c.pending) :
    c.closed = false := by
  cases hclosed : c.closed with
  | false => rfl
  | true =>
    rw [hsound.emptied hclosed] at hmem
    cases hmem

/-- Without the failed or answered call and its number, the others still wait for something pending. -/
theorem Sound.awaited_erase {c : Connection} (hsound : Sound c) (ended : UInt64) {number : UInt64} {call : Call}
    (hfound : Assoc.find? number (Assoc.erase ended c.calls) = some call) (hnone : call.outcome = none) :
    number ≠ ended ∧ number ∈ c.pending := by
  rw [Assoc.find?_erase] at hfound
  split at hfound
  · cases hfound
  · next hne => exact ⟨hne, hsound.awaited number call hfound hnone⟩

theorem Sound.step {c c' : Connection} {more : List Moment} (hsound : Sound c) (hstep : CallStep c c' more) :
    Sound c' := by
  cases hstep with
  | quiet same state silent =>
    refine ⟨fun hstate => ?_, ?_, ?_⟩
    · rw [same.closed]
      rcases state hstate with hconnected | hopen
      · exact hsound.isOpen hconnected
      · exact hopen
    · rw [same.closed, same.pending]
      exact hsound.emptied
    · rw [same.calls, same.pending]
      exact hsound.awaited
  | issued payload connected =>
    refine ⟨hsound.isOpen, fun hclosed => ?_, fun number call hfound hnone => ?_⟩
    · rw [hsound.isOpen connected] at hclosed
      cases hclosed
    · by_cases hnumber : number = c.nextNumber
      · simp [hnumber]
      · rw [Assoc.find?_insert_of_ne hnumber] at hfound
        exact List.mem_append_left _ (hsound.awaited number call hfound hnone)
  | @sent sentNumber sentCall bytes stream found unsent framed =>
    refine ⟨hsound.isOpen, hsound.emptied, fun number call hfound hnone => ?_⟩
    by_cases hnumber : number = sentNumber
    · rw [hnumber, Assoc.find?_insert_self] at hfound
      cases hfound
      exact hsound.awaited number sentCall (hnumber ▸ found) hnone
    · rw [Assoc.find?_insert_of_ne hnumber] at hfound
      exact hsound.awaited number call hfound hnone
  | @failed failedNumber failedCall error found cause =>
    refine ⟨hsound.isOpen, fun hclosed => by simp [hsound.emptied hclosed], fun number call hfound hnone => ?_⟩
    obtain ⟨hne, hpending⟩ := hsound.awaited_erase failedNumber hfound hnone
    exact (List.mem_erase_of_ne hne).2 hpending
  | @collected endedNumber payload outcome found =>
    exact ⟨hsound.isOpen, hsound.emptied, fun number call hfound hnone =>
      (hsound.awaited_erase endedNumber hfound hnone).2⟩
  | dropped droppedNumber =>
    exact ⟨hsound.isOpen, hsound.emptied, fun number call hfound hnone =>
      (hsound.awaited_erase droppedNumber hfound hnone).2⟩
  | ignored event same state unawaited silent =>
    refine ⟨?_, ?_, ?_⟩
    · rw [same.closed, state]
      exact hsound.isOpen
    · rw [same.closed, same.pending]
      exact hsound.emptied
    · rw [same.calls, same.pending]
      exact hsound.awaited
  | @resolved event resolvedCall incoming nonzero awaited found =>
    refine ⟨hsound.isOpen, fun hclosed => by simp [hsound.emptied hclosed], fun number call hfound hnone => ?_⟩
    by_cases hnumber : number = event.number
    · rw [hnumber, Assoc.find?_insert_self] at hfound
      cases hfound
      cases hnone
    · rw [Assoc.find?_insert_of_ne hnumber] at hfound
      exact (List.mem_erase_of_ne hnumber).2 (hsound.awaited number call hfound hnone)
  | @resolvedDropped event incoming nonzero awaited gone =>
    refine ⟨hsound.isOpen, fun hclosed => by simp [hsound.emptied hclosed], fun number call hfound hnone => ?_⟩
    have hnumber : number ≠ event.number := by
      intro heq
      rw [heq, gone] at hfound
      cases hfound
    exact (List.mem_erase_of_ne hnumber).2 (hsound.awaited number call hfound hnone)
  | shut wasOpen setup closed state nextNumber pending calls silent =>
    refine ⟨fun hstate => absurd hstate state, fun _ => pending, fun number call hfound hnone => ?_⟩
    -- A call that waits is pending, so it has just been given an outcome.
    rw [calls, find?_failPending, Option.map_eq_some_iff] at hfound
    obtain ⟨before, hbefore, rfl⟩ := hfound
    unfold failCall at hnone
    split at hnone
    · cases hnone
    · next hnot => exact absurd (hsound.awaited number before hbefore hnone) hnot

theorem Sound.fresh (setup : ConnectionSetup) : Sound { setup } :=
  ⟨by simp, by simp, by simp⟩

theorem Sound.run {c : Connection} (hsound : Sound c) (actions : List Action) : Sound (c.run actions).1 :=
  @run_rule (fun c _ => Sound c) (fun c _ action hinv => hinv.step (step_callStep c action)) c [] actions hsound

/-! ## While the counter has not come round -/

theorem nth_ne_zero {count : Nat} (hbound : count + 1 < UInt64.size) : nth count ≠ 0 := by
  intro heq
  have hnat := congrArg UInt64.toNat heq
  rw [nth, UInt64.toNat_ofNat_of_lt' hbound] at hnat
  simp at hnat

theorem nth_injective {first second : Nat} (hfirst : first + 1 < UInt64.size) (hsecond : second + 1 < UInt64.size)
    (heq : nth first = nth second) : first = second := by
  have hnat := congrArg UInt64.toNat heq
  rw [nth, nth, UInt64.toNat_ofNat_of_lt' hfirst, UInt64.toNat_ofNat_of_lt' hsecond] at hnat
  omega

theorem nth_succ (count : Nat) : nth count + 1 = nth (count + 1) :=
  (UInt64.ofNat_add (count + 1) 1).symm

section

variable {c c' : Connection} {h more : List Moment}

namespace Tied

theorem mem_numbers_iff (htied : Tied c h) {number : UInt64} :
    number ∈ numbers h ↔ ∃ count < (numbers h).length, nth count = number := by
  rw [htied.counted]
  simp

theorem ne_zero (htied : Tied c h) (hbound : (numbers h).length < UInt64.size) {number : UInt64}
    (hmem : number ∈ numbers h) : number ≠ 0 := by
  obtain ⟨count, hcount, rfl⟩ := htied.mem_numbers_iff.1 hmem
  exact nth_ne_zero (by omega)

/-- No number is given out twice. -/
theorem nodup_numbers (htied : Tied c h) (hbound : (numbers h).length < UInt64.size) : (numbers h).Nodup := by
  rw [htied.counted]
  refine List.Nodup.map_on (fun first hfirst second hsecond heq => ?_) List.nodup_range
  rw [List.mem_range] at hfirst hsecond
  exact nth_injective (by omega) (by omega) heq

/-- The number that is next was given to no call before. -/
theorem fresh (htied : Tied c h) (hbound : (numbers h).length + 1 < UInt64.size) : c.nextNumber ∉ numbers h := by
  intro hmem
  obtain ⟨count, hcount, heq⟩ := htied.mem_numbers_iff.1 hmem
  rw [htied.next] at heq
  have := nth_injective (by omega) hbound heq
  omega

/-- Every number given out is at least 1, and below the next one until that is 0. -/
theorem one_le (htied : Tied c h) (hbound : (numbers h).length < UInt64.size) {number : UInt64}
    (hmem : number ∈ numbers h) : 1 ≤ number ∧ (c.nextNumber ≠ 0 → number < c.nextNumber) := by
  obtain ⟨count, hcount, rfl⟩ := htied.mem_numbers_iff.1 hmem
  have hnth : (nth count).toNat = count + 1 := UInt64.toNat_ofNat_of_lt' (by omega)
  refine ⟨by rw [UInt64.le_iff_toNat_le, hnth, UInt64.toNat_one]; omega, fun hnext => ?_⟩
  have hroom : (numbers h).length + 1 < UInt64.size := by
    apply Nat.lt_of_le_of_ne hbound
    intro hfull
    exact hnext (by rw [htied.next, nth, show (numbers h).length + 1 = UInt64.size from hfull]; rfl)
  have hnextNat : (nth (numbers h).length).toNat = (numbers h).length + 1 := UInt64.toNat_ofNat_of_lt' hroom
  rw [htied.next, UInt64.lt_iff_toNat_lt, hnth, hnextNat]
  omega

theorem mem_of_outstanding {number : UInt64} (houtstanding : Outstanding h number) : number ∈ numbers h := by
  obtain ⟨payload, after, hsince, -⟩ := houtstanding
  exact since_isSome_iff.1 (by rw [hsince]; rfl)

theorem mem_of_found (htied : Tied c h) {number : UInt64} {call : Call}
    (hfound : Assoc.find? number c.calls = some call) : number ∈ numbers h := by
  obtain ⟨after, hcall⟩ := htied.calls number call hfound
  exact since_isSome_iff.1 (by rw [hcall.since]; rfl)

end Tied

theorem Tied.start (setup : ConnectionSetup) : Tied { setup } [] where
  counted := rfl
  next := rfl
  outstanding := by simp [Outstanding, since]
  nodup := List.nodup_nil
  present := by simp
  calls := by simp
  ended := by simp
  wrote := by simp

theorem TiedCall.step {call before : Call} {number : UInt64} {after : List Moment}
    (hbefore : TiedCall before c.closed number h after) (hclosed : c.closed = true → c'.closed = true)
    (hpayload : call.payload = before.payload) (houtcome : call.outcome = before.outcome)
    (hnone : before.outcome = none → reply? number more = none) :
    TiedCall call c'.closed number (h ++ more) (after ++ more) where
  since := by rw [hpayload]; exact since_append_of_some hbefore.since more
  waiting hwaits := by
    rw [houtcome] at hwaits
    rw [reply?_append, hbefore.waiting hwaits, hnone hwaits]
    rfl
  replied event hreplied := by
    rw [houtcome] at hreplied
    rw [reply?_append, hbefore.replied event hreplied]
    rfl
  broken error hbroken := by
    rw [houtcome] at hbroken
    exact ⟨(hbefore.broken error hbroken).1, hclosed (hbefore.broken error hbroken).2⟩

theorem Tied.calls_step (hsound : Sound c) (htied : Tied c h) (hbound : (numbers h).length < UInt64.size)
    (hfresh : ∀ number payload, .issued number payload ∈ more → number ∉ numbers h) (hstep : CallStep c c' more)
    {number : UInt64} {call : Call} (hfound : Assoc.find? number c'.calls = some call) :
    ∃ after, TiedCall call c'.closed number (h ++ more) after := by
  cases hstep.change hfound with
  | begun payload isNext moments eq =>
    subst eq
    have hnone := since_eq_none (hfresh number payload (by simp [moments]))
    refine ⟨[], ?_, fun _ => rfl, by simp, by simp⟩
    rw [since_append_of_none hnone, moments, since, if_pos rfl]
  | kept before found payload outcome sent strange =>
    obtain ⟨after, hbefore⟩ := htied.calls number before found
    refine ⟨after ++ more, hbefore.step hstep.closed_of_closed payload outcome fun hnone => ?_⟩
    -- A message that came with its number would have been its own.
    cases hreply : reply? number more with
    | none => rfl
    | some event =>
      obtain ⟨hevent, hnumber⟩ := mem_of_reply? hreply
      rcases strange event hevent hnumber with hzero | hnot
      · exact absurd hzero (htied.ne_zero hbound (htied.mem_of_found found))
      · exact absurd (hsound.awaited number before found hnone) hnot
  | replied before event found payload own awaited moments outcome =>
    obtain ⟨after, hbefore⟩ := htied.calls number before found
    have hopen := hsound.open_of_mem awaited
    -- While its number was pending no message with it had come, so this one is the first.
    have hfirst : reply? number after = none := by
      have houtstanding := (htied.outstanding hopen number).1 awaited
      exact reply?_eq_none_of_not_settles ((outstanding_iff hbefore.since).1 houtstanding)
    refine ⟨after ++ more, ?_, by simp [outcome], fun other hother => ?_, by simp [outcome]⟩
    · rw [payload]
      exact since_append_of_some hbefore.since more
    · rw [outcome] at hother
      cases hother
      rw [reply?_append, hfirst, moments]
      simp [reply?, own]
  | broken before found payload wasOpen closed outcome =>
    obtain ⟨after, hbefore⟩ := htied.calls number before found
    refine ⟨after ++ more, ?_, by simp [outcome], by simp [outcome], fun error herror => ?_⟩
    · rw [payload]
      exact since_append_of_some hbefore.since more
    · rw [outcome] at herror
      cases herror
      exact ⟨rfl, closed⟩

theorem Tied.ended_step (htied : Tied c h) (hbound : (numbers h).length + (numbers more).length < UInt64.size)
    (hstep : CallStep c c' more) {number : UInt64} {answer : Except CallError Wire.Event.Payload}
    (hanswered : .did (.answered number answer) ∈ h ++ more) :
    number ∈ numbers (h ++ more) ∧ Assoc.find? number c'.calls = none := by
  rcases List.mem_append.1 hanswered with hbefore | hnow
  · obtain ⟨hmem, hgone⟩ := htied.ended number answer hbefore
    refine ⟨by simp [hmem], ?_⟩
    cases hfound : Assoc.find? number c'.calls with
    | none => rfl
    | some call =>
      -- A call that is there now was there before, or is new; but this one was neither.
      cases hstep.change hfound with
      | begun payload isNext moments eq =>
        rw [moments] at hbound
        exact absurd (isNext ▸ hmem) (htied.fresh hbound)
      | kept before found => simp [found] at hgone
      | replied before event found => simp [found] at hgone
      | broken before found => simp [found] at hgone
  · obtain ⟨call, -, hfound, hgone, -⟩ := hstep.answered hnow
    exact ⟨by simp [htied.mem_of_found hfound], hgone⟩

theorem Tied.wrote_step (htied : Tied c h) (hstep : CallStep c c' more) {stream : StreamId} {bytes : Bytes}
    (hwrote : .did (.wrote stream bytes) ∈ h ++ more) :
    ∃ number payload, .issued number payload ∈ h ++ more ∧
      Wire.frame c'.setup.maxFrameBytes { number, payload := some payload : Wire.Request }.encode = .ok bytes := by
  rw [hstep.setup_eq]
  rcases List.mem_append.1 hwrote with hbefore | hnow
  · obtain ⟨number, payload, hissued, hframed⟩ := htied.wrote stream bytes hbefore
    exact ⟨number, payload, List.mem_append_left _ hissued, hframed⟩
  · obtain ⟨number, call, hfound, hframed⟩ := hstep.wrote hnow
    obtain ⟨after, hcall⟩ := htied.calls number call hfound
    exact ⟨number, call.payload, List.mem_append_left _ (mem_of_since hcall.since).1, hframed⟩

theorem Tied.count_step (htied : Tied c h) (hstep : CallStep c c' more) :
    numbers (h ++ more) = (List.range (numbers (h ++ more)).length).map nth ∧
      c'.nextNumber = nth (numbers (h ++ more)).length := by
  rcases hstep.counter with ⟨hnone, hnext⟩ | ⟨hone, hnext, -⟩
  · rw [numbers_append, hnone, List.append_nil, hnext]
    exact ⟨htied.counted, htied.next⟩
  · rw [numbers_append, hone, List.length_append, List.length_singleton, List.range_succ, List.map_append, hnext,
      htied.next]
    refine ⟨by rw [← htied.counted]; rfl, ?_⟩
    rw [nth, nth, UInt64.ofNat_add (numbers h).length.succ 1]
    rfl

theorem not_settles_of_silent {effects : List Effect} (hsilent : ∀ effect ∈ effects, Silent effect) (number : UInt64) :
    ∀ m ∈ effects.map Moment.did, ¬ m.settles number := by
  intro m hm
  obtain ⟨effect, heffect, rfl⟩ := List.mem_map.1 hm
  have := hsilent effect heffect
  cases effect with
  | answered other answer => exact this.elim
  | _ => exact id

/-- A moment that settles one pending number, and takes it from the table. -/
theorem Tied.settle (htied : Tied c h) (hopen : c.closed = false) {moment : Moment} {settled : UInt64}
    (hsettles : ∀ number, moment.settles number ↔ settled = number) (hnone : numbers [moment] = []) (number : UInt64) :
    number ∈ c.pending.erase settled ↔ Outstanding (h ++ [moment]) number := by
  rw [htied.nodup.mem_erase_iff, htied.outstanding hopen, outstanding_append hnone]
  simp only [List.mem_singleton, forall_eq, hsettles]
  constructor
  · rintro ⟨hne, houtstanding⟩
    exact ⟨houtstanding, Ne.symm hne⟩
  · rintro ⟨houtstanding, hne⟩
    exact ⟨Ne.symm hne, houtstanding⟩

theorem Tied.outstanding_step (htied : Tied c h)
    (hbound : (numbers h).length + (numbers more).length < UInt64.size) (hstep : CallStep c c' more)
    (hopen : c'.closed = false) (number : UInt64) : number ∈ c'.pending ↔ Outstanding (h ++ more) number := by
  have hopen' := hstep.wasOpen hopen
  have hpending := htied.outstanding hopen' number
  cases hstep with
  | quiet same state silent =>
    rw [same.pending, outstanding_append (numbers_did _), hpending]
    exact (and_iff_left (not_settles_of_silent silent number)).symm
  | issued payload connected =>
    rw [outstanding_append_issued (htied.fresh hbound), ← hpending, List.mem_append, List.mem_singleton, or_comm]
  | sent stream found unsent framed =>
    rw [outstanding_append rfl, hpending]
    simp [Moment.settles]
  | failed found cause => exact htied.settle hopen' (fun _ => Iff.rfl) rfl number
  | @collected ended payload outcome found =>
    -- What is collected has been settled before, by its message.
    rw [outstanding_append rfl, hpending]
    simp only [List.mem_singleton, forall_eq, Moment.settles, iff_self_and]
    rintro houtstanding rfl
    obtain ⟨after, hcall⟩ := htied.calls ended _ found
    cases outcome with
    | error error =>
      have hclosed := (hcall.broken error rfl).2
      rw [hopen'] at hclosed
      cases hclosed
    | ok event =>
      have hnone := reply?_eq_none_of_not_settles ((outstanding_iff hcall.since).1 houtstanding)
      rw [hcall.replied event rfl] at hnone
      cases hnone
  | dropped ended =>
    rw [outstanding_append rfl, hpending]
    simp [Moment.settles]
  | @ignored _ effects event same state unawaited silent =>
    rw [same.pending, outstanding_append (show numbers (.received event :: effects.map .did) = [] from numbers_did _),
      hpending]
    simp only [List.mem_cons, forall_eq_or_imp, iff_self_and]
    refine fun houtstanding => ⟨?_, not_settles_of_silent silent number⟩
    rintro rfl
    rcases unawaited with hzero | hnot
    · exact htied.ne_zero (by omega) (mem_of_outstanding houtstanding) hzero
    · exact hnot (hpending.2 houtstanding)
  | resolved incoming nonzero awaited found => exact htied.settle hopen' (fun _ => Iff.rfl) rfl number
  | resolvedDropped incoming nonzero awaited gone => exact htied.settle hopen' (fun _ => Iff.rfl) rfl number
  | shut wasOpen setup closed state nextNumber pending calls silent =>
    rw [closed] at hopen
    cases hopen

theorem Tied.nodup_step (hsound : Sound c) (htied : Tied c h)
    (hbound : (numbers h).length + (numbers more).length < UInt64.size) (hstep : CallStep c c' more) :
    c'.pending.Nodup := by
  cases hstep with
  | quiet same state silent =>
    rw [same.pending]
    exact htied.nodup
  | issued payload connected =>
    have hnot : c.nextNumber ∉ c.pending := by
      rw [htied.outstanding (hsound.isOpen connected)]
      exact fun houtstanding => htied.fresh hbound (mem_of_outstanding houtstanding)
    simp only [List.nodup_append, htied.nodup, List.nodup_cons, List.not_mem_nil, not_false_eq_true, List.nodup_nil,
      and_self, List.mem_singleton, forall_eq, true_and]
    rintro number hmem rfl
    exact hnot hmem
  | ignored event same state unawaited silent =>
    rw [same.pending]
    exact htied.nodup
  | failed found cause => exact htied.nodup.erase _
  | resolved incoming nonzero awaited found => exact htied.nodup.erase _
  | resolvedDropped incoming nonzero awaited gone => exact htied.nodup.erase _
  | shut wasOpen setup closed state nextNumber pending calls silent =>
    rw [pending]
    exact List.nodup_nil
  | _ => exact htied.nodup

/-- The call of a pending number waits, unless it was dropped. -/
theorem Tied.present_step (htied : Tied c h) (hstep : CallStep c c' more) {number : UInt64}
    (hmem : number ∈ c'.pending) (hkept : .dropped number ∉ h ++ more) :
    ∃ call, Assoc.find? number c'.calls = some call ∧ call.outcome = none := by
  rw [List.mem_append, not_or] at hkept
  have hbefore : number ∈ c.pending → ∃ call, Assoc.find? number c.calls = some call ∧ call.outcome = none :=
    fun hmem => htied.present number hmem hkept.1
  cases hstep with
  | quiet same state silent =>
    rw [same.pending] at hmem
    rw [same.calls]
    exact hbefore hmem
  | issued payload connected =>
    by_cases hnumber : number = c.nextNumber
    · exact ⟨{ payload }, by rw [hnumber, Assoc.find?_insert_self], rfl⟩
    · simp only [List.mem_append, List.mem_singleton, hnumber, or_false] at hmem
      simp only [Assoc.find?_insert_of_ne hnumber]
      exact hbefore hmem
  | @sent sentNumber sentCall bytes stream found unsent framed =>
    obtain ⟨call, hfound, hnone⟩ := hbefore hmem
    by_cases hnumber : number = sentNumber
    · rw [hnumber, found] at hfound
      cases hfound
      exact ⟨{ sentCall with sent := true }, by rw [hnumber, Assoc.find?_insert_self], hnone⟩
    · exact ⟨call, by rw [Assoc.find?_insert_of_ne hnumber, hfound], hnone⟩
  | failed found cause =>
    obtain ⟨hne, hmem⟩ := htied.nodup.mem_erase_iff.1 hmem
    obtain ⟨call, hfound, hnone⟩ := hbefore hmem
    exact ⟨call, by rw [Assoc.find?_erase, if_neg hne, hfound], hnone⟩
  | @collected ended payload outcome found =>
    obtain ⟨call, hfound, hnone⟩ := hbefore hmem
    -- A call that is collected has its outcome, so its number is no longer pending.
    have hne : number ≠ ended := by
      rintro rfl
      rw [found] at hfound
      cases hfound
      cases hnone
    exact ⟨call, by rw [Assoc.find?_erase, if_neg hne, hfound], hnone⟩
  | dropped ended =>
    obtain ⟨call, hfound, hnone⟩ := hbefore hmem
    have hne : number ≠ ended := by
      rintro rfl
      exact hkept.2 (List.mem_singleton_self _)
    exact ⟨call, by rw [Assoc.find?_erase, if_neg hne, hfound], hnone⟩
  | ignored event same state unawaited silent =>
    rw [same.pending] at hmem
    rw [same.calls]
    exact hbefore hmem
  | resolved incoming nonzero awaited found =>
    obtain ⟨hne, hmem⟩ := htied.nodup.mem_erase_iff.1 hmem
    obtain ⟨call, hfound, hnone⟩ := hbefore hmem
    exact ⟨call, by rw [Assoc.find?_insert_of_ne hne, hfound], hnone⟩
  | resolvedDropped incoming nonzero awaited gone => exact hbefore (List.mem_of_mem_erase hmem)
  | shut wasOpen setup closed state nextNumber pending calls silent =>
    rw [pending] at hmem
    cases hmem

theorem Tied.step (hsound : Sound c) (htied : Tied c h) (hstep : CallStep c c' more)
    (hbound : (numbers (h ++ more)).length < UInt64.size) : Tied c' (h ++ more) := by
  rw [numbers_append, List.length_append] at hbound
  -- A call that begins in this step takes the next number, which was never given out.
  have hfresh : ∀ number payload, .issued number payload ∈ more → number ∉ numbers h := by
    intro number payload hissued
    have hmem := mem_numbers hissued
    rcases hstep.counter with ⟨hnone, -⟩ | ⟨hone, -, -⟩
    · rw [hnone] at hmem
      cases hmem
    · rw [hone, List.mem_singleton] at hmem
      rw [hone] at hbound
      exact hmem ▸ htied.fresh hbound
  obtain ⟨hcounted, hnext⟩ := htied.count_step hstep
  exact {
    counted := hcounted
    next := hnext
    outstanding := fun hopen => htied.outstanding_step hbound hstep hopen
    nodup := htied.nodup_step hsound hbound hstep
    present := fun number hmem hkept => htied.present_step hstep hmem hkept
    calls := fun number call hfound => htied.calls_step hsound (by omega) hfresh hstep hfound
    ended := fun number answer hanswered => htied.ended_step hbound hstep hanswered
    wrote := fun stream bytes hwrote => htied.wrote_step hstep hwrote }

end

theorem run_setup (c : Connection) (actions : List Action) : (c.run actions).1.setup = c.setup :=
  @run_rule (fun c' _ => c'.setup = c.setup) (fun c' _ action hsetup => (step_callStep c' action).setup_eq.trans hsetup)
    c [] actions rfl

/-- Every run from a fresh connection keeps its ledger. -/
theorem ledger (setup : ConnectionSetup) (actions : List Action) :
    Sound (run { setup } actions).1 ∧ ((numbers (history { setup } actions)).length < UInt64.size →
      Tied (run { setup } actions).1 (history { setup } actions)) := by
  have hrun := @run_rule
    (fun c h => Sound c ∧ ((numbers h).length < UInt64.size → Tied c h)) (fun c h action hinv => by
      have hstep := step_callStep c action
      -- The counter had not come round before the step if it has not after it.
      refine ⟨hinv.1.step hstep, fun hbound => (hinv.2 ?_).step hinv.1 hstep hbound⟩
      rw [numbers_append, List.length_append] at hbound
      omega) { setup } [] actions ⟨.fresh setup, fun _ => .start setup⟩
  simpa using hrun

end DebugBridge.Connection
