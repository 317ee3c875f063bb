import DebugBridge.Proofs.Connection.Alongside

/-!
# Steps of calls with too large requests

A call takes its number and its place among the pending calls before its request is put together, and only then is it
seen whether the request is too large. Where the calls are left out whose requests are too large, one step of a
connection keeps it beside the other: a step of such a call ends it at most, and a step of another is the same in both.
-/

namespace DebugBridge.Connection

/-- Whether a call's request is too large. -/
def TooLarge (limit : Nat) (number : UInt64) (payload : Wire.Request.Payload) : Prop :=
  limit < (Wire.Request.encode { number, payload := some payload }).length

instance (limit : Nat) (number : UInt64) (payload : Wire.Request.Payload) : Decidable (TooLarge limit number payload) :=
  inferInstanceAs (Decidable (_ < _))

/-- Left out are the calls whose requests are too large, and none of these was sent. -/
structure Sifted (gone : List UInt64) (c : Connection) : Prop where
  large : ∀ number call, Assoc.find? number c.calls = some call →
    (number ∈ gone ↔ TooLarge c.setup.maxFrameBytes number call.payload)
  unsent : ∀ number ∈ gone, ∀ call, Assoc.find? number c.calls = some call → call.sent = false

section

variable {gone : List UInt64} {count limit : Nat} {c d : Connection} {number : UInt64}

/-! ## Handing a request to the writer -/

theorem frame_of_tooLarge {payload : Wire.Request.Payload} (hlarge : TooLarge limit number payload) :
    Wire.frame limit { number, payload := some payload : Wire.Request }.encode
      = .error (.outgoingTooLarge (Wire.Request.encode { number, payload := some payload }).length limit) :=
  if_pos hlarge

/-- A request that is too large ends its call, and nothing is written. -/
theorem transmit_of_tooLarge {call : Call} {stream : StreamId} (hfound : Assoc.find? number c.calls = some call)
    (hunsent : call.sent = false) (hwriter : c.writer = some stream)
    (hlarge : TooLarge c.setup.maxFrameBytes number call.payload) :
    c.transmit number = (c.forget number).endCall number (.error (.protocol (.outgoingTooLarge
      (Wire.Request.encode { number, payload := some call.payload }).length c.setup.maxFrameBytes))) := by
  simp only [transmit, hfound, hunsent, hwriter, frame_of_tooLarge hlarge, Bool.false_eq_true, if_false]

theorem transmit_of_no_writer {call : Call} (hfound : Assoc.find? number c.calls = some call)
    (hunsent : call.sent = false) (hwriter : c.writer = none) :
    c.transmit number = (c.forget number).endCall number (.error .notConnected) := by
  simp only [transmit, hfound, hunsent, hwriter, Bool.false_eq_true, if_false]

theorem transmit_of_fits {call : Call} {stream : StreamId} (hfound : Assoc.find? number c.calls = some call)
    (hunsent : call.sent = false) (hwriter : c.writer = some stream) {bytes : Bytes}
    (hframed : Wire.frame c.setup.maxFrameBytes { number, payload := some call.payload : Wire.Request }.encode
      = .ok bytes) :
    c.transmit number = ({ c with calls := Assoc.insert number { call with sent := true } c.calls },
      [.wrote stream bytes]) := by
  simp only [transmit, hfound, hunsent, hwriter, hframed, Bool.false_eq_true, if_false]

/-! ## Steps of a call that is left out -/

/-- Ending a call that is left out is nothing to the other connection. -/
theorem Beside.endCall_gone (hbeside : Beside gone count c d) (hgone : number ∈ gone)
    (result : Except CallError Wire.Event.Payload) : Beside gone count ((c.forget number).endCall number result).1 d :=
  (hbeside.forget_gone hgone).dropCall_gone hgone

/-- A step that does nothing, or ends a call for a reason on this side. -/
theorem Sifted.step_gone (hsifted : Sifted gone c) (hgone : number ∈ gone) {action : Action}
    (habout : c.concerned? action = some number) (hnotIssue : ∀ payload, action ≠ .issue payload)
    (hnotDropped : action ≠ .dropCall number) :
    c.step action = (c, []) ∨ ∃ call answer, Assoc.find? number c.calls = some call ∧
      c.step action = (c.forget number).endCall number answer ∧
      (answer = .error (.protocol (.outgoingTooLarge
          (Wire.Request.encode { number, payload := some call.payload }).length c.setup.maxFrameBytes)) ∨
        (c.writer = none ∧ answer = .error .notConnected) ∨
        ∃ cause, action = .transmitFailed number cause ∧ answer = .error (.io cause)) := by
  cases action with
  | issue payload => exact absurd rfl (hnotIssue payload)
  | transmit other =>
    obtain rfl : other = number := Option.some.inj habout
    cases hfound : Assoc.find? other c.calls with
    | none => exact .inl (by simp only [step, transmit, hfound])
    | some call =>
      have hunsent := hsifted.unsent other hgone call hfound
      cases hwriter : c.writer with
      | none => exact .inr ⟨call, _, rfl, transmit_of_no_writer hfound hunsent hwriter, .inr (.inl ⟨rfl, rfl⟩)⟩
      | some stream =>
        have hlarge := (hsifted.large other call hfound).1 hgone
        exact .inr ⟨call, _, rfl, transmit_of_tooLarge hfound hunsent hwriter hlarge, .inl rfl⟩
  | transmitFailed other cause =>
    obtain rfl : other = number := Option.some.inj habout
    simp only [step, transmitFailed]
    split
    · next call hfound =>
      split
      · exact .inl rfl
      · exact .inr ⟨call, _, hfound, rfl, .inr (.inr ⟨cause, rfl, rfl⟩)⟩
    · exact .inl rfl
  | collect other =>
    obtain rfl : other = number := Option.some.inj habout
    simp only [step, collect]
    split
    · next hfound => cases hsifted.unsent other hgone _ hfound
    · exact .inl rfl
  | expire other =>
    obtain rfl : other = number := Option.some.inj habout
    simp only [step, expire]
    split
    · next hfound => cases hsifted.unsent other hgone _ hfound
    · exact .inl rfl
  | dropCall other =>
    obtain rfl : other = number := Option.some.inj habout
    exact absurd rfl hnotDropped
  | _ => cases habout

/-- Only a call that begins takes a number. -/
theorem numbers_moments {action : Action} (hother : ∀ payload, action ≠ .issue payload) :
    numbers (c.moments action) = [] := by
  refine List.filterMap_eq_nil_iff.2 fun m hmem => ?_
  cases m with
  | issued number payload => exact absurd hmem (not_issued hother number payload)
  | _ => rfl

theorem step_issue (hconnected : c.state = .connected) (payload : Wire.Request.Payload) :
    c.step (.issue payload) = ({ c with
      nextNumber := c.nextNumber + 1
      pending := c.pending ++ [c.nextNumber]
      calls := Assoc.insert c.nextNumber { payload } c.calls }, []) ∧
    numbers (c.moments (.issue payload)) = [c.nextNumber] := by
  have hissue : c.issue payload = .ok (c.nextNumber, { c with
      nextNumber := c.nextNumber + 1
      pending := c.pending ++ [c.nextNumber]
      calls := Assoc.insert c.nextNumber { payload } c.calls }) := if_neg (not_not_intro hconnected)
  simp only [step, moments, intake, hissue, numbers, List.map_nil, List.append_nil, List.filterMap_cons,
    List.filterMap_nil, and_self]

theorem step_issue_refused (hnot : c.state ≠ .connected) (payload : Wire.Request.Payload) :
    c.step (.issue payload) = (c, []) ∧ numbers (c.moments (.issue payload)) = [] := by
  have hissue : c.issue payload = .error .notConnected := if_pos hnot
  simp only [step, moments, intake, hissue, numbers, List.map_nil, List.append_nil, List.filterMap_nil, and_self]

/-- A call that is left out uses up a number of the one connection. -/
theorem Beside.issueGone (hbeside : Beside gone count c d) (hgone : c.nextNumber ∈ gone)
    (payload : Wire.Request.Payload) : Beside gone (count + 1) { c with
      nextNumber := c.nextNumber + 1
      pending := c.pending ++ [c.nextNumber]
      calls := Assoc.insert c.nextNumber { payload } c.calls } d where
  rest := hbeside.rest
  counted := by rw [← nth_succ, ← hbeside.counted]
  next := by
    have hnth : nth count ∈ gone := hbeside.counted ▸ hgone
    rw [hbeside.next, keptBelow_succ_of_mem hnth]
  pending := by
    rw [renumbered_append, renumbered_cons_of_mem hgone, hbeside.pending]
    exact (List.append_nil _).symm
  calls := (hbeside.put_gone hgone { payload }).calls
  incoming := hbeside.incoming

/-- What a call that is left out does happens in the one connection alone. -/
theorem Beside.alone (hbeside : Beside gone count c d) (hsifted : Sifted gone c) (hgone : number ∈ gone)
    {action : Action} (habout : c.concerned? action = some number) :
    Beside gone (count + (numbers (c.moments action)).length) (c.step action).1 d ∧
      (c.step action).2.filter (·.spares gone) = [] := by
  have hcall (hnotIssue : ∀ payload, action ≠ .issue payload) (hnotDropped : action ≠ .dropCall number) :
      Beside gone (count + (numbers (c.moments action)).length) (c.step action).1 d ∧
        (c.step action).2.filter (·.spares gone) = [] := by
    rw [numbers_moments hnotIssue]
    rcases hsifted.step_gone hgone habout hnotIssue hnotDropped with hnone | ⟨call, answer, -, hended, -⟩
    · rw [hnone]
      exact ⟨hbeside, rfl⟩
    · rw [hended]
      exact ⟨hbeside.endCall_gone hgone answer, by simp [endCall, Effect.spares, hgone]⟩
  cases action with
  | issue payload =>
    simp only [concerned?, Option.ite_none_right_eq_some, Option.some.injEq] at habout
    obtain ⟨hconnected, rfl⟩ := habout
    obtain ⟨hstep, hnumbers⟩ := step_issue hconnected payload
    rw [hstep, hnumbers]
    exact ⟨hbeside.issueGone hgone payload, rfl⟩
  | dropCall other =>
    obtain rfl : other = number := Option.some.inj habout
    rw [numbers_moments (by simp)]
    exact ⟨hbeside.dropCall_gone hgone, rfl⟩
  | _ => exact hcall (by simp) (by simp)

/-! ## Steps of a call of both -/

/-- A call that begins in both takes the number that it has without those that are left out. -/
theorem Beside.issueKept (hbeside : Beside gone count c d) (hkept : c.nextNumber ∉ gone)
    (hroom : count + 1 < UInt64.size) (payload : Wire.Request.Payload) :
    Beside gone (count + 1)
      { c with
        nextNumber := c.nextNumber + 1
        pending := c.pending ++ [c.nextNumber]
        calls := Assoc.insert c.nextNumber { payload } c.calls }
      { d with
        nextNumber := d.nextNumber + 1
        pending := d.pending ++ [d.nextNumber]
        calls := Assoc.insert d.nextNumber { payload } d.calls } := by
  have hnth : nth count ∉ gone := hbeside.counted ▸ hkept
  have hnext : d.nextNumber = renumber gone c.nextNumber := by
    rw [hbeside.next, renumber, hbeside.counted, nth, UInt64.toNat_ofNat_of_lt' hroom]
  have hcalls := (hbeside.put hkept { payload } { payload } rfl).calls
  refine ⟨?_, ?_, ?_, ?_, ?_, hbeside.incoming⟩
  · rw [hbeside.rest]
    rfl
  · rw [← nth_succ, ← hbeside.counted]
  · rw [keptBelow_succ_of_not_mem hnth, hbeside.next]
    exact (UInt64.ofNat_add _ 1).symm
  · rw [renumbered_append, renumbered_cons hkept, hbeside.pending, hnext]
    rfl
  · rw [hnext]
    exact hcalls

/-- A call that ends in both ends alike. -/
theorem Beside.endCall (hbeside : Beside gone count c d) (hkept : number ∉ gone)
    (result : Except CallError Wire.Event.Payload) :
    Match gone count limit ((c.forget number).endCall number result)
      ((d.forget (renumber gone number)).endCall (renumber gone number) result) :=
  ⟨(hbeside.forget hkept).dropCall hkept, .cons (.answered hkept result) .nil⟩

theorem not_tooLarge_renumber (gone : List UInt64) {payload : Wire.Request.Payload}
    (hfits : ¬ TooLarge limit number payload) : ¬ TooLarge limit (renumber gone number) payload := by
  have hmono := Wire.Request.length_encode_mono (some payload) (renumber_le gone number)
  unfold TooLarge at hfits ⊢
  omega

theorem Beside.transmit (hbeside : Beside gone count c d) (hsifted : Sifted gone c) (hkept : number ∉ gone) :
    Match gone count c.setup.maxFrameBytes (c.transmit number) (d.transmit (renumber gone number)) := by
  cases hfound : Assoc.find? number c.calls with
  | none =>
    simp only [Connection.transmit, hfound, hbeside.missing hkept hfound]
    exact ⟨hbeside, .nil⟩
  | some call =>
    obtain ⟨outcome, hfound', houtcome⟩ := hbeside.found hkept hfound
    cases hsent : call.sent with
    | true =>
      simp only [Connection.transmit, hfound, hfound', hsent, if_true]
      exact ⟨hbeside, .nil⟩
    | false =>
      cases hwriter : c.writer with
      | none =>
        rw [transmit_of_no_writer hfound hsent hwriter,
          transmit_of_no_writer hfound' hsent (hbeside.writer_eq.trans hwriter)]
        exact hbeside.endCall hkept _
      | some stream =>
        -- What is not too large is not too large under a smaller number either.
        have hfits : ¬ TooLarge c.setup.maxFrameBytes number call.payload :=
          fun hlarge => hkept ((hsifted.large number call hfound).2 hlarge)
        have hframed := Wire.frame_of_le (Nat.not_lt.1 hfits)
        have hframed' := Wire.frame_of_le (Nat.not_lt.1 (not_tooLarge_renumber gone hfits))
        rw [transmit_of_fits hfound hsent hwriter hframed, transmit_of_fits hfound' hsent
          (hbeside.writer_eq.trans hwriter) (by rw [hbeside.setup_eq]; exact hframed')]
        exact ⟨hbeside.put hkept _ _ (by simp only [Call.gist, houtcome]),
          .cons (.wrote stream hkept hframed hframed') .nil⟩

theorem Beside.transmitFailed (hbeside : Beside gone count c d) (hkept : number ∉ gone) (cause : String) :
    Match gone count limit (c.transmitFailed number cause) (d.transmitFailed (renumber gone number) cause) := by
  cases hfound : Assoc.find? number c.calls with
  | none =>
    simp only [Connection.transmitFailed, hfound, hbeside.missing hkept hfound]
    exact ⟨hbeside, .nil⟩
  | some call =>
    obtain ⟨outcome, hfound', -⟩ := hbeside.found hkept hfound
    simp only [Connection.transmitFailed, hfound, hfound', hbeside.writer_eq]
    split
    · exact ⟨hbeside, .nil⟩
    · exact hbeside.endCall hkept _

/-- What a message makes of a call does not depend on the number that it carries. -/
theorem result_congr {payload : Wire.Request.Payload} {outcome outcome' : Except CallError Wire.Event}
    (hsame : outcome'.map (·.payload) = outcome.map (·.payload)) :
    result payload outcome' = result payload outcome := by
  cases outcome with
  | error error =>
    cases outcome' with
    | error error' =>
      cases hsame
      rfl
    | ok event' => cases hsame
  | ok event =>
    cases outcome' with
    | error error' => cases hsame
    | ok event' =>
      obtain ⟨number, answer⟩ := event
      obtain ⟨number', answer'⟩ := event'
      cases hsame
      cases answer with
      | none => rfl
      | some answer => cases answer <;> rfl

theorem Beside.collect (hbeside : Beside gone count c d) (hkept : number ∉ gone) :
    Match gone count limit (c.collect number) (d.collect (renumber gone number)) := by
  cases hfound : Assoc.find? number c.calls with
  | none =>
    simp only [Connection.collect, hfound, hbeside.missing hkept hfound]
    exact ⟨hbeside, .nil⟩
  | some call =>
    obtain ⟨outcome', hfound', houtcome⟩ := hbeside.found hkept hfound
    obtain ⟨payload, sent, outcome⟩ := call
    simp only [Connection.collect, hfound, hfound']
    cases sent with
    | false => exact ⟨hbeside, .nil⟩
    | true =>
      cases outcome with
      | none =>
        obtain rfl : outcome' = none := Option.map_eq_none_iff.1 houtcome
        exact ⟨hbeside, .nil⟩
      | some ended =>
        obtain ⟨ended', rfl, hended⟩ := Option.map_eq_some_iff.1 houtcome
        dsimp only
        rw [result_congr hended]
        exact ⟨hbeside.dropCall hkept, .cons (.answered hkept _) .nil⟩

theorem Beside.expire (hbeside : Beside gone count c d) (hkept : number ∉ gone) :
    Match gone count limit (c.expire number) (d.expire (renumber gone number)) := by
  cases hfound : Assoc.find? number c.calls with
  | none =>
    simp only [Connection.expire, hfound, hbeside.missing hkept hfound]
    exact ⟨hbeside, .nil⟩
  | some call =>
    obtain ⟨outcome', hfound', houtcome⟩ := hbeside.found hkept hfound
    obtain ⟨payload, sent, outcome⟩ := call
    simp only [Connection.expire, hfound, hfound']
    cases sent with
    | false => exact ⟨hbeside, .nil⟩
    | true =>
      cases outcome with
      | none =>
        obtain rfl : outcome' = none := Option.map_eq_none_iff.1 houtcome
        exact hbeside.endCall hkept _
      | some ended =>
        obtain ⟨ended', rfl, -⟩ := Option.map_eq_some_iff.1 houtcome
        exact ⟨hbeside, .nil⟩

theorem Beside.issue (hbeside : Beside gone count c d) {payload : Wire.Request.Payload}
    (hkept : Keeps gone c (.issue payload))
    (hroom : count + (numbers (c.moments (.issue payload))).length < UInt64.size) :
    Match gone (count + (numbers (c.moments (.issue payload))).length) limit (c.step (.issue payload))
      (d.step (.issue payload)) := by
  by_cases hconnected : c.state = .connected
  · have hnext : c.nextNumber ∉ gone := hkept _ (if_pos hconnected)
    obtain ⟨hstep, hnumbers⟩ := step_issue hconnected payload
    rw [hnumbers] at hroom ⊢
    rw [hstep, (step_issue (hbeside.state_eq.trans hconnected) payload).1]
    exact ⟨hbeside.issueKept hnext hroom payload, .nil⟩
  · obtain ⟨hstep, hnumbers⟩ := step_issue_refused hconnected payload
    rw [hstep, hnumbers, (step_issue_refused (hbeside.state_eq ▸ hconnected) payload).1]
    exact ⟨hbeside, .nil⟩

/-- A step of both is the same in both. -/
theorem Beside.step (hbeside : Beside gone count c d) (hsifted : Sifted gone c) {action : Action}
    (hkept : Keeps gone c action) (halike : action = .read → ReadsAlike gone c d)
    (hroom : count + (numbers (c.moments action)).length < UInt64.size) :
    Match gone (count + (numbers (c.moments action)).length) c.setup.maxFrameBytes (c.step action)
      (d.step (action.renumbered gone)) := by
  by_cases hissue : ∃ payload, action = .issue payload
  · obtain ⟨payload, rfl⟩ := hissue
    exact hbeside.issue hkept hroom
  rw [numbers_moments fun payload heq => hissue ⟨payload, heq⟩]
  cases action with
  | issue payload => exact absurd ⟨payload, rfl⟩ hissue
  | dial => exact hbeside.quiet (·.dial) dial_carrying (dial_quiet c)
  | opened dial stream =>
    exact hbeside.quiet (·.opened dial stream) (opened_carrying dial stream) (opened_quiet c dial stream)
  | refused dial cause =>
    exact hbeside.quiet (·.refused dial cause) (refused_carrying dial cause) (refused_quiet c dial cause)
  | retry dial => exact hbeside.quiet (·.retry dial) (retry_carrying dial) (retry_quiet c dial)
  | giveUp dial => exact hbeside.quiet (·.giveUp dial) (giveUp_carrying dial) (giveUp_quiet c dial)
  | attach dial => exact hbeside.attach dial
  | discard dial => exact hbeside.quiet (·.discard dial) (discard_carrying dial) (discard_quiet c dial)
  | dropDial dial => exact hbeside.quiet (fun c => (c.dropDial dial, [])) (fun _ _ => rfl) (dropDial_quiet c dial)
  | transmit number => exact hbeside.transmit hsifted (hkept number rfl)
  | transmitFailed number cause => exact hbeside.transmitFailed (hkept number rfl) cause
  | collect number => exact hbeside.collect (hkept number rfl)
  | expire number => exact hbeside.expire (hkept number rfl)
  | dropCall number => exact ⟨hbeside.dropCall (hkept number rfl), .nil⟩
  | arrive bytes =>
    refine ⟨(hbeside.arrive bytes).arriveThere bytes, ?_⟩
    show List.Forall₂ _ (c.arrive bytes).2 (d.arrive bytes).2
    rw [effects_arrive, effects_arrive]
    exact .nil
  | arriveEnd => exact hbeside.arriveEnd
  | read => exact hbeside.read (halike rfl)
  | readFailed cause => exact hbeside.readFailed cause
  | stopReading => exact hbeside.stopReading
  | shutdown => exact hbeside.shutdown
  | leave => exact hbeside.quiet (·.leave) leave_carrying (leave_quiet c)

end

end DebugBridge.Connection
