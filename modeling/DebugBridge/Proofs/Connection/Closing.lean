import DebugBridge.Proofs.Connection.Ledger

/-!
# Closing

While a connection is open, its table holds the numbers of the calls that have no result yet. Closing empties it for
good: what is still under way then ends with one error, and nothing begins any more.
-/

namespace DebugBridge.Connection

/-! ## What callers are told -/

@[simp] theorem answersTo_append (number : UInt64) (effects more : List Effect) :
    answersTo number (effects ++ more) = answersTo number effects ++ answersTo number more :=
  List.filterMap_append

theorem answersTo_eq_nil {number : UInt64} {effects : List Effect}
    (hnone : ∀ answer, .answered number answer ∉ effects) : answersTo number effects = [] := by
  rw [List.eq_nil_iff_forall_not_mem]
  intro answer hmem
  exact hnone answer (mem_answersTo.1 hmem)

theorem answersTo_singleton (number : UInt64) (answer : Except CallError Wire.Event.Payload) :
    answersTo number [.answered number answer] = [answer] := by
  simp [answersTo]

section

variable {c : Connection} {number : UInt64} {action : Action}

/-- As long as a call is under way, its caller is told nothing. -/
theorem answersTo_of_kept {after : Call} (hafter : Assoc.find? number (c.step action).1.calls = some after) :
    answersTo number (c.step action).2 = [] := by
  refine answersTo_eq_nil fun answer hanswered => ?_
  obtain ⟨-, -, -, hgone, -⟩ := (step_callStep c action).answered (did_mem_moments.2 hanswered)
  rw [hafter] at hgone
  cases hgone

/-- Where there is no call, nobody is told anything. -/
theorem answersTo_of_gone (hgone : Assoc.find? number c.calls = none) : answersTo number (c.step action).2 = [] := by
  refine answersTo_eq_nil fun answer hanswered => ?_
  obtain ⟨call, -, hfound, -⟩ := (step_callStep c action).answered (did_mem_moments.2 hanswered)
  rw [hgone] at hfound
  cases hfound

/-- A call is given two turns, one to send its request and one to notice its outcome. -/
theorem answersTo_turns (c : Connection) (number : UInt64) :
    answersTo number (c.run [.transmit number, .collect number]).2
      = answersTo number (c.step (.transmit number)).2
          ++ answersTo number ((c.step (.transmit number)).1.step (.collect number)).2 := by
  rw [run_cons, run_cons, answersTo_append, answersTo_append, Connection.run, show answersTo number [] = [] from rfl,
    List.append_nil]

end

/-! ## The call that outlives its connection -/

/-- What becomes of a call that was under way when its connection was closed, and what its caller has been told: it
still has to notice, or it has ended with one error. A call that was awaiting its reply notices just that. -/
inductive Fate (number : UInt64) (awaiting : Prop) (c : Connection) : List (Except CallError Wire.Event.Payload) → Prop
  | waits (call : Call) (closed : c.closed = true) (found : Assoc.find? number c.calls = some call)
      (outcome : call.outcome = some (.error .connectionClosed)) (sent : awaiting → call.sent = true) :
      Fate number awaiting c []
  | ended (error : CallError) (closed : c.closed = true) (gone : Assoc.find? number c.calls = none)
      (reason : awaiting → error = .connectionClosed) : Fate number awaiting c [.error error]

section

variable {c : Connection} {number : UInt64} {awaiting : Prop} {answers : List (Except CallError Wire.Event.Payload)}

/-- No call begins on a closed connection. -/
theorem Sound.numbers_eq_nil (hsound : Sound c) (hclosed : c.closed = true) (action : Action) :
    numbers (c.moments action) = [] := by
  rcases (step_callStep c action).counter with ⟨hnone, -⟩ | ⟨-, -, hconnected⟩
  · exact hnone
  · rw [hsound.isOpen hconnected] at hclosed
    cases hclosed

/-- A step of a closed connection leaves a call under way as it was, and its caller is told nothing. -/
theorem step_of_kept (hsound : Sound c) (hclosed : c.closed = true) {action : Action} {after : Call}
    (hafter : Assoc.find? number (c.step action).1.calls = some after) :
    answersTo number (c.step action).2 = [] ∧ ∃ call, Assoc.find? number c.calls = some call ∧
      after.outcome = call.outcome ∧ (call.sent = true → after.sent = true) := by
  refine ⟨answersTo_of_kept hafter, ?_⟩
  cases (step_callStep c action).change hafter with
  | begun payload isNext moments eq =>
    have hnone := hsound.numbers_eq_nil hclosed action
    rw [moments] at hnone
    cases hnone
  | kept before found payload outcome sent strange => exact ⟨before, found, outcome, sent⟩
  | replied before event found payload own awaited =>
    rw [hsound.open_of_mem awaited] at hclosed
    cases hclosed
  | broken before found payload wasOpen =>
    rw [wasOpen] at hclosed
    cases hclosed

theorem Fate.step (hsound : Sound c) (hfate : Fate number awaiting c answers) {action : Action}
    (hkept : action ≠ .dropCall number) :
    Fate number awaiting (c.step action).1 (answers ++ answersTo number (c.step action).2) := by
  have hstep := step_callStep c action
  cases hfate with
  | waits call closed found outcome sent =>
    have hclosed := hstep.closed_of_closed closed
    cases hafter : Assoc.find? number (c.step action).1.calls with
    | some after =>
      obtain ⟨hnone, call', hfound', houtcome, hsent⟩ := step_of_kept hsound closed hafter
      rw [found] at hfound'
      cases hfound'
      rw [hnone]
      exact .waits after hclosed hafter (houtcome.trans outcome) fun hawaiting => hsent (sent hawaiting)
    | none =>
      rcases hstep.lost found hafter with ⟨answer, hanswered⟩ | hdropped
      · obtain ⟨call', hmoments, hfound', -, hend⟩ := hstep.answered hanswered
        rw [found] at hfound'
        cases hfound'
        rw [effects_eq_of_moments hmoments (did_mem_moments.1 hanswered), answersTo_singleton]
        -- It ends with its outcome, or because it cannot be sent; it is too late to time out.
        rcases hend with ⟨ended, hended, rfl⟩ | ⟨error, rfl, -, hunanswered⟩
        · rw [outcome] at hended
          cases hended
          exact .ended .connectionClosed hclosed hafter fun _ => rfl
        · refine .ended error hclosed hafter fun hawaiting => ?_
          have hnone := hunanswered (sent hawaiting)
          rw [outcome] at hnone
          cases hnone
      · exact absurd (dropped_mem_moments hdropped) hkept
  | ended error closed gone reason =>
    have hafter : Assoc.find? number (c.step action).1.calls = none := by
      cases hafter : Assoc.find? number (c.step action).1.calls with
      | none => rfl
      | some after =>
        obtain ⟨-, call, hfound, -⟩ := step_of_kept hsound closed hafter
        rw [gone] at hfound
        cases hfound
    rw [answersTo_of_gone gone]
    exact .ended error (hstep.closed_of_closed closed) hafter reason

theorem Fate.run (hsound : Sound c) (hfate : Fate number awaiting c answers) {actions : List Action}
    (hkept : .dropCall number ∉ actions) :
    Fate number awaiting (c.run actions).1 (answers ++ answersTo number (c.run actions).2) := by
  induction actions generalizing c answers with
  | nil =>
    rw [Connection.run, show answersTo number [] = [] from rfl, List.append_nil]
    exact hfate
  | cons action actions ih =>
    simp only [List.mem_cons, not_or] at hkept
    have hone := hfate.step hsound (Ne.symm hkept.1)
    rw [run_cons, answersTo_append, ← List.append_assoc]
    exact ih (hsound.step (step_callStep c action)) hone hkept.2

/-- Closing seals the fate of the calls whose numbers are pending. -/
theorem Fate.of_closing (hopen : c.closed = false) {action : Action} (hclosed : (c.step action).1.closed = true)
    {call : Call} (hfound : Assoc.find? number c.calls = some call) (hmem : number ∈ c.pending) :
    Fate number (call.sent = true) (c.step action).1 (answersTo number (c.step action).2) := by
  obtain ⟨hcalls, hsilent⟩ := (step_callStep c action).closing hopen hclosed
  have hnone : answersTo number (c.step action).2 = [] :=
    answersTo_eq_nil fun answer hanswered => hsilent _ (did_mem_moments.2 hanswered)
  have hafter : Assoc.find? number (c.step action).1.calls
      = some { call with outcome := some (.error .connectionClosed) } := by
    rw [hcalls, find?_failPending, hfound, Option.map_some, failCall, if_pos hmem]
  rw [hnone]
  exact .waits _ hclosed hafter rfl id

/-- A call whose request may be sent has sent it afterwards, or is over. -/
theorem sent_of_transmit {call : Call} (hafter : Assoc.find? number (c.transmit number).1.calls = some call) :
    call.sent = true := by
  unfold transmit at hafter
  split at hafter
  · next before hfound =>
    split at hafter
    · next hsent =>
      rw [hfound] at hafter
      cases hafter
      exact hsent
    · split at hafter
      · simp [endCall, Assoc.find?_erase] at hafter
      · split at hafter
        · simp [endCall, Assoc.find?_erase] at hafter
        · rw [Assoc.find?_insert_self] at hafter
          cases hafter
          rfl
  · next hgone =>
    rw [hgone] at hafter
    cases hafter

theorem collect_of_found {call : Call} {outcome : Except CallError Wire.Event}
    (hfound : Assoc.find? number c.calls = some call) (hsent : call.sent = true)
    (houtcome : call.outcome = some outcome) :
    (c.collect number).2 = [.answered number (result call.payload outcome)] := by
  obtain ⟨payload, sent, _⟩ := call
  cases hsent
  cases houtcome
  simp only [collect, hfound, endCall]

/-- A call that is given its turns, one to send its request and one to notice its outcome, is over. -/
theorem Fate.ended_of_turns (hsound : Sound c) (hfate : Fate number awaiting c answers) :
    ∃ error, answers ++ answersTo number (c.run [.transmit number, .collect number]).2 = [.error error] ∧
      (awaiting → error = .connectionClosed) := by
  have hfirst := hfate.step hsound (show Action.transmit number ≠ .dropCall number by simp)
  rw [answersTo_turns, ← List.append_assoc]
  generalize answers ++ answersTo number (c.step (.transmit number)).2 = told at hfirst ⊢
  cases hfirst with
  | waits call closed found outcome sent =>
    refine ⟨.connectionClosed, ?_, fun _ => rfl⟩
    rw [show ∀ c : Connection, c.step (.collect number) = c.collect number from fun _ => rfl,
      collect_of_found found (sent_of_transmit found) outcome, answersTo_singleton]
    rfl
  | ended error closed gone reason =>
    refine ⟨error, ?_, reason⟩
    rw [answersTo_of_gone gone]
    rfl

/-! ## A closed connection -/

theorem closed_of_run (hclosed : c.closed = true) (actions : List Action) : (c.run actions).1.closed = true :=
  @run_rule (fun c _ => c.closed = true) (fun c _ action hclosed => (step_callStep c action).closed_of_closed hclosed)
    c [] actions hclosed

theorem numbers_history_of_closed (hsound : Sound c) (hclosed : c.closed = true) (actions : List Action) :
    numbers (c.history actions) = [] := by
  induction actions generalizing c with
  | nil => rfl
  | cons action actions ih =>
    have hstep := step_callStep c action
    rw [history, numbers_append, hsound.numbers_eq_nil hclosed, ih (hsound.step hstep) (hstep.closed_of_closed hclosed)]
    rfl

theorem issue_of_closed (hsound : Sound c) (hclosed : c.closed = true) (payload : Wire.Request.Payload) :
    c.issue payload = .error .notConnected ∧ c.step (.issue payload) = (c, []) := by
  have hnot : c.state ≠ .connected := by
    intro hconnected
    rw [hsound.isOpen hconnected] at hclosed
    cases hclosed
  have hissue : c.issue payload = .error .notConnected := by rw [issue, if_pos hnot]
  exact ⟨hissue, by simp only [step, hissue]⟩

end

/-- While a connection is open and its counter has not come round, the pending numbers are those of the calls that
have no result yet. They are below the next number, unless all have been given out and that is 0, and their calls wait
unless they were dropped. The step that closes the connection leaves none of these calls waiting: whatever happens
after it, a call that is not dropped and gets its turns has ended with one error. From then on nothing is pending, no
call waits, and none begins. -/
theorem closing_settles_every_call (setup : ConnectionSetup) (actions : List Action) :
    let c := (run { setup } actions).1
    let h := history { setup } actions
    ((numbers h).length < UInt64.size → c.closed = false → c.pending.Nodup ∧ ∀ number,
      (number ∈ c.pending ↔ Outstanding h number) ∧
        (number ∈ c.pending → 1 ≤ number ∧ (c.nextNumber ≠ 0 → number < c.nextNumber)) ∧
        (number ∈ c.pending → .dropCall number ∉ actions →
          ∃ call, Assoc.find? number c.calls = some call ∧ call.outcome = none)) ∧
    (∀ action, c.closed = false → (c.step action).1.closed = true → ∀ number ∈ c.pending, ∀ call,
      Assoc.find? number c.calls = some call → ∀ later, .dropCall number ∉ later →
        ∃ error,
          answersTo number (c.run (action :: (later ++ [.transmit number, .collect number]))).2 = [.error error] ∧
          (call.sent = true → error = .connectionClosed)) ∧
    (c.closed = true → ∀ later,
      let c' := (c.run later).1
      c'.closed = true ∧ c'.pending = [] ∧
        (∀ number call, Assoc.find? number c'.calls = some call → call.outcome ≠ none) ∧
        numbers (c.history later) = [] ∧
        ∀ payload, c'.issue payload = .error .notConnected ∧ c'.step (.issue payload) = (c', [])) := by
  intro c h
  obtain ⟨hsound, htied⟩ := ledger setup actions
  have hsound : Sound c := hsound
  refine ⟨fun hbound hopen => ?_, fun action hopen hclosed number hmem call hfound later hkept => ?_,
    fun hclosed later => ?_⟩
  · have htied : Tied c h := htied hbound
    refine ⟨htied.nodup, fun number => ⟨htied.outstanding hopen number, fun hmem => ?_, fun hmem hkept => ?_⟩⟩
    · exact htied.one_le hbound (Tied.mem_of_outstanding ((htied.outstanding hopen number).1 hmem))
    · exact htied.present number hmem fun hdropped => hkept (dropped_mem_history hdropped)
  · have hfate := (Fate.of_closing hopen hclosed hfound hmem).run (hsound.step (step_callStep c action)) hkept
    have hlater := (hsound.step (step_callStep c action)).run later
    obtain ⟨error, htold, hreason⟩ := hfate.ended_of_turns hlater
    refine ⟨error, ?_, hreason⟩
    rw [run_cons, run_append]
    simpa only [answersTo_append, List.append_assoc] using htold
  · have hlater := hsound.run later
    have hclosed' := closed_of_run hclosed later
    refine ⟨hclosed', hlater.emptied hclosed', fun number call hfound hnone => ?_,
      numbers_history_of_closed hsound hclosed later, issue_of_closed hlater hclosed'⟩
    have hmem := hlater.awaited number call hfound hnone
    rw [hlater.emptied hclosed'] at hmem
    cases hmem

end DebugBridge.Connection
