import DebugBridge.Proofs.Connection.Streams

/-!
# The states of a connection

A connection begins connecting, may become connected, and ends closed or failed. Three things change where it stands: a
stream is installed, the connection is closed, or a dial runs out of attempts. The first happens only while the
connection waits for a stream, and the second only once. But a dial that runs out of attempts neither looks whether the
connection was closed nor closes it. So final states are left by that, and by closing after it, and by nothing else:
`final_states_are_left_by_running_out`.
-/

namespace DebugBridge

namespace LinkState

/-- Whether the connection is over. -/
def isFinal : LinkState → Bool
  | closed | failed => true
  | connecting | connected => false

/-- The ways forward: a connection that waits becomes connected, and one that is not over ends. -/
inductive Advances : LinkState → LinkState → Prop
  | connects : Advances connecting connected
  | ends {before after : LinkState} (goesOn : before.isFinal = false) (ended : after.isFinal = true) :
      Advances before after

/-- There is no way on from a final state. -/
theorem not_advances_of_isFinal {before after : LinkState} (hfinal : before.isFinal = true) :
    ¬ before.Advances after := by
  intro hadvances
  cases hadvances with
  | connects => cases hfinal
  | ends goesOn ended =>
    rw [goesOn] at hfinal
    cases hfinal

end LinkState

namespace Connection

/-- A step by which a dial runs out: the last of its attempts is refused. -/
def RunsOut (c : Connection) (action : Action) : Prop :=
  ∃ dial cause attempt, action = .refused dial cause ∧ Assoc.find? dial c.dials = some (.opening attempt) ∧
    c.attempts ≤ attempt

/-- Somewhere in a run a dial runs out of attempts. -/
def RanOut (c : Connection) (actions : List Action) : Prop :=
  ∃ before action after, actions = before ++ action :: after ∧ (c.run before).1.RunsOut action

/-! ## One step -/

/-- What a step can do to where a connection stands. -/
inductive StateStep (c : Connection) (action : Action) (c' : Connection) : Prop
  | stays (state : c'.state = c.state) (closed : c'.closed = c.closed)
  /-- A stream is installed. -/
  | connects (waited : c.state = .connecting) (wasOpen : c.closed = false) (state : c'.state = .connected)
      (closed : c'.closed = false)
  /-- The connection is closed. -/
  | closes (wasOpen : c.closed = false) (closed : c'.closed = true) (ended : c'.state.isFinal = true)
  /-- A dial runs out of attempts. -/
  | runsOut (ran : c.RunsOut action) (state : c'.state = .failed) (closed : c'.closed = c.closed)

section

variable {c : Connection}

/-- Closing changes the state of an open connection only, whatever else becomes of it. -/
theorem close_stateStep (c : Connection) (action : Action) (incoming : Option Incoming) (error : Option String)
    (leaving : Nat → Nat) :
    let after := ({ c with incoming }.close error).1
    StateStep c action { after with leaving := leaving after.leaving } := by
  intro after
  by_cases hclosed : c.closed = true
  · have hsame : after = { c with incoming } := by simp [after, close, hclosed]
    rw [hsame]
    exact .stays rfl rfl
  · have hopen : c.closed = false := by simpa using hclosed
    refine .closes hopen ?_ ?_
    · simp [after, close, hopen]
    · cases error <;> simp [after, close, hopen, LinkState.isFinal]

theorem attempt_stateStep (c : Connection) (action : Action) (dial number : Nat) :
    StateStep c action (c.attempt dial number).1 := by
  unfold attempt
  split
  · exact .stays rfl rfl
  · exact .stays rfl rfl

theorem dispatch_stateStep (c : Connection) (action : Action) (incoming : Option Incoming) (event : Wire.Event) :
    StateStep c action ({ c with incoming }.dispatch event).1 := by
  unfold dispatch
  split
  · exact .stays rfl rfl
  · split
    · dsimp only
      split
      · exact .stays rfl rfl
      · exact .stays rfl rfl
    · exact .stays rfl rfl

theorem step_stateStep (c : Connection) (action : Action) : StateStep c action (c.step action).1 := by
  by_cases hcall : action.ofCall = true
  · have hsame := step_ofCalls c hcall
    exact .stays hsame.state hsame.closed
  have hself : StateStep c action c := .stays rfl rfl
  cases action with
  | dial =>
    simp only [Connection.step, dial]
    split
    · exact .stays rfl rfl
    · unfold attempt
      split
      · exact .stays rfl rfl
      · exact .stays rfl rfl
  | opened dial stream =>
    simp only [Connection.step, opened]
    split
    · exact .stays rfl rfl
    · exact hself
  | refused dial cause =>
    simp only [Connection.step, refused]
    split
    · next attempt hopening =>
      split
      · exact .stays rfl rfl
      · next hlast => exact .runsOut ⟨dial, cause, attempt, rfl, hopening, Nat.le_of_not_lt hlast⟩ rfl rfl
    · exact hself
  | retry dial =>
    simp only [Connection.step, retry]
    split
    · exact attempt_stateStep c _ dial _
    · exact hself
  | giveUp dial =>
    simp only [Connection.step, giveUp]
    split
    · split
      · exact .stays rfl rfl
      · exact hself
    · exact hself
  | attach dial =>
    simp only [Connection.step, attach]
    split
    · split
      · exact .stays rfl rfl
      · next hwaits =>
        -- Only here is the state looked at before it is changed.
        simp only [ne_eq, not_or, Bool.not_eq_true, Decidable.not_not] at hwaits
        exact .connects hwaits.2 hwaits.1 rfl hwaits.1
    · exact hself
  | discard dial =>
    simp only [Connection.step, discard]
    split
    · exact .stays rfl rfl
    · exact hself
  | arrive bytes =>
    simp only [Connection.step, arrive]
    split
    · split
      · exact hself
      · exact .stays rfl rfl
    · exact hself
  | arriveEnd =>
    simp only [Connection.step, arriveEnd]
    split
    · exact .stays rfl rfl
    · exact hself
  | read =>
    simp only [Connection.step, read]
    split
    · exact hself
    · split
      · exact dispatch_stateStep c _ _ _
      · exact close_stateStep c _ none _ id
      · split
        · exact hself
        · exact close_stateStep c _ none _ id
  | readFailed cause =>
    simp only [Connection.step, readFailed]
    split
    · exact close_stateStep c _ none _ id
    · exact hself
  | stopReading =>
    simp only [Connection.step, stopReading]
    split
    · exact .stays rfl rfl
    · exact hself
  | shutdown => exact close_stateStep c _ c.incoming none (· + 1)
  | leave =>
    simp only [Connection.step, leave]
    split
    · exact hself
    · exact .stays rfl rfl
  | dropDial dial => exact .stays rfl rfl
  | _ => exact absurd rfl hcall

/-! ## Runs -/

theorem RanOut.head {action : Action} (hruns : c.RunsOut action) (later : List Action) :
    RanOut c (action :: later) :=
  ⟨[], action, later, rfl, hruns⟩

theorem RanOut.cons {action : Action} {actions : List Action} (hran : RanOut (c.step action).1 actions) :
    RanOut c (action :: actions) := by
  obtain ⟨before, last, after, rfl, hruns⟩ := hran
  exact ⟨action :: before, last, after, rfl, hruns⟩

/-- A closed connection is over, and an open one that is over has failed for want of attempts. -/
structure Standing (c : Connection) (ranOut : Prop) : Prop where
  ended : c.closed = true → c.state.isFinal = true
  spent : c.closed = false → c.state.isFinal = true → c.state = .failed ∧ ranOut

theorem Standing.step {ranOut : Prop} (hstanding : Standing c ranOut) (action : Action) :
    Standing (c.step action).1 (ranOut ∨ c.RunsOut action) := by
  constructor
  · intro hclosed
    cases step_stateStep c action with
    | stays state closed =>
      rw [state]
      exact hstanding.ended (closed ▸ hclosed)
    | connects waited wasOpen state closed =>
      rw [closed] at hclosed
      cases hclosed
    | closes wasOpen closed ended => exact ended
    | runsOut ran state closed =>
      rw [state]
      rfl
  · intro hopen hfinal
    cases step_stateStep c action with
    | stays state closed =>
      rw [state] at hfinal ⊢
      have hbefore := hstanding.spent (closed ▸ hopen) hfinal
      exact ⟨hbefore.1, .inl hbefore.2⟩
    | connects waited wasOpen state closed =>
      rw [state] at hfinal
      cases hfinal
    | closes wasOpen closed ended =>
      rw [closed] at hopen
      cases hopen
    | runsOut ran state closed => exact ⟨state, .inr ran⟩

theorem Standing.run {ranOut : Prop} (hstanding : Standing c ranOut) (actions : List Action) :
    Standing (c.run actions).1 (ranOut ∨ RanOut c actions) := by
  -- On the actions: what ran out before the first of them is carried along in `ranOut`.
  induction actions generalizing c ranOut with
  | nil => exact ⟨hstanding.ended, fun hopen hfinal => (hstanding.spent hopen hfinal).imp_right .inl⟩
  | cons action actions ih =>
    have hlater := ih (hstanding.step action)
    refine ⟨hlater.ended, fun hopen hfinal => ?_⟩
    obtain ⟨hfailed, hran⟩ := hlater.spent hopen hfinal
    refine ⟨hfailed, ?_⟩
    rcases hran with (hbefore | hnow) | hafter
    · exact .inl hbefore
    · exact .inr (.head hnow actions)
    · exact .inr hafter.cons

theorem Standing.fresh (setup : ConnectionSetup) : Standing { setup } False := by
  constructor
  · intro hclosed
    cases hclosed
  · intro hopen hfinal
    cases hfinal

/-- What is over stays over. -/
theorem isFinal_run (hfinal : c.state.isFinal = true) (later : List Action) :
    (c.run later).1.state.isFinal = true := by
  induction later generalizing c with
  | nil => exact hfinal
  | cons action later ih =>
    rw [run_cons]
    refine ih ?_
    cases step_stateStep c action with
    | stays state closed =>
      rw [state]
      exact hfinal
    | connects waited wasOpen state closed =>
      rw [waited] at hfinal
      cases hfinal
    | closes wasOpen closed ended => exact ended
    | runsOut ran state closed =>
      rw [state]
      rfl

/-- A closed connection stays as it is until a dial runs out. -/
theorem state_run_of_closed (hclosed : c.closed = true) {later : List Action} (hgoesOn : ¬ RanOut c later) :
    (c.run later).1.state = c.state := by
  induction later generalizing c with
  | nil => rfl
  | cons action later ih =>
    have hrest : ¬ RanOut (c.step action).1 later := fun hran => hgoesOn hran.cons
    have hnot : ¬ c.RunsOut action := fun hruns => hgoesOn (.head hruns later)
    rw [run_cons]
    cases step_stateStep c action with
    | stays state closed =>
      have hkept := ih (closed.trans hclosed) hrest
      rw [hkept, state]
    | connects waited wasOpen state closed =>
      rw [hclosed] at wasOpen
      cases wasOpen
    | closes wasOpen closed ended =>
      rw [hclosed] at wasOpen
      cases wasOpen
    | runsOut ran state closed => exact absurd ran hnot

end

/-- Final states are left by running out of attempts. In whatever order attempts, shutdowns, calls and messages come:

* A step leaves the state as it is or advances it, unless it leaves a final state; and that is because a dial runs out,
  which makes the connection failed, or because it is closed only now, after a dial had run out.
* What is over stays over.
* A shutdown makes an open connection closed, and a closed one then stays as it is, whatever its dials do, until one of
  them runs out. -/
theorem final_states_are_left_by_running_out (setup : ConnectionSetup) (actions : List Action) :
    let c := (run { setup } actions).1
    (∀ action, let c' := (c.step action).1
      c'.state = c.state ∨ c.state.Advances c'.state ∨ c.state.isFinal = true ∧
        (c.RunsOut action ∧ c'.state = .failed ∨
          RanOut { setup } actions ∧ c.state = .failed ∧ c.closed = false ∧ c'.closed = true)) ∧
    (∀ later, c.state.isFinal = true → (c.run later).1.state.isFinal = true) ∧
    (c.closed = false → (c.step .shutdown).1.state = .closed ∧ (c.step .shutdown).1.closed = true) ∧
    (∀ later, c.closed = true → ¬ RanOut c later → (c.run later).1.state = c.state) := by
  intro c
  have hstanding : Standing c (False ∨ RanOut { setup } actions) := (Standing.fresh setup).run actions
  refine ⟨?_, fun later hfinal => isFinal_run hfinal later, ?_, fun later hclosed => state_run_of_closed hclosed⟩
  · intro action c'
    cases step_stateStep c action with
    | stays state closed => exact .inl state
    | connects waited wasOpen state closed =>
      have hadvances : c.state.Advances c'.state := by
        rw [waited, show c'.state = .connected from state]
        exact .connects
      exact .inr (.inl hadvances)
    | closes wasOpen closed ended =>
      -- Where the connection was over before it was closed, a dial had run out.
      cases hover : c.state.isFinal with
      | false => exact .inr (.inl (.ends hover ended))
      | true =>
        obtain ⟨hfailed, hran⟩ := hstanding.spent wasOpen hover
        exact .inr (.inr ⟨rfl, .inr ⟨hran.resolve_left id, hfailed, wasOpen, closed⟩⟩)
    | runsOut ran state closed =>
      cases hover : c.state.isFinal with
      | false =>
        have hadvances : c.state.Advances c'.state := by
          refine .ends hover ?_
          rw [show c'.state = .failed from state]
          rfl
        exact .inr (.inl hadvances)
      | true => exact .inr (.inr ⟨rfl, .inl ⟨ran, state⟩⟩)
  · intro hopen
    simp [Connection.step, shutdown, close, hopen]

/-- States do not always advance: a connection that has failed is closed by a shutdown, and one that was shut down
fails when the last attempt of its dial is refused. -/
theorem states_do_not_always_advance :
    let once : ConnectionSetup := { connectAttempts := 1 }
    ((run { setup := once } [.dial, .refused 0 "refused"]).1.state = .failed ∧
      (run { setup := once } [.dial, .refused 0 "refused", .shutdown]).1.state = .closed) ∧
    ((run { setup := once } [.dial, .shutdown]).1.state = .closed ∧
      (run { setup := once } [.dial, .shutdown, .refused 0 "refused"]).1.state = .failed) ∧
    ¬ ∀ (setup : ConnectionSetup) (actions : List Action) (action : Action),
      let c := (run { setup } actions).1
      (c.step action).1.state = c.state ∨ c.state.Advances (c.step action).1.state := by
  intro once
  have hfailed : (run { setup := once } [.dial, .refused 0 "refused"]).1.state = .failed := by decide
  have hclosed : ((run { setup := once } [.dial, .refused 0 "refused"]).1.step .shutdown).1.state = .closed := by
    decide
  refine ⟨⟨hfailed, hclosed⟩, ⟨by decide, by decide⟩, fun hall => ?_⟩
  rcases hall once [.dial, .refused 0 "refused"] .shutdown with hsame | hadvances
  · rw [hfailed, hclosed] at hsame
    cases hsame
  · refine LinkState.not_advances_of_isFinal ?_ hadvances
    rw [hfailed]
    rfl

end Connection

end DebugBridge
