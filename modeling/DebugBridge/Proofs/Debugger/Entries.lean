import DebugBridge.Proofs.Debugger.Provenance

/-!
# What operations enter

An operation that begins may enter a list of breakpoints, or that a thread runs and that all references are void. Apart
from that both halves of an operation only register objects: `Adds` says that a state goes on from another in this way.
So whatever registering leaves alone is left alone by operations and replies.
-/

namespace DebugBridge.Debugger

namespace State

/-! ## What both halves of an operation enter -/

/-- The state goes on by registering objects. Of the values, only those with more to see are registered. -/
inductive Adds (s : State) : State → Prop
  | refl : Adds s s
  | register {s' : State} {object : Object} (thread : Int64) (adds : Adds s s')
      (opens : ∀ value, object = .value value → expandable value = true) : Adds s (s'.register thread object)

/-- What an operation enters as it begins, before anything is registered. -/
def entered (s : State) : Operation → State
  | .setBreakpoints path breakpoints => { s with breakpoints := s.breakpoints.set path breakpoints }
  | .resume thread _ => { s.clearHandles with pausedThreads := Assoc.erase thread s.pausedThreads }
  | _ => s

section

variable {s s' s'' : State}

theorem Adds.trans (hfirst : Adds s s') (hsecond : Adds s' s'') : Adds s s'' := by
  induction hsecond with
  | refl => exact hfirst
  | register thread _ opens ih => exact .register thread ih opens

theorem forEach_adds {α β : Type} {act : State → α → β × State} (hact : ∀ s a, Adds s (act s a).2) (s : State)
    (list : List α) : Adds s (s.forEach act list).2 := by
  induction list generalizing s with
  | nil => exact .refl
  | cons a rest ih => exact (hact s a).trans (ih _)

theorem addScope_adds (s : State) (thread : Int64) (scope : Wire.Scope) : Adds s (s.addScope thread scope).2 :=
  @Adds.register s s (.scope scope) thread .refl (by simp)

theorem stackFrame_adds (files : FileTree) (root : Option String) (thread : Int64) (s : State) (frame : Wire.Frame) :
    Adds s (stackFrame files root thread s frame).2 :=
  @Adds.register s s (.frame frame) thread .refl (by simp)

theorem display_adds (s : State) (thread : Int64) (value : Wire.Value) : Adds s (s.display thread value).2 := by
  unfold display
  cases hopens : expandable value with
  | true =>
    refine @Adds.register s s (.value value) thread .refl ?_
    intro other heq
    cases heq
    exact hopens
  | false => exact .refl

theorem evaluateKnown_adds (s : State) (thread : Int64) (epoch : Nat) (expression error : String) :
    Adds s (s.evaluateKnown thread epoch expression error).2 := by
  unfold evaluateKnown
  split
  · exact .refl
  · split
    · exact .refl
    · split
      · exact display_adds s thread _
      · exact .refl

theorem scopes_adds (s : State) (frame : Reference) : Adds s (s.scopes frame).2 := by
  unfold scopes
  split
  · split
    · refine forEach_adds (fun s scope => ?_) s _
      exact addScope_adds s _ scope
    · exact .refl
  · exact .refl

theorem startVariables_adds (s : State) (reference : Reference) : Adds s (s.startVariables reference).2 := by
  unfold startVariables
  split
  · split
    · exact forEach_adds (fun s value => display_adds s _ value) s _
    · exact .refl
  · split
    · exact .refl
    · exact .refl
  · exact .refl

theorem start_adds (s : State) (what : Operation) : Adds (s.entered what) (s.start what).2 := by
  cases what with
  | scopes frame => exact scopes_adds s frame
  | listVariables reference => exact startVariables_adds s reference
  | evaluate frame expression =>
    simp only [start]
    split
    · exact .refl
    · exact .refl
  | _ => exact .refl

theorem finish_adds (s : State) (files : FileTree) (root : Option String) (waiting : Waiting)
    (reply : Except CallError Wire.Event.Payload) : Adds s (s.finish files root waiting reply).2 := by
  cases waiting with
  | frames thread epoch =>
    simp only [finish]
    split
    · exact .refl
    · split
      · exact .refl
      · exact forEach_adds (stackFrame_adds files root thread) s _
  | listing thread epoch =>
    simp only [finish]
    split
    · exact .refl
    · split
      · exact .refl
      · exact forEach_adds (fun s value => display_adds s thread value) s _
  | evaluation thread epoch expression =>
    simp only [finish]
    split
    · next value _ =>
      unfold displayIn
      split
      · exact display_adds s thread value
      · exact .refl
    · exact evaluateKnown_adds s thread epoch expression _
    · exact .refl
  | _ => exact .refl

/-! ## What registering leaves alone -/

theorem Adds.breakpoints (hadds : Adds s s') : s'.breakpoints = s.breakpoints := by
  induction hadds with
  | refl => rfl
  | @register _ object _ _ _ ih => cases object <;> exact ih

theorem Adds.epoch (hadds : Adds s s') : s'.epoch = s.epoch := by
  induction hadds with
  | refl => rfl
  | @register _ object thread _ _ ih => exact (register_epoch object).trans ih

theorem Adds.pausedThreads (hadds : Adds s s') : s'.pausedThreads = s.pausedThreads := by
  induction hadds with
  | refl => rfl
  | @register _ object _ _ _ ih => cases object <;> exact ih

/-- What the server tells of its own accord concerns nothing but the threads that stand still. -/
theorem handleEvent_eq (s : State) (payload : Wire.Event.Payload) :
    (s.handleEvent payload).2 = { s with pausedThreads := (s.handleEvent payload).2.pausedThreads } := by
  unfold handleEvent
  split <;> rfl

end

end State

end DebugBridge.Debugger
