import Mathlib.Data.List.Forall2
import DebugBridge.Proofs.Debugger.Observer

/-!
# What a debug server has to show, and what an editor sees of it

While the program stands still, the server has frames to show for each thread and children for each value: `ServerData`.
The editor sees them line by line, in the answers to what it asks. A line shows an object, under a reference if there is
more to see, and asking about this reference shows what lies inside. `Renders` says that some lines show some objects,
with nothing left out, and that their references were handed out for just these objects; every listing renders what it
lists.
-/

namespace DebugBridge.Debugger

/-! ## The server's side -/

/-- What there is to show: the frames of each thread and the children of each value, by its number. Nothing is said
against a value that lies inside itself. -/
structure ServerData where
  frames : Int64 → List Wire.Frame
  children : Int64 → List Wire.Value

namespace ServerData

/-- What lies inside an object. -/
def inside (data : ServerData) : Object → List Object
  | .frame frame => frame.scopes.map .scope
  | .scope scope => scope.bindings.map .value
  | .value value => (data.children value.id).map .value

/-- What lies at the end of a path from a thread. The steps say which of the objects to go into, the last one first. -/
def listed (data : ServerData) (thread : Int64) : List Nat → List Object
  | [] => (data.frames thread).map .frame
  | step :: path => ((data.listed thread path)[step]?.map data.inside).getD []

/-- Whether an answer to a request shows what there is to show. An error, or an answer of another kind, shows nothing. -/
def gives (data : ServerData) : Wire.Request.Payload → Option Wire.Event.Payload → Bool
  | .listFrames thread, some (.listFrames frames) => frames = data.frames thread
  | .getChildren _ value, some (.getChildren children) => children = data.children value
  | _, _ => true

end ServerData

/-! ## The editor's side -/

/-- What is shown of an object. -/
inductive Shown where
  | frame (name : String) (line column : Int32)
  | scope (name : String)
  | variable (name value : String) (typeName : Option String)
  deriving DecidableEq, Repr

/-- A line of an answer. -/
structure Line where
  shown : Shown
  reference : Reference
  deriving DecidableEq, Repr

/-- What is asked to see more of a line. -/
def Line.opening (line : Line) : Operation :=
  match line.shown with
  | .frame .. => .scopes line.reference
  | _ => .listVariables line.reference

def StackFrame.toLine (frame : StackFrame) : Line :=
  ⟨.frame frame.name frame.line frame.column, frame.id⟩

def ScopeInfo.toLine (scope : ScopeInfo) : Line :=
  ⟨.scope scope.name, scope.reference⟩

def Variable.toLine (v : Variable) : Line :=
  ⟨.variable v.name v.value v.typeName, v.reference⟩

/-- The lines of an answer to a question of its own kind. -/
def Answer.view? : Operation → Answer → Option (List Line)
  | .stackTrace _, .frames shown => some (shown.map StackFrame.toLine)
  | .scopes _, .scopes shown => some (shown.map ScopeInfo.toLine)
  | .listVariables _, .listing shown => some (shown.map Variable.toLine)
  | _, _ => none

namespace Object

/-- An object as it is to be shown. A frame without a place is at line 0 and column 0, and an empty type is none. -/
def shown : Object → Shown
  | frame content =>
    .frame content.functionName ((content.location.map (·.line)).getD 0) ((content.location.map (·.column)).getD 0)
  | scope content => .scope content.name
  | value content => .variable content.label content.description (nonEmpty content.typeName)

/-- Whether there is more to see of an object. -/
def opens : Object → Bool
  | value content => content.hasChildren && content.id != 0
  | _ => true

end Object

/-! ## Lines that show objects -/

/-- A line shows an object of a thread, and its reference, if it has one, was handed out for that. -/
structure Line.Shows (handouts : List Handout) (thread : Int64) (line : Line) (object : Object) : Prop where
  shown : line.shown = object.shown
  opens : line.reference ≠ 0 ↔ object.opens = true
  handed : line.reference ≠ 0 → ⟨line.reference, thread, object⟩ ∈ handouts

/-- Some lines show some objects of a thread, one by one. -/
def Renders (handouts : List Handout) (thread : Int64) (view : List Line) (objects : List Object) : Prop :=
  List.Forall₂ (Line.Shows handouts thread) view objects

section

variable {handouts more : List Handout} {thread : Int64} {view : List Line} {objects : List Object}

theorem Renders.mono (hrenders : Renders handouts thread view objects) (hsub : handouts ⊆ more) :
    Renders more thread view objects :=
  List.Forall₂.imp (fun _ _ hline => ⟨hline.shown, hline.opens, fun hnonzero => hsub (hline.handed hnonzero)⟩) hrenders

/-- What can be seen of the objects, without the numbers that the references happen to have. -/
theorem Renders.shown_eq (hrenders : Renders handouts thread view objects) :
    view.map (fun line => (line.shown, line.reference != 0)) = objects.map fun object => (object.shown, object.opens) := by
  induction hrenders with
  | nil => rfl
  | @cons line object _ _ hline _ ih =>
    have hopens : (line.reference != 0) = object.opens := by
      rw [Bool.eq_iff_iff, bne_iff_ne]
      exact hline.opens
    rw [List.map_cons, List.map_cons, ih, hline.shown, hopens]

/-- A line shows the object in its place. -/
theorem Renders.shows (hrenders : Renders handouts thread view objects) {i : Nat} {line : Line}
    (hline : view[i]? = some line) : ∃ object, objects[i]? = some object ∧ line.Shows handouts thread object := by
  induction hrenders generalizing i with
  | nil => simp at hline
  | @cons first object _ _ hfirst _ ih =>
    cases i with
    | zero =>
      cases hline
      exact ⟨object, rfl, hfirst⟩
    | succ i => exact ih hline

/-- Each element of a list gets a line that shows it. -/
def Displays (toLine : β → Line) (object : α → Object) (act : State → α → β × State) : Prop :=
  ∀ s a, (toLine (act s a).1).shown = (object a).shown ∧
    ((toLine (act s a).1).reference ≠ 0 ↔ (object a).opens = true)

theorem Displays.renders {α β : Type} {toLine : β → Line} {object : α → Object} {act : State → α → β × State}
    (hdisplays : Displays toLine object act) (s : State) (list : List α) (handouts : List Handout) (thread : Int64) :
    Renders
      (Handout.noteAll handouts (linesOf thread (fun b => (toLine b).reference) object (s.forEach act list).1 list))
      thread ((s.forEach act list).1.map toLine) (list.map object) := by
  induction list generalizing s handouts with
  | nil => exact .nil
  | cons a rest ih =>
    obtain ⟨hshown, hopens⟩ := hdisplays s a
    refine .cons ⟨hshown, hopens, fun hnonzero => ?_⟩ (ih _ _)
    let line : Handout := ⟨(toLine (act s a).1).reference, thread, object a⟩
    have hnoted : line ∈ Handout.note handouts line := Handout.mem_note hnonzero
    exact @Handout.subset_noteAll (Handout.note handouts line) _ _ hnoted

theorem next_ne_zero (last : Nat) : (last : Int) + 1 ≠ 0 := by
  omega

theorem stackFrame_displays (files : FileTree) (root : Option String) :
    Displays StackFrame.toLine .frame (State.stackFrame files root thread) := by
  intro s frame
  exact ⟨rfl, iff_of_true (next_ne_zero _) rfl⟩

theorem addScope_displays : Displays ScopeInfo.toLine .scope (fun s scope =>
    (({ name := scope.name, reference := (s.addScope thread scope).1 } : ScopeInfo), (s.addScope thread scope).2)) := by
  intro s scope
  exact ⟨rfl, iff_of_true (next_ne_zero _) rfl⟩

theorem display_displays : Displays Variable.toLine .value (State.display · thread) := by
  intro s value
  have hopens : (Object.value value).opens = State.expandable value := rfl
  simp only [State.display, hopens]
  cases State.expandable value with
  | true => exact ⟨rfl, iff_of_true (next_ne_zero _) rfl⟩
  | false => exact ⟨rfl, iff_of_false (fun hne => hne rfl) (by simp)⟩

end

end DebugBridge.Debugger
