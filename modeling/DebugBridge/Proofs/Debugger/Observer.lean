import DebugBridge.Debugger.Move
import DebugBridge.Proofs.Debugger.Handouts

/-!
# Sessions seen from outside

`Observer` looks at what a session is asked to do, at the replies that its operations get, and at their answers. From
these alone it notes every reference that is handed out, with its object and its thread, and forgets all at a resume.
What it notes grows between resumes. A value that the session finds under a name, among those registered, is one that
can be found among the observer's notes.
-/

namespace DebugBridge.Debugger

/-- The references in an answer. -/
def Answer.references : Answer → List Reference
  | .frames shown => shown.map (·.id)
  | .scopes shown => shown.map (·.reference)
  | .listing shown => shown.map (·.reference)
  | .evaluation shown => [shown.reference]
  | _ => []

/-- What can be told of a session from outside since the last resume. -/
structure Observer where
  /-- What the operations are to do. -/
  asked : List (Nat × Operation) := []
  /-- The reply that came last. -/
  reply : Option (Except CallError Wire.Event.Payload) := none
  handouts : List Handout := []

namespace Observer

/-- Takes notice of a move. A resume ends all that was asked and handed out before. -/
def begin (o : Observer) (operation : Nat) : Operation → Observer
  | .setBreakpoints .. => o
  | .resume .. => {}
  | what => { o with asked := Assoc.insert operation what o.asked }

def beginMove (o : Observer) : Session.Move → Observer
  | .step (.start operation what) | .prepare operation what => o.begin operation what
  | _ => o

/-- The value that is known under a name: the first one of the thread that was handed out and has this label, or else
the first binding with this label in a scope of the thread that was handed out. -/
def known? (handouts : List Handout) (thread : Int64) (label : String) : Option Wire.Value :=
  let values := handouts.findSome? fun h =>
    match h.object with
    | .value value => if h.thread = thread ∧ value.label = label then some value else none
    | _ => none
  let bindings := handouts.findSome? fun h =>
    match h.object with
    | .scope scope => if h.thread = thread then scope.bindings.find? (·.label = label) else none
    | _ => none
  values.or bindings

/-- The value that an evaluation shows: the server's, or after an error of the server's one that is known. -/
def evaluated? (o : Observer) (thread : Int64) (expression : String) : Option Wire.Value :=
  match o.reply with
  | some (.ok (.evaluate result)) => result
  | some (.error (.remote _)) => known? o.handouts thread expression
  | _ => none

/-- The lines of an answer. A frame belongs to the thread whose frames were asked for, and all else to the thread of
what it was found in. -/
def lines (o : Observer) : Operation → Answer → List Handout
  | .stackTrace thread, .frames shown =>
    match o.reply with
    | some (.ok (.listFrames frames)) => linesOf thread StackFrame.id .frame shown frames
    | _ => []
  | .scopes frame, .scopes shown =>
    match Handout.find? o.handouts frame with
    | some ⟨_, thread, .frame content⟩ => linesOf thread ScopeInfo.reference .scope shown content.scopes
    | _ => []
  | .listVariables reference, .listing shown =>
    match Handout.find? o.handouts reference with
    | some ⟨_, thread, .scope scope⟩ => linesOf thread Variable.reference .value shown scope.bindings
    | some ⟨_, thread, .value _⟩ =>
      match o.reply with
      | some (.ok (.getChildren children)) => linesOf thread Variable.reference .value shown children
      | _ => []
    | _ => []
  | .evaluate frame expression, .evaluation shown =>
    match Handout.find? o.handouts frame with
    | some ⟨_, thread, .frame _⟩ =>
      linesOf thread Evaluation.reference .value [shown] (o.evaluated? thread (trimQuotes expression)).toList
    | _ => []
  | _, _ => []

/-- Notes what an answer hands out. -/
def hear (o : Observer) (operation : Nat) (answer : Answer) : Observer :=
  match Assoc.find? operation o.asked with
  | some what => { o with handouts := Handout.noteAll o.handouts (o.lines what answer) }
  | none => o

/-- Takes notice of an effect. -/
def note (o : Observer) : SessionEffect → Observer
  | .replied _ reply => { o with reply := some reply }
  | .ended operation (.ok answer) => o.hear operation answer
  | _ => o

/-- What is told after some moves. -/
def after (o : Observer) (s : Session) : List Session.Move → Observer
  | [] => o
  | m :: rest => ((s.move m).2.foldl note (o.beginMove m)).after (s.move m).1 rest

end Observer

/-! ## What an answer hands out -/

/-- A reference that stands in a line was shown. -/
theorem reference_of_mem_linesOf {α β : Type} {thread : Int64} {reference : β → Reference} {object : α → Object}
    {shown : List β} {listed : List α} {h : Handout} (hmem : h ∈ linesOf thread reference object shown listed) :
    h.reference ∈ shown.map reference := by
  induction shown generalizing listed with
  | nil => cases hmem
  | cons b shown ih =>
    cases listed with
    | nil => cases hmem
    | cons a listed =>
      rcases List.mem_cons.1 hmem with rfl | hrest
      · exact List.mem_cons_self
      · exact List.mem_cons_of_mem _ (ih hrest)

namespace Observer

variable {o : Observer}

/-- The references in the lines of an answer are those of the answer. -/
theorem reference_of_mem_lines {what : Operation} {answer : Answer} {h : Handout} (hmem : h ∈ o.lines what answer) :
    h.reference ∈ answer.references := by
  unfold lines at hmem
  split at hmem
  · split at hmem
    · exact reference_of_mem_linesOf hmem
    · cases hmem
  · split at hmem
    · exact reference_of_mem_linesOf hmem
    · cases hmem
  · split at hmem
    · exact reference_of_mem_linesOf hmem
    · split at hmem
      · exact reference_of_mem_linesOf hmem
      · cases hmem
    · cases hmem
  · split at hmem
    · exact reference_of_mem_linesOf hmem
    · cases hmem
  · cases hmem

theorem hear_of_asked {operation : Nat} {what : Operation} (hasked : Assoc.find? operation o.asked = some what)
    (answer : Answer) :
    o.hear operation answer = { o with handouts := Handout.noteAll o.handouts (o.lines what answer) } := by
  rw [hear, hasked]

/-- An answer without references leaves the notes as they are. -/
theorem hear_of_zero {answer : Answer} (hzero : ∀ reference ∈ answer.references, reference = 0) (operation : Nat) :
    o.hear operation answer = o := by
  unfold hear
  split
  · rw [Handout.noteAll_of_zero fun h hmem => hzero _ (reference_of_mem_lines hmem)]
  · rfl

theorem hear_asked (operation : Nat) (answer : Answer) : (o.hear operation answer).asked = o.asked := by
  unfold hear
  split <;> rfl

theorem subset_hear (operation : Nat) (answer : Answer) : o.handouts ⊆ (o.hear operation answer).handouts := by
  unfold hear
  split
  · exact Handout.subset_noteAll
  · exact List.Subset.refl _

/-- An effect changes nothing about what is asked, and nothing that was handed out is forgotten. -/
theorem note_grows (effect : SessionEffect) :
    (o.note effect).asked = o.asked ∧ o.handouts ⊆ (o.note effect).handouts := by
  unfold note
  split
  · exact ⟨rfl, List.Subset.refl _⟩
  · exact ⟨hear_asked _ _, subset_hear _ _⟩
  · exact ⟨rfl, List.Subset.refl _⟩

theorem notes_grow (effects : List SessionEffect) :
    (effects.foldl note o).asked = o.asked ∧ o.handouts ⊆ (effects.foldl note o).handouts := by
  induction effects generalizing o with
  | nil => exact ⟨rfl, List.Subset.refl _⟩
  | cons effect effects ih =>
    obtain ⟨hasked, hsub⟩ := note_grows (o := o) effect
    obtain ⟨hasked', hsub'⟩ := ih (o := o.note effect)
    exact ⟨hasked'.trans hasked, List.Subset.trans hsub hsub'⟩

end Observer

/-! ## What is found under a name -/

section

variable {handouts : List Handout} {s : State} {thread : Int64}

/-- A search of the table is a search of what was handed out. -/
theorem Mirrors.findSome?_entries {β : Type} (hmirrors : Mirrors handouts s) {f : Reference × Object → Option β}
    {g : Handout → Option β} (hsame : ∀ h ∈ handouts, f (h.reference, h.object) = g h) :
    s.handles.entries.findSome? f = handouts.findSome? g := by
  rw [hmirrors.entries, List.findSome?_map]
  have hall : ∀ list : List Handout, (∀ h ∈ list, f (h.reference, h.object) = g h) →
      list.findSome? (f ∘ fun h => (h.reference, h.object)) = list.findSome? g := by
    intro list hlist
    induction list with
    | nil => rfl
    | cons h list ih =>
      rw [List.findSome?_cons, List.findSome?_cons, Function.comp_apply, hlist h List.mem_cons_self,
        ih fun other hother => hlist other (List.mem_cons_of_mem _ hother)]
  exact hall handouts hsame

theorem Mirrors.owner_iff (hmirrors : Mirrors handouts s) {h : Handout} (hmem : h ∈ handouts) :
    Assoc.find? h.reference (s.threadsOf h.object.kind) = some thread ↔ h.thread = thread := by
  rw [hmirrors.threads h hmem, Option.some.injEq]

/-- The value that is registered under a name was handed out, and it is the first that is known under it. -/
theorem Mirrors.registeredValue? (hmirrors : Mirrors handouts s) (label : String) :
    match s.registeredValue? thread label with
    | some (reference, value) =>
      ⟨reference, thread, .value value⟩ ∈ handouts ∧ Observer.known? handouts thread label = some value
    | none => Observer.known? handouts thread label = s.boundValue? thread label := by
  have hregistered : s.registeredValue? thread label = handouts.findSome? fun h =>
      match h.object with
      | .value value => if h.thread = thread ∧ value.label = label then some (h.reference, value) else none
      | _ => none := by
    refine hmirrors.findSome?_entries fun h hmem => ?_
    have howner := @Mirrors.owner_iff handouts s thread hmirrors h hmem
    obtain ⟨reference, owner, object⟩ := h
    cases object with
    | value value => simp only [Object.kind, State.threadsOf] at howner ⊢; simp only [howner]
    | _ => rfl
  have hbound : s.boundValue? thread label = handouts.findSome? fun h =>
      match h.object with
      | .scope scope => if h.thread = thread then scope.bindings.find? (·.label = label) else none
      | _ => none := by
    refine hmirrors.findSome?_entries fun h hmem => ?_
    have howner := @Mirrors.owner_iff handouts s thread hmirrors h hmem
    obtain ⟨reference, owner, object⟩ := h
    cases object with
    | scope scope => simp only [Object.kind, State.threadsOf] at howner ⊢; simp only [howner]
    | _ => rfl
  have hknown : Observer.known? handouts thread label
      = ((s.registeredValue? thread label).map (·.2)).or (s.boundValue? thread label) := by
    rw [hregistered, hbound, List.map_findSome?]
    refine congrArg (Option.or · _) (congrArg (handouts.findSome? ·) (funext fun h => ?_))
    obtain ⟨reference, owner, object⟩ := h
    cases object with
    | value value =>
      simp only [Function.comp_apply]
      split <;> rfl
    | _ => rfl
  cases hfound : s.registeredValue? thread label with
  | none =>
    rw [hfound] at hknown
    exact hknown
  | some found =>
    obtain ⟨reference, value⟩ := found
    rw [hfound] at hknown
    refine ⟨?_, hknown⟩
    rw [hregistered] at hfound
    obtain ⟨⟨reference', owner, object⟩, hmem, hentry⟩ := List.exists_of_findSome?_eq_some hfound
    cases object with
    | value value' =>
      simp only [Option.ite_none_right_eq_some, Option.some.injEq, Prod.mk.injEq] at hentry
      obtain ⟨⟨rfl, -⟩, rfl, rfl⟩ := hentry
      exact hmem
    | frame frame => cases hentry
    | scope scope => cases hentry

end

end DebugBridge.Debugger
