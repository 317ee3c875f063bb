import Mathlib.Data.List.Nodup
import DebugBridge.Proofs.Debugger.Registering

/-!
# References as they are handed out

What a reference stands for can be told from outside a session. An answer lists, one by one, what a reply lists or what
lies inside something listed before, and each line with more to see carries a reference: `Handout` joins that
reference with the object of its line and with the thread that was asked about. `Mirrors` says that the tables hold
just what was handed out. It is kept when an object is registered and its reference is noted, so it is kept by
everything that lists.
-/

namespace DebugBridge.Debugger

/-- A reference that was handed out, with the object that it stands for and the thread that this belongs to. -/
structure Handout where
  reference : Reference
  thread : Int64
  object : Object
  deriving DecidableEq, Repr

namespace Handout

/-- What a reference was first handed out for. -/
def find? (handouts : List Handout) (reference : Reference) : Option Handout :=
  List.find? (·.reference = reference) handouts

/-- Notes a reference. The reference 0 stands for nothing, and what was noted already is not noted again. -/
def note (handouts : List Handout) (handout : Handout) : List Handout :=
  if handout.reference = 0 ∨ handout ∈ handouts then handouts else handouts ++ [handout]

/-- Notes what a list of lines hands out, each line for one of the objects listed. -/
def noteAll (handouts lines : List Handout) : List Handout :=
  lines.foldl note handouts

section

variable {handouts lines : List Handout} {handout : Handout}

theorem subset_note : handouts ⊆ note handouts handout := by
  unfold note
  split
  · exact List.Subset.refl _
  · exact List.subset_append_left _ _

theorem mem_note (hnonzero : handout.reference ≠ 0) : handout ∈ note handouts handout := by
  unfold note
  split
  · next hnot =>
    rcases hnot with hzero | hmem
    · exact absurd hzero hnonzero
    · exact hmem
  · exact List.mem_append_right _ (List.mem_singleton_self _)

theorem subset_noteAll : handouts ⊆ noteAll handouts lines := by
  induction lines generalizing handouts with
  | nil => exact List.Subset.refl _
  | cons line lines ih => exact List.Subset.trans subset_note ih

theorem mem_noteAll (hmem : handout ∈ lines) (hnonzero : handout.reference ≠ 0) :
    handout ∈ noteAll handouts lines := by
  induction lines generalizing handouts with
  | nil => cases hmem
  | cons line lines ih =>
    rcases List.mem_cons.1 hmem with rfl | hrest
    · have hnoted : handout ∈ note handouts handout := mem_note hnonzero
      exact @subset_noteAll _ lines _ hnoted
    · exact ih hrest

/-- Lines without a reference leave nothing to note. -/
theorem noteAll_of_zero (hzero : ∀ line ∈ lines, line.reference = 0) : noteAll handouts lines = handouts := by
  induction lines with
  | nil => rfl
  | cons line lines ih =>
    have hline : note handouts line = handouts := by
      unfold note
      rw [if_pos (.inl (hzero line List.mem_cons_self))]
    rw [noteAll, List.foldl_cons, hline]
    exact ih fun other hother => hzero other (List.mem_cons_of_mem _ hother)

theorem mem_of_find? {reference : Reference} (hfound : find? handouts reference = some handout) :
    handout ∈ handouts ∧ handout.reference = reference :=
  ⟨List.mem_of_find?_eq_some hfound, by simpa using List.find?_some hfound⟩

end

end Handout

/-- The lines of a listing: each thing shown, with the object that it was shown for. -/
def linesOf (thread : Int64) (reference : β → Reference) (object : α → Object) (shown : List β) (listed : List α) :
    List Handout :=
  List.zipWith (fun b a => { reference := reference b, thread, object := object a }) shown listed

/-! ## What is registered -/

/-- The tables hold what was handed out, under the numbers from 1 on, and nothing else. -/
structure Mirrors (handouts : List Handout) (s : State) : Prop where
  entries : s.handles.entries = handouts.map fun h => (h.reference, h.object)
  numbered : handouts.map (·.reference) = (List.range s.handles.last).map fun i : Nat => (i : Int) + 1
  threads : ∀ h ∈ handouts, Assoc.find? h.reference (s.threadsOf h.object.kind) = some h.thread
  owners : ∀ kind reference thread, Assoc.find? reference (s.threadsOf kind) = some thread →
    ∃ h ∈ handouts, h.reference = reference ∧ h.thread = thread ∧ h.object.kind = kind

section

variable {handouts : List Handout} {s : State} {thread : Int64}

namespace Mirrors

theorem start : Mirrors [] {} where
  entries := rfl
  numbered := rfl
  threads := by simp
  owners kind reference thread hfound := by cases kind <;> cases hfound

/-- A session that forgets all references starts anew. -/
theorem cleared (s : State) : Mirrors [] s.clearHandles where
  entries := rfl
  numbered := rfl
  threads := by simp
  owners kind reference thread hfound := by cases kind <;> cases hfound

/-- Only what is registered matters. -/
theorem congr {s' : State} (hmirrors : Mirrors handouts s) (hhandles : s'.handles = s.handles)
    (hthreads : ∀ kind, s'.threadsOf kind = s.threadsOf kind) : Mirrors handouts s' where
  entries := by rw [hhandles, hmirrors.entries]
  numbered := by rw [hhandles, hmirrors.numbered]
  threads h hmem := by rw [hthreads, hmirrors.threads h hmem]
  owners kind reference thread hfound := by
    rw [hthreads] at hfound
    exact hmirrors.owners kind reference thread hfound

/-- A reference lies between 1 and the last number given out. -/
theorem bounds (hmirrors : Mirrors handouts s) {h : Handout} (hmem : h ∈ handouts) :
    1 ≤ h.reference ∧ h.reference ≤ s.handles.last := by
  have hreference : h.reference ∈ handouts.map (·.reference) := List.mem_map_of_mem hmem
  rw [hmirrors.numbered] at hreference
  obtain ⟨i, hi, heq⟩ := List.mem_map.1 hreference
  have hlt := List.mem_range.1 hi
  rw [← heq]
  constructor
  · show (1 : Int) ≤ (i : Int) + 1
    omega
  · show (i : Int) + 1 ≤ (s.handles.last : Int)
    omega

/-- A reference was handed out for one object and one thread. -/
theorem unique (hmirrors : Mirrors handouts s) {first second : Handout} (hfirst : first ∈ handouts)
    (hsecond : second ∈ handouts) (hsame : first.reference = second.reference) : first = second := by
  have hnodup : (handouts.map (·.reference)).Nodup := by
    rw [hmirrors.numbered]
    exact List.nodup_range.map fun i j hij => Int.ofNat_inj.1 (Int.add_left_inj 1 |>.1 hij)
  exact List.inj_on_of_nodup_map hnodup hfirst hsecond hsame

theorem find?_of_mem (hmirrors : Mirrors handouts s) {h : Handout} (hmem : h ∈ handouts) :
    Handout.find? handouts h.reference = some h := by
  cases hfound : Handout.find? handouts h.reference with
  | none =>
    have hnone := List.find?_eq_none.1 hfound h hmem
    simp at hnone
  | some other =>
    obtain ⟨hother, hreference⟩ := Handout.mem_of_find? hfound
    rw [hmirrors.unique hother hmem hreference]

/-- What the table finds under a reference is what it was handed out for. -/
theorem get? (hmirrors : Mirrors handouts s) (reference : Reference) :
    s.handles.get? reference = (Handout.find? handouts reference).map (·.object) := by
  unfold Handles.get? Handout.find?
  rw [hmirrors.entries]
  generalize handouts = list
  induction list with
  | nil => rfl
  | cons h list ih =>
    rw [List.map_cons, List.lookup_cons, List.find?_cons]
    by_cases heq : h.reference = reference
    · simp [heq]
    · simp only [heq, decide_false]
      rw [beq_false_of_ne (Ne.symm heq)]
      exact ih

/-- The next number was handed out to nothing yet. -/
theorem fresh (hmirrors : Mirrors handouts s) {h : Handout} (hmem : h ∈ handouts) :
    h.reference ≠ (s.handles.last : Int) + 1 := by
  intro heq
  have hle : (s.handles.last : Int) + 1 ≤ s.handles.last := heq ▸ (hmirrors.bounds hmem).2
  omega

/-- An object is registered, and its reference handed out. -/
theorem register (hmirrors : Mirrors handouts s) (object : Object) :
    Mirrors (Handout.note handouts ⟨(s.handles.last : Int) + 1, thread, object⟩) (s.register thread object) := by
  have hnew : Handout.note handouts ⟨(s.handles.last : Int) + 1, thread, object⟩
      = handouts ++ [⟨(s.handles.last : Int) + 1, thread, object⟩] := by
    unfold Handout.note
    rw [if_neg]
    rintro (hzero | hmem)
    · have hzero : (s.handles.last : Int) + 1 = 0 := hzero
      omega
    · exact hmirrors.fresh hmem rfl
  rw [hnew]
  refine ⟨?_, ?_, fun h hmem => ?_, fun kind reference owner hfound => ?_⟩
  · rw [State.register_entries, hmirrors.entries, List.map_append]
    rfl
  · rw [State.register_last, List.range_succ, List.map_append, List.map_append, hmirrors.numbered]
    rfl
  · rw [State.register_threadsOf]
    rcases List.mem_append.1 hmem with hold | hnew
    · -- An earlier entry lies under another number, in whichever table it is.
      split
      · rw [Assoc.find?_insert_of_ne (hmirrors.fresh hold), hmirrors.threads h hold]
      · exact hmirrors.threads h hold
    · rw [List.mem_singleton.1 hnew, if_pos rfl, Assoc.find?_insert_self]
  · have hkept : Assoc.find? reference (s.threadsOf kind) = some owner →
        ∃ h ∈ handouts ++ [⟨(s.handles.last : Int) + 1, thread, object⟩],
          h.reference = reference ∧ h.thread = owner ∧ h.object.kind = kind := by
      intro hold
      obtain ⟨h, hmem, hh⟩ := hmirrors.owners kind reference owner hold
      exact ⟨h, List.mem_append_left _ hmem, hh⟩
    rw [State.register_threadsOf] at hfound
    split at hfound
    · next hkind =>
      by_cases hreference : reference = (s.handles.last : Int) + 1
      · rw [hreference, Assoc.find?_insert_self] at hfound
        cases hfound
        exact ⟨_, List.mem_append_right _ (List.mem_singleton_self _), hreference.symm, rfl, hkind.symm⟩
      · rw [Assoc.find?_insert_of_ne hreference] at hfound
        exact hkept hfound
    · exact hkept hfound

end Mirrors

/-! ## Listings -/

/-- Showing an element registers its object under the reference that is shown, or shows no reference and registers
nothing. -/
def Shows (thread : Int64) (reference : β → Reference) (object : α → Object) (act : State → α → β × State) : Prop :=
  ∀ s a, (act s a).2 = s ∧ reference (act s a).1 = 0 ∨
    (act s a).2 = s.register thread (object a) ∧ reference (act s a).1 = (s.handles.last : Int) + 1

theorem addScope_shows : Shows thread ScopeInfo.reference .scope (fun s scope =>
    (({ name := scope.name, reference := (s.addScope thread scope).1 } : ScopeInfo), (s.addScope thread scope).2)) :=
  fun _ _ => .inr ⟨rfl, rfl⟩

theorem stackFrame_shows (files : FileTree) (root : Option String) :
    Shows thread StackFrame.id .frame (State.stackFrame files root thread) :=
  fun _ _ => .inr ⟨rfl, rfl⟩

theorem display_shows : Shows thread Variable.reference .value (State.display · thread) := by
  intro s value
  simp only [State.display]
  cases State.expandable value with
  | true => exact .inr ⟨rfl, rfl⟩
  | false => exact .inl ⟨rfl, rfl⟩

/-- What becomes of a listing: a line for each element, and tables that hold what was handed out with it. -/
structure Listed (handouts : List Handout) (s : State) (thread : Int64) (reference : β → Reference)
    (object : α → Object) (list : List α) (after : List β × State) : Prop where
  lines : after.1.length = list.length
  mirrors : Mirrors (Handout.noteAll handouts (linesOf thread reference object after.1 list)) after.2
  epoch : after.2.epoch = s.epoch

theorem Shows.listed {α β : Type} {reference : β → Reference} {object : α → Object} {act : State → α → β × State}
    (hshows : Shows thread reference object act) (hmirrors : Mirrors handouts s) (list : List α) :
    Listed handouts s thread reference object list (s.forEach act list) := by
  induction list generalizing s handouts with
  | nil => exact ⟨rfl, hmirrors, rfl⟩
  | cons a rest ih =>
    have hone : Mirrors (Handout.note handouts ⟨reference (act s a).1, thread, object a⟩) (act s a).2 ∧
        (act s a).2.epoch = s.epoch := by
      rcases hshows s a with ⟨hstate, hreference⟩ | ⟨hstate, hreference⟩
      · rw [hstate, hreference, Handout.note, if_pos (.inl rfl)]
        exact ⟨hmirrors, rfl⟩
      · rw [hstate, hreference]
        exact ⟨hmirrors.register _, State.register_epoch _⟩
    obtain ⟨hlines, hrest, hepoch⟩ := ih hone.1
    exact ⟨congrArg (· + 1) hlines, hrest, hepoch.trans hone.2⟩

/-- Every reference in a listing has been noted. -/
theorem Listed.noted {α β : Type} {reference : β → Reference} {object : α → Object} {list : List α}
    {after : List β × State} (hlisted : Listed handouts s thread reference object list after) {b : β}
    (hshown : b ∈ after.1) (hnonzero : reference b ≠ 0) :
    ∃ h ∈ Handout.noteAll handouts (linesOf thread reference object after.1 list), h.reference = reference b := by
  obtain ⟨i, hi, hb⟩ := List.getElem_of_mem hshown
  have hi' : i < list.length := hlisted.lines ▸ hi
  have hline : (⟨reference b, thread, object list[i]⟩ : Handout) ∈ linesOf thread reference object after.1 list := by
    rw [linesOf, List.mem_iff_getElem]
    exact ⟨i, by rw [List.length_zipWith]; omega, by simp [hb]⟩
  exact ⟨_, Handout.mem_noteAll hline hnonzero, rfl⟩

end

end DebugBridge.Debugger
