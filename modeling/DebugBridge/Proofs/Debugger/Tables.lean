import DebugBridge.Proofs.Debugger.Accounts
import DebugBridge.Proofs.Debugger.Entries
import DebugBridge.Proofs.Debugger.References

/-!
# The tables of a session agree

A session keeps the objects that were registered and, in three tables, the threads that they belong to. Both are entered
together, so the tables stay in step, whatever the operations, replies and resumes are. And what is entered is as it
should be, since each operation enters only what it may: `tables_agree`.
-/

namespace DebugBridge.Debugger

namespace State

section

variable {s s' : State}

/-! ## What is entered -/

/-- All that is entered is as it should be: values have more to see, no source has an empty list of breakpoints, and
the threads that stand still lie under their own numbers. -/
structure Tidy (s : State) : Prop where
  opens : ∀ reference value, (reference, .value value) ∈ s.handles.entries → expandable value = true
  filled : ∀ path, (path, []) ∉ s.breakpoints.byPath
  own : ∀ id thread, (id, thread) ∈ s.pausedThreads → thread.id = id

theorem Tidy.start : Tidy {} where
  opens _ _ hmem := by cases hmem
  filled _ hmem := by cases hmem
  own _ _ hmem := by cases hmem

theorem Tidy.adds (htidy : Tidy s) (hadds : Adds s s') : Tidy s' := by
  refine ⟨?_, hadds.breakpoints ▸ htidy.filled, hadds.pausedThreads ▸ htidy.own⟩
  induction hadds with
  | refl => exact htidy.opens
  | register thread adds opens ih =>
    intro reference value hmem
    rw [register_entries, List.mem_append, List.mem_singleton] at hmem
    rcases hmem with hold | hnew
    · exact ih reference value hold
    · cases hnew
      exact opens value rfl

theorem Tidy.entered (htidy : Tidy s) (what : Operation) : Tidy (s.entered what) := by
  cases what with
  | setBreakpoints path breakpoints =>
    refine ⟨htidy.opens, ?_, htidy.own⟩
    intro other hmem
    simp only [State.entered, Breakpoints.set] at hmem
    split at hmem
    · -- An empty list is not entered, the source is taken out.
      exact htidy.filled other (Assoc.mem_erase.1 hmem).1
    · next hnonempty =>
      rcases Assoc.mem_insert hmem with hnew | hold
      · cases hnew
        exact hnonempty rfl
      · exact htidy.filled other hold
  | resume thread stepping =>
    refine ⟨?_, htidy.filled, ?_⟩
    · -- No object is left.
      intro reference value hmem
      cases hmem
    · intro id other hmem
      exact htidy.own id other (Assoc.mem_erase.1 hmem).1
  | _ => exact htidy

theorem Tidy.handleEvent (htidy : Tidy s) (payload : Wire.Event.Payload) : Tidy (s.handleEvent payload).2 := by
  have hown : ∀ id thread, (id, thread) ∈ (s.handleEvent payload).2.pausedThreads → thread.id = id := by
    intro id thread hmem
    unfold State.handleEvent at hmem
    split at hmem
    · rcases Assoc.mem_insert hmem with hnew | hold
      · cases hnew
        rfl
      · exact htidy.own id thread hold
    · exact htidy.own id thread (Assoc.mem_erase.1 hmem).1
    · exact htidy.own id thread hmem
  rw [handleEvent_eq]
  exact ⟨htidy.opens, htidy.filled, hown⟩

/-- Every kind of step leaves the tables tidy. -/
theorem tidy_invariant : Account.blank.Invariant (fun _ _ => True) fun s _ => Tidy s.state := by
  refine .of_state (J := fun s _ => Tidy s) ?_ ?_ ?_ ?_ ?_
  · exact fun _ _ _ _ => rfl
  · exact fun _ _ => rfl
  · intro s _ _ what htidy
    exact (htidy.entered what).adds (start_adds s what)
  · intro s _ files root waiting reply htidy
    exact htidy.adds (finish_adds s files root waiting reply)
  · intro s _ payload htidy
    exact htidy.handleEvent payload

end

/-! ## How the tables agree -/

/-- The tables of a state agree with each other, and with the references that were handed out. -/
structure Agrees (handouts : List Handout) (s : State) : Prop where
  /-- Objects are registered under the numbers from 1 to the last one given out. -/
  numbered : s.handles.entries.map (·.1) = (List.range s.handles.last).map fun i : Nat => (i : Int) + 1
  /-- These are the references that were handed out. -/
  issued : handouts.map (·.reference) = s.handles.entries.map (·.1)
  /-- A thread is named for whatever is registered, and for nothing else. -/
  owned : ∀ reference, reference ∈ s.handles.entries.map (·.1) ↔ ∃ kind, reference ∈ (s.threadsOf kind).map (·.1)
  /-- It is named in one table. -/
  disjoint : ∀ first second, first ≠ second → ((s.threadsOf first).map (·.1)).Disjoint ((s.threadsOf second).map (·.1))
  /-- That is the table of the object's kind. -/
  sorted : ∀ reference object, (reference, object) ∈ s.handles.entries →
    ∀ kind, reference ∈ (s.threadsOf kind).map (·.1) ↔ object.kind = kind
  opens : ∀ reference value, (reference, .value value) ∈ s.handles.entries → value.hasChildren = true ∧ value.id ≠ 0
  filled : ∀ path, (path, []) ∉ s.breakpoints.byPath
  own : ∀ id thread, (id, thread) ∈ s.pausedThreads → thread.id = id
  /-- So whoever finds an object finds its thread. -/
  resolved : ∀ reference object, s.handles.get? reference = some object →
    ∃ thread, Assoc.find? reference (s.threadsOf object.kind) = some thread

section

variable {handouts : List Handout} {s : State}

theorem mem_keys {α : Type} {reference : Reference} {entries : List (Reference × α)} :
    reference ∈ entries.map (·.1) ↔ ∃ a, Assoc.find? reference entries = some a := by
  constructor
  · intro hmem
    cases hfound : Assoc.find? reference entries with
    | some a => exact ⟨a, rfl⟩
    | none =>
      obtain ⟨entry, hentry, heq⟩ := List.mem_map.1 hmem
      simp only [Assoc.find?, Option.map_eq_none_iff, List.find?_eq_none, decide_eq_true_eq] at hfound
      exact absurd heq (hfound entry hentry)
  · rintro ⟨a, hfound⟩
    exact List.mem_map_of_mem (Assoc.mem_of_find? hfound)

/-- A table names a thread for what was handed out for objects of its kind. -/
theorem mem_threadsOf (hmirrors : Mirrors handouts s) (kind : Object.Kind) (reference : Reference) :
    reference ∈ (s.threadsOf kind).map (·.1) ↔ ∃ h ∈ handouts, h.reference = reference ∧ h.object.kind = kind := by
  rw [mem_keys]
  constructor
  · rintro ⟨thread, hfound⟩
    obtain ⟨h, hmem, hreference, -, hkind⟩ := hmirrors.owners kind reference thread hfound
    exact ⟨h, hmem, hreference, hkind⟩
  · rintro ⟨h, hmem, rfl, rfl⟩
    exact ⟨h.thread, hmirrors.threads h hmem⟩

theorem Tidy.agrees (htidy : Tidy s) (hmirrors : Mirrors handouts s) : Agrees handouts s := by
  have hissued : handouts.map (·.reference) = s.handles.entries.map (·.1) := by
    rw [hmirrors.entries, List.map_map]
    rfl
  refine ⟨?_, hissued, ?_, ?_, ?_, ?_, htidy.filled, htidy.own, ?_⟩
  · rw [← hissued]
    exact hmirrors.numbered
  · intro reference
    rw [← hissued, List.mem_map]
    constructor
    · rintro ⟨h, hmem, heq⟩
      exact ⟨h.object.kind, (mem_threadsOf hmirrors _ _).2 ⟨h, hmem, heq, rfl⟩⟩
    · rintro ⟨kind, howned⟩
      obtain ⟨h, hmem, heq, -⟩ := (mem_threadsOf hmirrors _ _).1 howned
      exact ⟨h, hmem, heq⟩
  · intro first second hne reference hfirst hsecond
    obtain ⟨h, hmem, rfl, rfl⟩ := (mem_threadsOf hmirrors _ _).1 hfirst
    obtain ⟨other, hother, hsame, rfl⟩ := (mem_threadsOf hmirrors _ _).1 hsecond
    -- Both tables would name a thread for the same object.
    obtain rfl := hmirrors.unique hother hmem hsame
    exact hne rfl
  · intro reference object hentry kind
    rw [hmirrors.entries, List.mem_map] at hentry
    obtain ⟨h, hmem, heq⟩ := hentry
    cases heq
    rw [mem_threadsOf hmirrors]
    constructor
    · rintro ⟨other, hother, hsame, hkind⟩
      obtain rfl := hmirrors.unique hother hmem hsame
      exact hkind
    · exact fun hkind => ⟨h, hmem, rfl, hkind⟩
  · intro reference value hentry
    have hopens := htidy.opens reference value hentry
    simpa [expandable] using hopens
  · intro reference object hfound
    have hentry := mem_of_get? hfound
    rw [hmirrors.entries, List.mem_map] at hentry
    obtain ⟨h, hmem, heq⟩ := hentry
    cases heq
    exact ⟨h.thread, hmirrors.threads h hmem⟩

end

end State

/-- The tables of a session agree, whatever its moves were. The objects registered have the numbers from 1 on, which
are those handed out since the last resume. Each is named in the one table of its kind, under its thread, and these
tables name nothing else. The values among them have children and a number of their own, no source is left with an
empty list of breakpoints, and the threads that stand still lie under their own numbers. -/
theorem Session.tables_agree (connection : Connection) (files : FileTree) (root : Option String) (moves : List Move) :
    let start : Session := { connection, files, root }
    (start.moves moves).1.state.Agrees (Observer.after {} start moves).handouts := by
  intro start
  have hfollows := (Follows.start connection files root).moves moves
  have htidy : (start.moves moves).1.state.Tidy :=
    State.tidy_invariant.moves (g := ()) (s := start) State.Tidy.start (Account.blank.whenReading_trivial _ _ _)
  exact htidy.agrees hfollows.mirrors

end DebugBridge.Debugger
