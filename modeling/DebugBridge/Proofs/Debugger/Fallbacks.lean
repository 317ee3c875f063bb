import DebugBridge.Proofs.Debugger.Waits

/-!
# What a failed evaluation comes to

Where the server cannot evaluate a name, the session looks among what it has registered for the thread: for a value
with that label, and then for a binding in a scope. `FallsBack` says what is found, in terms of what is registered and
for whom. The table of objects may be listed in any order; `fallBack` is the search through such a listing, in which
the smallest reference counts. Since no reference stands twice, all orders lead to the same end:
`failed_evaluations_fall_back`.
-/

namespace DebugBridge.Debugger

/-! ## The smallest reference -/

/-- What is listed under the smallest reference; of several under the same one, the first. -/
def leastOf (found : List (Reference × α)) : Option (Reference × α) :=
  found.minOn? (·.1)

/-- A search of entries, one by one, that gives what it finds under the reference of its entry. -/
def KeepsReference (f : Reference × α → Option (Reference × β)) : Prop :=
  ∀ entry b, f entry = some b → b.1 = entry.1

section

variable {α β : Type} {entries listing : List (Reference × α)} {f : Reference × α → Option (Reference × β)}
  {b : Reference × β}

/-- In a sorted table, what is found first has the smallest reference. -/
theorem findSome?_least (hsorted : Assoc.Sorted entries) (hkeeps : KeepsReference f)
    (hfound : entries.findSome? f = some b) {entry : Reference × α} (hmem : entry ∈ entries) {other : Reference × β}
    (hother : f entry = some other) : b.1 ≤ other.1 := by
  induction entries with
  | nil => cases hmem
  | cons first rest ih =>
    obtain ⟨hbelow, hrest⟩ := List.pairwise_cons.1 hsorted
    rw [List.findSome?_cons] at hfound
    cases hfirst : f first with
    | none =>
      rw [hfirst] at hfound
      rcases List.mem_cons.1 hmem with rfl | hmem
      · rw [hfirst] at hother
        cases hother
      · exact ih hrest hfound hmem
    | some found =>
      rw [hfirst] at hfound
      cases hfound
      rcases List.mem_cons.1 hmem with rfl | hmem
      · rw [hfirst] at hother
        cases hother
        exact Int.le_refl _
      · rw [hkeeps first _ hfirst, hkeeps entry other hother]
        exact Int.le_of_lt (hbelow entry hmem)

/-- Two finds under one reference are the same. -/
theorem find_unique (hsorted : Assoc.Sorted entries) (hkeeps : KeepsReference f) {first second : Reference × α}
    (hfirst : first ∈ entries) (hsecond : second ∈ entries) {b c : Reference × β} (hb : f first = some b)
    (hc : f second = some c) (hsame : b.1 = c.1) : b = c := by
  obtain ⟨reference, a⟩ := first
  obtain ⟨other, a'⟩ := second
  obtain rfl : reference = other := by
    have hkeys := (hkeeps _ b hb).symm.trans (hsame.trans (hkeeps _ c hc))
    exact hkeys
  obtain rfl := hsorted.unique hfirst hsecond
  exact Option.some.inj (hb.symm.trans hc)

theorem findSome?_eq_some_iff_least (hsorted : Assoc.Sorted entries) (hkeeps : KeepsReference f) :
    entries.findSome? f = some b ↔
      (∃ entry ∈ entries, f entry = some b) ∧ ∀ entry ∈ entries, ∀ other, f entry = some other → b.1 ≤ other.1 := by
  constructor
  · intro hfound
    exact ⟨List.exists_of_findSome?_eq_some hfound, fun entry hmem other => findSome?_least hsorted hkeeps hfound hmem⟩
  · rintro ⟨⟨entry, hmem, hentry⟩, hleast⟩
    cases hfound : entries.findSome? f with
    | none =>
      rw [List.findSome?_eq_none_iff.1 hfound entry hmem] at hentry
      cases hentry
    | some first =>
      obtain ⟨entry', hmem', hentry'⟩ := List.exists_of_findSome?_eq_some hfound
      have hle := findSome?_least hsorted hkeeps hfound hmem hentry
      have hge := hleast entry' hmem' first hentry'
      rw [find_unique hsorted hkeeps hmem' hmem hentry' hentry (Int.le_antisymm hle hge)]

/-- However a sorted table is listed, the smallest reference is the one that is found first in the table. -/
theorem leastOf_filterMap_of_perm (hsorted : Assoc.Sorted entries) (hkeeps : KeepsReference f)
    (hperm : listing.Perm entries) : leastOf (listing.filterMap f) = entries.findSome? f := by
  have hlisted : ∀ b, b ∈ listing.filterMap f ↔ ∃ entry ∈ entries, f entry = some b := by
    intro b
    rw [List.mem_filterMap]
    exact exists_congr fun entry => and_congr_left' hperm.mem_iff
  cases hleast : leastOf (listing.filterMap f) with
  | none =>
    symm
    rw [List.findSome?_eq_none_iff]
    intro entry hmem
    rw [Option.eq_none_iff_forall_not_mem]
    intro b hb
    have hmem : b ∈ listing.filterMap f := (hlisted b).2 ⟨entry, hmem, hb⟩
    have hsome : (leastOf (listing.filterMap f)).isSome = true := List.isSome_minOn?_of_mem hmem
    rw [hleast] at hsome
    cases hsome
  | some b =>
    symm
    rw [findSome?_eq_some_iff_least hsorted hkeeps, ← hlisted]
    unfold leastOf at hleast
    refine ⟨List.minOn?_mem hleast, fun entry hmem other hother => ?_⟩
    have hle := List.apply_get_minOn?_le_of_mem (f := Prod.fst) ((hlisted other).2 ⟨entry, hmem, hother⟩)
    simpa only [hleast, Option.get_some] using hle

end

/-! ## What is registered for a thread -/

namespace State

/-- An object is registered under a reference, for this thread. -/
def Owns (s : State) (thread : Int64) (reference : Reference) (object : Object) : Prop :=
  (reference, object) ∈ s.handles.entries ∧ Assoc.find? reference (s.threadsOf object.kind) = some thread

/-- What an entry is if it is a value of this thread with this label. -/
def valueIn? (s : State) (thread : Int64) (label : String) (entry : Reference × Object) :
    Option (Reference × Wire.Value) :=
  match entry.2 with
  | .value value =>
    if Assoc.find? entry.1 s.valueThreads = some thread ∧ value.label = label then some (entry.1, value) else none
  | _ => none

/-- The first binding with this label in an entry, if it is a scope of this thread. -/
def bindingIn? (s : State) (thread : Int64) (label : String) (entry : Reference × Object) :
    Option (Reference × Wire.Value) :=
  match entry.2 with
  | .scope scope =>
    if Assoc.find? entry.1 s.scopeThreads = some thread then
      (scope.bindings.find? (·.label = label)).map fun value => (entry.1, value)
    else none
  | _ => none

/-- What a failed evaluation comes to if the registered objects are listed in this order. -/
def fallBack (s : State) (listing : List (Reference × Object)) (thread : Int64) (label error : String) :
    Evaluation × State :=
  match leastOf (listing.filterMap (s.valueIn? thread label)) with
  | some (reference, value) =>
    ({ result := value.description, typeName := nonEmpty value.typeName, reference }, s)
  | none =>
    match leastOf (listing.filterMap (s.bindingIn? thread label)) with
    | some (_, value) =>
      let (shown, s) := s.display thread value
      ({ result := shown.value, typeName := shown.typeName, reference := shown.reference }, s)
    | none => ({ result := error }, s)

/-- What a failed evaluation comes to, and the state after it. The value registered for the thread under the smallest
reference comes first; then the first binding in the scope registered for it under the smallest reference, which is
registered if there is more to see of it; and where nothing has the label, the error's text. -/
inductive FallsBack (s : State) (thread : Int64) (label error : String) : Evaluation × State → Prop
  | registered {reference : Reference} {value : Wire.Value} (owned : s.Owns thread reference (.value value))
      (named : value.label = label)
      (least : ∀ other value', s.Owns thread other (.value value') → value'.label = label → reference ≤ other) :
      FallsBack s thread label error
        ({ result := value.description, typeName := nonEmpty value.typeName, reference }, s)
  | opened {reference : Reference} {scope : Wire.Scope} {value : Wire.Value}
      (unregistered : ∀ other value', s.Owns thread other (.value value') → value'.label ≠ label)
      (owned : s.Owns thread reference (.scope scope)) (first : scope.bindings.find? (·.label = label) = some value)
      (least : ∀ other scope', s.Owns thread other (.scope scope') → (∃ value ∈ scope'.bindings, value.label = label) →
        reference ≤ other)
      (opens : expandable value = true) (fresh : ∀ entry ∈ s.handles.entries, entry.1 < (s.handles.last : Int) + 1) :
      FallsBack s thread label error
        ({ result := value.description, typeName := nonEmpty value.typeName, reference := (s.handles.last : Int) + 1 },
          s.register thread (.value value))
  | bound {reference : Reference} {scope : Wire.Scope} {value : Wire.Value}
      (unregistered : ∀ other value', s.Owns thread other (.value value') → value'.label ≠ label)
      (owned : s.Owns thread reference (.scope scope)) (first : scope.bindings.find? (·.label = label) = some value)
      (least : ∀ other scope', s.Owns thread other (.scope scope') → (∃ value ∈ scope'.bindings, value.label = label) →
        reference ≤ other)
      (plain : expandable value = false) :
      FallsBack s thread label error
        ({ result := value.description, typeName := nonEmpty value.typeName, reference := 0 }, s)
  | unknown (unregistered : ∀ other value', s.Owns thread other (.value value') → value'.label ≠ label)
      (unbound : ∀ other scope', s.Owns thread other (.scope scope') → ∀ value ∈ scope'.bindings, value.label ≠ label) :
      FallsBack s thread label error ({ result := error, typeName := none, reference := 0 }, s)

section

variable {s : State} {thread : Int64} {label error : String}

theorem valueIn?_keeps : KeepsReference (s.valueIn? thread label) := by
  rintro ⟨reference, object⟩ b hfound
  cases object with
  | value value =>
    simp only [valueIn?, Option.ite_none_right_eq_some, Option.some.injEq] at hfound
    rw [← hfound.2]
  | _ => cases hfound

theorem bindingIn?_keeps : KeepsReference (s.bindingIn? thread label) := by
  rintro ⟨reference, object⟩ b hfound
  cases object with
  | scope scope =>
    simp only [bindingIn?, Option.ite_none_right_eq_some, Option.map_eq_some_iff] at hfound
    obtain ⟨-, value, -, rfl⟩ := hfound
    rfl
  | _ => cases hfound

/-- An entry is a value of the thread if this is registered for it. -/
theorem exists_valueIn?_iff {reference : Reference} {value : Wire.Value} :
    (∃ entry ∈ s.handles.entries, s.valueIn? thread label entry = some (reference, value)) ↔
      s.Owns thread reference (.value value) ∧ value.label = label := by
  constructor
  · rintro ⟨⟨other, object⟩, hmem, hfound⟩
    cases object with
    | value value' =>
      simp only [valueIn?, Option.ite_none_right_eq_some, Option.some.injEq, Prod.mk.injEq] at hfound
      obtain ⟨⟨howner, hlabel⟩, rfl, rfl⟩ := hfound
      exact ⟨⟨hmem, howner⟩, hlabel⟩
    | _ => cases hfound
  · rintro ⟨⟨hmem, howner⟩, hlabel⟩
    exact ⟨_, hmem, if_pos ⟨howner, hlabel⟩⟩

theorem exists_bindingIn?_iff {reference : Reference} {value : Wire.Value} :
    (∃ entry ∈ s.handles.entries, s.bindingIn? thread label entry = some (reference, value)) ↔
      ∃ scope, s.Owns thread reference (.scope scope) ∧ scope.bindings.find? (·.label = label) = some value := by
  constructor
  · rintro ⟨⟨other, object⟩, hmem, hfound⟩
    cases object with
    | scope scope =>
      simp only [bindingIn?, Option.ite_none_right_eq_some, Option.map_eq_some_iff, Prod.mk.injEq] at hfound
      obtain ⟨howner, value', hfirst, rfl, rfl⟩ := hfound
      exact ⟨scope, ⟨hmem, howner⟩, hfirst⟩
    | _ => cases hfound
  · rintro ⟨scope, ⟨hmem, howner⟩, hfirst⟩
    refine ⟨_, hmem, ?_⟩
    have howner : Assoc.find? reference s.scopeThreads = some thread := howner
    simp only [bindingIn?, if_pos howner, hfirst, Option.map_some]

theorem registeredValue?_eq : s.registeredValue? thread label = s.handles.entries.findSome? (s.valueIn? thread label) :=
  rfl

theorem boundValue?_eq :
    s.boundValue? thread label = (s.handles.entries.findSome? (s.bindingIn? thread label)).map (·.2) := by
  unfold boundValue?
  rw [List.map_findSome?]
  congr 1
  funext ⟨reference, object⟩
  cases object with
  | scope scope =>
    simp only [bindingIn?, Function.comp_apply]
    split
    · rw [Option.map_map]
      exact Option.map_id'.symm
    · rfl
  | _ => rfl

/-! ## What is found -/

theorem exists_find?_of_labelled {bindings : List Wire.Value} (hlabelled : ∃ value ∈ bindings, value.label = label) :
    ∃ first, bindings.find? (·.label = label) = some first := by
  obtain ⟨value, hmem, hlabel⟩ := hlabelled
  rw [← Option.isSome_iff_exists, List.find?_isSome]
  exact ⟨value, hmem, decide_eq_true hlabel⟩

section

variable (hsorted : Assoc.Sorted s.handles.entries)

include hsorted

theorem registeredValue?_eq_some_iff {reference : Reference} {value : Wire.Value} :
    s.registeredValue? thread label = some (reference, value) ↔
      (s.Owns thread reference (.value value) ∧ value.label = label) ∧
        ∀ other value', s.Owns thread other (.value value') → value'.label = label → reference ≤ other := by
  rw [registeredValue?_eq, findSome?_eq_some_iff_least hsorted valueIn?_keeps, exists_valueIn?_iff]
  refine and_congr_right' ⟨fun hleast other value' howns hlabel => ?_, fun hleast entry hmem other hother => ?_⟩
  · obtain ⟨entry, hmem, hentry⟩ := exists_valueIn?_iff.2 ⟨howns, hlabel⟩
    exact hleast entry hmem _ hentry
  · obtain ⟨howns, hlabel⟩ := exists_valueIn?_iff.1 ⟨entry, hmem, hother⟩
    exact hleast _ _ howns hlabel

omit hsorted in
theorem registeredValue?_eq_none_iff :
    s.registeredValue? thread label = none ↔
      ∀ other value, s.Owns thread other (.value value) → value.label ≠ label := by
  rw [registeredValue?_eq, List.findSome?_eq_none_iff]
  constructor
  · intro hnone other value howns hlabel
    obtain ⟨entry, hmem, hentry⟩ := exists_valueIn?_iff.2 ⟨howns, hlabel⟩
    rw [hnone entry hmem] at hentry
    cases hentry
  · intro hnone entry hmem
    rw [Option.eq_none_iff_forall_not_mem]
    rintro ⟨reference, value⟩ hentry
    obtain ⟨howns, hlabel⟩ := exists_valueIn?_iff.1 ⟨entry, hmem, hentry⟩
    exact hnone reference value howns hlabel

theorem boundValue?_eq_some_iff {value : Wire.Value} :
    s.boundValue? thread label = some value ↔
      ∃ reference scope, s.Owns thread reference (.scope scope) ∧
        scope.bindings.find? (·.label = label) = some value ∧
        ∀ other scope', s.Owns thread other (.scope scope') → (∃ value ∈ scope'.bindings, value.label = label) →
          reference ≤ other := by
  rw [boundValue?_eq, Option.map_eq_some_iff]
  constructor
  · rintro ⟨⟨reference, value'⟩, hfound, rfl⟩
    obtain ⟨hentry, hleast⟩ := (findSome?_eq_some_iff_least hsorted bindingIn?_keeps).1 hfound
    obtain ⟨scope, howns, hfirst⟩ := exists_bindingIn?_iff.1 hentry
    refine ⟨reference, scope, howns, hfirst, fun other scope' howns' hlabel => ?_⟩
    obtain ⟨first, hfirst'⟩ := exists_find?_of_labelled hlabel
    obtain ⟨entry, hmem, hentry⟩ := exists_bindingIn?_iff.2 ⟨scope', howns', hfirst'⟩
    exact hleast entry hmem _ hentry
  · rintro ⟨reference, scope, howns, hfirst, hleast⟩
    refine ⟨(reference, value), (findSome?_eq_some_iff_least hsorted bindingIn?_keeps).2 ⟨?_, ?_⟩, rfl⟩
    · exact exists_bindingIn?_iff.2 ⟨scope, howns, hfirst⟩
    · intro entry hmem other hother
      obtain ⟨scope', howns', hfirst'⟩ := exists_bindingIn?_iff.1 ⟨entry, hmem, hother⟩
      exact hleast _ _ howns' ⟨_, List.mem_of_find?_eq_some hfirst', by simpa using List.find?_some hfirst'⟩

omit hsorted in
theorem boundValue?_eq_none_iff :
    s.boundValue? thread label = none ↔
      ∀ other scope, s.Owns thread other (.scope scope) → ∀ value ∈ scope.bindings, value.label ≠ label := by
  rw [boundValue?_eq, Option.map_eq_none_iff, List.findSome?_eq_none_iff]
  constructor
  · intro hnone other scope howns value hmem hlabel
    obtain ⟨first, hfirst⟩ := exists_find?_of_labelled ⟨value, hmem, hlabel⟩
    obtain ⟨entry, hmem, hentry⟩ := exists_bindingIn?_iff.2 ⟨scope, howns, hfirst⟩
    rw [hnone entry hmem] at hentry
    cases hentry
  · intro hnone entry hmem
    rw [Option.eq_none_iff_forall_not_mem]
    rintro ⟨reference, value⟩ hentry
    obtain ⟨scope, howns, hfirst⟩ := exists_bindingIn?_iff.1 ⟨entry, hmem, hentry⟩
    exact hnone reference scope howns value (List.mem_of_find?_eq_some hfirst) (by simpa using List.find?_some hfirst)

/-- The search comes to the same in whatever order the objects are listed. -/
theorem fallBack_eq {listing : List (Reference × Object)} (hperm : listing.Perm s.handles.entries) :
    s.fallBack listing thread label error = s.evaluateKnown thread s.epoch label error := by
  unfold fallBack evaluateKnown
  rw [leastOf_filterMap_of_perm hsorted valueIn?_keeps hperm, leastOf_filterMap_of_perm hsorted bindingIn?_keeps hperm,
    if_neg (not_not_intro rfl), boundValue?_eq, registeredValue?_eq]
  cases s.handles.entries.findSome? (s.valueIn? thread label) with
  | some found => rfl
  | none => cases s.handles.entries.findSome? (s.bindingIn? thread label) <;> rfl

/-- And this is what a failed evaluation comes to. -/
theorem fallsBack_iff (hfresh : ∀ entry ∈ s.handles.entries, entry.1 < (s.handles.last : Int) + 1)
    {outcome : Evaluation × State} :
    FallsBack s thread label error outcome ↔ outcome = s.evaluateKnown thread s.epoch label error := by
  unfold evaluateKnown
  rw [if_neg (not_not_intro rfl)]
  constructor
  · intro hfalls
    cases hfalls with
    | registered owned named least => rw [(registeredValue?_eq_some_iff hsorted).2 ⟨⟨owned, named⟩, least⟩]
    | opened unregistered owned first least opens =>
      rw [registeredValue?_eq_none_iff.2 unregistered,
        (boundValue?_eq_some_iff hsorted).2 ⟨_, _, owned, first, least⟩]
      simp only [display, opens, if_true]
      rfl
    | bound unregistered owned first least plain =>
      rw [registeredValue?_eq_none_iff.2 unregistered,
        (boundValue?_eq_some_iff hsorted).2 ⟨_, _, owned, first, least⟩]
      simp [display, plain]
    | unknown unregistered unbound =>
      rw [registeredValue?_eq_none_iff.2 unregistered, boundValue?_eq_none_iff.2 unbound]
  · rintro rfl
    cases hregistered : s.registeredValue? thread label with
    | some found =>
      obtain ⟨reference, value⟩ := found
      obtain ⟨⟨howns, hlabel⟩, hleast⟩ := (registeredValue?_eq_some_iff hsorted).1 hregistered
      exact .registered howns hlabel hleast
    | none =>
      have hunregistered := registeredValue?_eq_none_iff.1 hregistered
      cases hbound : s.boundValue? thread label with
      | some value =>
        obtain ⟨reference, scope, howns, hfirst, hleast⟩ := (boundValue?_eq_some_iff hsorted).1 hbound
        cases hopens : expandable value with
        | true =>
          simp only [display, hopens, if_true]
          exact .opened hunregistered howns hfirst hleast hopens hfresh
        | false =>
          simp only [display, hopens]
          exact .bound hunregistered howns hfirst hleast hopens
      | none => exact .unknown hunregistered (boundValue?_eq_none_iff.1 hbound)

end

end

end State

/-! ## Sessions -/

section

variable {handouts : List Handout} {s : State}

/-- The objects are registered in the order of their references. -/
theorem Mirrors.entries_sorted (hmirrors : Mirrors handouts s) : Assoc.Sorted s.handles.entries := by
  have hkeys : s.handles.entries.map (·.1) = (List.range s.handles.last).map fun i : Nat => (i : Int) + 1 := by
    rw [hmirrors.entries, List.map_map]
    exact hmirrors.numbered
  have hascend : (s.handles.entries.map (·.1)).Pairwise (· < ·) := by
    rw [hkeys, List.pairwise_map]
    exact List.pairwise_lt_range.imp fun hlt => Int.add_lt_add_right (Int.ofNat_lt.2 hlt) 1
  exact List.pairwise_map.1 hascend

/-- The next number is greater than all references. -/
theorem Mirrors.entries_fresh (hmirrors : Mirrors handouts s) :
    ∀ entry ∈ s.handles.entries, entry.1 < (s.handles.last : Int) + 1 := by
  intro entry hentry
  rw [hmirrors.entries] at hentry
  obtain ⟨h, hmem, rfl⟩ := List.mem_map.1 hentry
  exact Int.lt_add_one_of_le (hmirrors.bounds hmem).2

end

namespace Session

theorem not_resumes_of_begins {m : Move} {operation : Nat} {what : Operation}
    (hbegins : m.begins? = some (operation, what)) (hstays : ∀ thread stepping, what ≠ .resume thread stepping) :
    ¬ m.Resumes := by
  intro hresumes
  unfold Move.Resumes at hresumes
  split at hresumes
  · cases hbegins
    exact hstays _ _ rfl
  · cases hbegins
    exact hstays _ _ rfl
  · exact hresumes

/-- An evaluation in a frame that is known waits, once it has begun, with this epoch and the trimmed expression. -/
theorem awaits_of_evaluate {s : Session} (hsorted : Assoc.Sorted s.running) {m : Move} {operation : Nat}
    {frame : Reference} {text : String} (hbegins : m.begins? = some (operation, .evaluate frame text)) {thread : Int64}
    (hframe : Assoc.find? frame s.state.frameThreads = some thread) :
    Awaits (s.move m).1 operation (.evaluation thread s.state.epoch (trimQuotes text)) := by
  have hstart : (s.state.start (.evaluate frame text)).1
      = .asks (.evaluate thread (trimQuotes text)) (.evaluation thread s.state.epoch (trimQuotes text)) := by
    simp only [State.start, hframe]
  have hprepared : Awaits (s.prepare operation (.evaluate frame text)).1 operation
      (.evaluation thread s.state.epoch (trimQuotes text)) := by
    intro running hmem
    rcases prepare_entries hsorted operation _ hmem with ⟨-, hne⟩ | ⟨-, request, -, hasks⟩
    · exact absurd rfl hne
    · rw [hstart] at hasks
      exact (Started.asks.inj hasks).2.symm
  rcases move_of_begins s hbegins (by simp) with hmove | hmove
  · rw [hmove]
    exact hprepared
  · rw [hmove, enter_eq]
    exact hprepared.of_subset (submit_subset _ operation)

/-- When an evaluation in a frame that is known is answered by an error of the server's, and no thread was resumed since
it began, it comes to what `FallsBack` says of the state that the session is in then, and to nothing else: its result is
that, and so is the state after it. It has no other effect. And it does not matter in which order the registered objects
are listed. -/
theorem failed_evaluations_fall_back (connection : Connection) (files : FileTree) (root : Option String)
    (before later : List Move) (m : Move) (operation : Nat) (frame : Reference) (text : String) (thread : Int64)
    (hbegins : m.begins? = some (operation, .evaluate frame text))
    (hframe : Assoc.find? frame (({ connection, files, root } : Session).moves before).1.state.frameThreads = some thread)
    (hpause : ∀ m ∈ later, ¬ m.Resumes)
    (hname : ∀ request, .asked operation request ∉
      (((({ connection, files, root } : Session).moves before).1.move m).1.moves later).2) :
    let s := (((({ connection, files, root } : Session).moves before).1.move m).1.moves later).1
    ∀ action error, .replied operation (.error (.remote error)) ∈ (s.link (·.step action)).2 →
      ∃ evaluation state,
        s.link (·.step action) = ({ s with connection := (s.connection.step action).1, state }.release operation,
          [.replied operation (.error (.remote error)), .ended operation (.ok (.evaluation evaluation))]) ∧
        (∀ outcome, s.state.FallsBack thread (trimQuotes text) error outcome ↔ outcome = (evaluation, state)) ∧
        ∀ listing, listing.Perm s.state.handles.entries →
          s.state.fallBack listing thread (trimQuotes text) error = (evaluation, state) := by
  intro s action error hreplied
  have hbefore := (Follows.start connection files root).moves before
  have hbegun := hbefore.move m
  have hafter := hbegun.follows.moves later
  obtain ⟨running, hmem, hlink⟩ := link_of_replied hreplied
  -- It still waits for its own answer, and its epoch is not over.
  have hwaiting : running.waiting = .evaluation thread s.state.epoch (trimQuotes text) := by
    have hsame : s.state.epoch = (({ connection, files, root } : Session).moves before).1.state.epoch := by
      refine epoch_moves _ (m :: later) fun other hother => ?_
      rcases List.mem_cons.1 hother with rfl | hother
      · exact not_resumes_of_begins hbegins (by simp)
      · exact hpause other hother
    rw [hsame]
    exact (awaits_of_evaluate hbefore.sorted hbegins hframe).moves hbegun.follows.sorted hname running hmem
  have hsorted := hafter.mirrors.entries_sorted
  refine ⟨_, _, ?_, fun outcome => State.fallsBack_iff hsorted hafter.mirrors.entries_fresh,
    fun listing hperm => State.fallBack_eq hsorted hperm⟩
  rw [hlink, hwaiting]
  rfl

/-- A name that the server does not know is found in a scope, without its quotes, and what is found can be opened. -/
theorem failed_evaluations_fall_back_to_binding :
    let value : Wire.Value := { label := "xs", description := "[...]", typeName := "list", hasChildren := true, id := 5 }
    let frame : Wire.Frame := { functionName := "f", scopes := [{ name := "Locals", bindings := [value] }] }
    let bytes (number : UInt64) (payload : Wire.Event.Payload) : Bytes :=
      (Wire.putAll 1000 [] [({ number, payload := some payload } : Wire.Event).encode]).1
    let before : List Action := [.link .dial, .link (.opened 0 0), .link (.attach 0), .start 1 (.stackTrace 7),
      .link (.arrive (bytes 1 (.listFrames [frame]))), .link .read, .collect 1, .start 2 (.scopes 1)]
    let later : List Action := [.link (.arrive (bytes 2 (.error "not defined"))), .link .read]
    let begun := ((({ connection := {} } : Session).moves (before.map .step)).1.move
      (.step (.start 3 (.evaluate 1 " 'xs' ")))).1
    let s := (begun.moves (later.map .step)).1
    .replied 3 (.error (.remote "not defined")) ∈ (s.link (·.step (.collect 2))).2 ∧
      s.state.FallsBack 7 "xs" "not defined" ({ result := "[...]", typeName := some "list", reference := 3 },
        (s.link (·.step (.collect 2))).1.state) := by
  intro value frame bytes before later begun s
  have hreplied : .replied 3 (.error (.remote "not defined")) ∈ (s.link (·.step (.collect 2))).2 :=
    mem_repliesOf.1 (by decide +kernel)
  have hended : endingsOf (s.link (·.step (.collect 2))).2
      = [(3, .ok (.evaluation { result := "[...]", typeName := some "list", reference := 3 }))] := by
    decide +kernel
  have hasked : ∀ asked ∈ asksOf (begun.moves (later.map .step)).2, asked.1 ≠ 3 := by
    decide +kernel
  obtain ⟨evaluation, state, hlink, hfalls, -⟩ := failed_evaluations_fall_back {} {} none (before.map .step)
    (later.map .step) (.step (.start 3 (.evaluate 1 " 'xs' "))) 3 1 " 'xs' " 7 rfl (by decide +kernel)
    (by simp [later, Move.Resumes]) (fun request hmem => hasked _ (mem_asksOf.2 hmem) rfl) (.collect 2) "not defined"
    hreplied
  have hresult : evaluation = { result := "[...]", typeName := some "list", reference := 3 } := by
    rw [hlink] at hended
    cases hended
    rfl
  have hstate : (s.link (·.step (.collect 2))).1.state = state := by
    rw [hlink]
    rfl
  have hlabel : trimQuotes " 'xs' " = "xs" := by
    decide +kernel
  rw [hlabel] at hfalls
  refine ⟨hreplied, ?_⟩
  rw [hstate, ← hresult]
  simp only [s, begun]
  exact (hfalls (evaluation, state)).2 rfl

end Session

end DebugBridge.Debugger
