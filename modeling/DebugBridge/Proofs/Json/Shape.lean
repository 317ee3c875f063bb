import DebugBridge.Proofs.Json.RoundTrip

/-!
# Neat values

A value is neat where it has no floats, nests only so deep, and has the members of its objects in the order of their
names. What is made of neat values is neat one level deeper, so that this is seen without looking at any bytes.
-/

namespace DebugBridge.Json

/-- Without floats, nested at most so deep, and in order. -/
structure Neat (depth : Nat) (json : Json) : Prop where
  plain : Plain depth json
  ordered : Ordered json

/-! ## Containers -/

theorem orderedItems_iff {items : List Json} : OrderedItems items ↔ ∀ item ∈ items, Ordered item := by
  induction items with
  | nil => simp [OrderedItems]
  | cons item rest ih => rw [OrderedItems, ih, List.forall_mem_cons]

theorem orderedMembers_iff {members : List (String × Json)} :
    OrderedMembers members ↔ ∀ entry ∈ members, Ordered entry.2 := by
  induction members with
  | nil => simp [OrderedMembers]
  | cons entry rest ih => rw [OrderedMembers, ih, List.forall_mem_cons]

/-- Putting members in order leaves them sorted, and adds none. -/
theorem foldl_insert (members : List (String × Json)) {done : List (String × Json)} (hdone : Assoc.Sorted done) :
    let all := members.foldl (fun sorted (name, value) => Assoc.insert name value sorted) done
    Assoc.Sorted all ∧ ∀ entry ∈ all, entry ∈ done ∨ entry ∈ members := by
  induction members generalizing done with
  | nil => exact ⟨hdone, fun entry hmem => .inl hmem⟩
  | cons first rest ih =>
    obtain ⟨hsorted, hentries⟩ := ih (hdone.insert first.1 first.2)
    refine ⟨hsorted, fun entry hmem => ?_⟩
    rcases hentries entry hmem with hinserted | hrest
    · rcases Assoc.mem_insert hinserted with rfl | hold
      · exact .inr List.mem_cons_self
      · exact .inl hold
    · exact .inr (List.mem_cons_of_mem _ hrest)

theorem plain_object {depth : Nat} {members : List (String × Json)} (hplain : ∀ entry ∈ members, Plain depth entry.2) :
    Plain (depth + 1) (object members) :=
  hplain

theorem Neat.array {depth : Nat} {items : List Json} (hitems : ∀ item ∈ items, Neat depth item) :
    Neat (depth + 1) (array items) where
  plain := fun item hmem => (hitems item hmem).plain
  ordered := by
    rw [Ordered, orderedItems_iff]
    exact fun item hmem => (hitems item hmem).ordered

theorem Neat.ofMembers {depth : Nat} {members : List (String × Json)} (hmembers : ∀ entry ∈ members, Neat depth entry.2) :
    Neat (depth + 1) (ofMembers members) := by
  obtain ⟨hsorted, hentries⟩ := @foldl_insert members [] List.Pairwise.nil
  have hneat : ∀ entry ∈ members.foldl (fun sorted (name, value) => Assoc.insert name value sorted) [],
      Neat depth entry.2 := fun entry hmem => hmembers entry ((hentries entry hmem).resolve_left List.not_mem_nil)
  refine ⟨plain_object fun entry hmem => (hneat entry hmem).plain, ?_⟩
  rw [Json.ofMembers, Ordered, orderedMembers_iff]
  exact ⟨hsorted, fun entry hmem => (hneat entry hmem).ordered⟩

/-! ## Leaves -/

@[simp] theorem Neat.int (depth : Nat) (n : Int) : Neat depth (int n) := by
  constructor <;> simp [Plain, Ordered]

@[simp] theorem Neat.bool (depth : Nat) (value : Bool) : Neat depth (bool value) := by
  constructor <;> simp [Plain, Ordered]

@[simp] theorem Neat.string (depth : Nat) (text : String) : Neat depth (string text) := by
  constructor <;> simp [Plain, Ordered]

@[simp] theorem Neat.null (depth : Nat) : Neat depth null := by
  constructor <;> simp [Plain, Ordered]

/-! ## Depth -/

/-- What nests so deep at most also nests deeper at most. -/
theorem Plain.succ {depth : Nat} {json : Json} (hplain : Plain depth json) : Plain (depth + 1) json := by
  induction depth generalizing json with
  | zero => cases json <;> first | exact hplain | cases hplain
  | succ depth ih =>
    cases json with
    | array items => exact fun item hmem => ih (hplain item hmem)
    | object members => exact fun entry hmem => ih (hplain entry hmem)
    | _ => exact hplain

theorem Plain.mono {depth deeper : Nat} {json : Json} (hplain : Plain depth json) (hdeeper : depth ≤ deeper) :
    Plain deeper json := by
  induction hdeeper with
  | refl => exact hplain
  | step _ ih => exact ih.succ

theorem Neat.mono {depth deeper : Nat} {json : Json} (hneat : Neat depth json) (hdeeper : depth ≤ deeper) :
    Neat deeper json :=
  ⟨hneat.plain.mono hdeeper, hneat.ordered⟩

/-! ## Fields in another order -/

/-- An object of neat fields, in whatever order, is sorted by their names alone. -/
theorem sorted_object {members : List (String × Json)} (hordered : ∀ entry ∈ members, Ordered entry.2) :
    sorted (.object members) = .ofMembers members := by
  rw [sorted, sortedMembers_of_ordered (orderedMembers_iff.2 hordered)]

end DebugBridge.Json
