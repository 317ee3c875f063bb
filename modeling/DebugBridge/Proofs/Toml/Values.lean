import DebugBridge.Proofs.Toml.Notations

/-!
# What a document can hold

Every reader of a value, from the plain ones up to the reader of a whole document, gives proper values only: a number has
64 bits, each name stands once in its table, and nothing is null.
-/

namespace DebugBridge.Toml

/-- Whatever the text, what the reader takes off it is good. -/
def Yields (good : α → Prop) (parser : Parser α) : Prop :=
  ∀ ⦃text found rest⦄, parser text = some (found, rest) → good found

/-! ## Plain values -/

theorem bool_proper : Yields Proper bool := by
  intro text json rest hread
  unfold bool at hread
  split at hread
  · cases hread
    exact .bool true
  · cases hread
    exact .bool false
  · cases hread

theorem date_proper : Yields Proper date := by
  intro text json rest hread
  have hdate (written : String) : Proper (.object [(dateMember, .string written)]) :=
    .object (List.pairwise_singleton _ _) (List.forall_mem_singleton.2 (.string written))
  unfold date at hread
  simp only [Option.bind_eq_bind, Option.bind_some] at hread
  -- However far the text is a date, what is written so far is kept.
  split at hread
  · split at hread
    · split at hread
      · split at hread <;> cases hread <;> exact hdate _
      · cases hread
        exact hdate _
    · cases hread
      exact hdate _
  · obtain ⟨⟨_, after⟩, -, hwritten⟩ := Option.bind_eq_some_iff.1 hread
    cases hwritten
    exact hdate _

theorem float_proper : Yields Proper float := by
  intro text json rest hread
  have hfloat {bits : UInt64} {refused : Prop} [Decidable refused] {after : List Char}
      (hread : (if refused then none else some (Json.float bits, after)) = some (json, rest)) : Proper json := by
    split at hread
    · cases hread
    · cases hread
      exact .float bits
  unfold float at hread
  simp only [Option.bind_eq_bind, Option.bind_some, Option.bind_none] at hread
  split at hread
  · cases hread
    exact .float _
  · cases hread
    exact .float _
  · obtain ⟨⟨whole, after⟩, -, hread⟩ := Option.bind_eq_some_iff.1 hread
    simp only at hread
    split at hread
    · split at hread <;> exact hfloat hread
    · split at hread
      · exact hfloat hread
      · cases hread

theorem prefixed_proper (base : Nat) : Yields Proper (prefixed base) := by
  intro text json rest hread
  obtain ⟨⟨digits, after⟩, -, hread⟩ := Option.bind_eq_some_iff.1 hread
  simp only at hread
  split at hread
  · cases hread
  · cases hread
    exact .int (by omega) (by omega)

theorem integer_proper : Yields Proper integer := by
  intro text json rest hread
  unfold integer at hread
  split at hread
  · exact prefixed_proper 16 hread
  · exact prefixed_proper 8 hread
  · exact prefixed_proper 2 hread
  · simp only [Option.bind_eq_bind] at hread
    obtain ⟨⟨digits, after⟩, -, hread⟩ := Option.bind_eq_some_iff.1 hread
    generalize (if (sign text).1 = true then -(valueIn 10 digits : Int) else valueIn 10 digits) = n at hread
    split at hread
    · next hrange =>
      cases hread
      exact .int hrange.1 hrange.2
    · cases hread

theorem scalar_proper : Yields Proper scalar := by
  intro text json rest hread
  have hstring (hread : (string text).map (fun found => (Json.string found.1, found.2)) = some (json, rest)) :
      Proper json := by
    obtain ⟨found, -, heq⟩ := Option.map_eq_some_iff.1 hread
    cases heq
    exact .string found.1
  unfold scalar at hread
  split at hread
  · exact hstring hread
  · exact hstring hread
  · exact bool_proper hread
  · exact bool_proper hread
  · rcases Option.or_eq_some_iff.1 hread with hdate | ⟨-, hrest⟩
    · exact date_proper hdate
    · rcases Option.or_eq_some_iff.1 hrest with hfloat | ⟨-, hinteger⟩
      · exact float_proper hfloat
      · exact integer_proper hinteger

/-! ## Arrays and tables in braces -/

section

variable {item : Parser Json} (hitem : Yields Proper item)

include hitem

theorem arrayItems_proper {most : Nat} {done : List Json} (hdone : ∀ json ∈ done, Proper json) :
    Yields Proper (arrayItems item most done) := by
  induction most generalizing done with
  | zero =>
    intro text json rest hread
    cases hread
  | succ most ih =>
    intro text json rest hread
    have hreversed {done : List Json} (hdone : ∀ json ∈ done, Proper json) : Proper (.array done.reverse) :=
      .array fun json hmem => hdone json (List.mem_reverse.1 hmem)
    rw [arrayItems] at hread
    split at hread
    · cases hread
      exact hreversed hdone
    · split at hread
      · cases hread
      · next found after hfound =>
        have hmore : ∀ json ∈ found :: done, Proper json := List.forall_mem_cons.2 ⟨hitem hfound, hdone⟩
        split at hread
        · exact ih hmore hread
        · cases hread
          exact hreversed hmore
        · cases hread

theorem keyValue_proper : Yields (fun kv => Proper kv.value) (keyValue item) := by
  intro text kv rest hread
  obtain ⟨⟨names, after⟩, -, hread⟩ := Option.bind_eq_some_iff.1 hread
  simp only at hread
  split at hread
  · obtain ⟨⟨json, last⟩, hfound, hread⟩ := Option.bind_eq_some_iff.1 hread
    cases hread
    exact hitem hfound
  · cases hread

theorem inlineValues_proper {most : Nat} {done : List KeyValue} (hdone : ∀ kv ∈ done, Proper kv.value) :
    Yields (fun values => ∀ kv ∈ values, Proper kv.value) (inlineValues item most done) := by
  induction most generalizing done with
  | zero =>
    intro text values rest hread
    cases hread
  | succ most ih =>
    intro text values rest hread
    rw [inlineValues] at hread
    split at hread
    · cases hread
    · next kv after hfound =>
      have hmore : ∀ other ∈ kv :: done, Proper other.value :=
        List.forall_mem_cons.2 ⟨keyValue_proper hitem hfound, hdone⟩
      split at hread
      · exact ih hmore hread
      · cases hread
        exact fun other hmem => hmore other (List.mem_reverse.1 hmem)
      · cases hread

theorem inlineTable_proper : Yields Proper (inlineTable item) := by
  intro text json rest hread
  unfold inlineTable at hread
  split at hread
  · cases hread
    exact .object List.nodup_nil (List.forall_mem_nil _)
  · obtain ⟨⟨values, after⟩, hvalues, hread⟩ := Option.bind_eq_some_iff.1 hread
    obtain ⟨entries, hadded, hread⟩ := Option.bind_eq_some_iff.1 hread
    cases hread
    have hproper := inlineValues_proper hitem (List.forall_mem_nil _) hvalues
    exact (addValues_proper Entries.Proper.nil hproper hadded).members

end

theorem value_proper (depth : Nat) : Yields Proper (value depth) := by
  induction depth with
  | zero => exact scalar_proper
  | succ depth ih =>
    intro text json rest hread
    unfold value at hread
    split at hread
    · exact arrayItems_proper ih (List.forall_mem_nil _) hread
    · exact inlineTable_proper ih hread
    · exact scalar_proper hread

/-! ## Documents -/

theorem body_proper {most : Nat} {done : List KeyValue} (hdone : ∀ kv ∈ done, Proper kv.value) :
    Yields (fun values => ∀ kv ∈ values, Proper kv.value) (body most done) := by
  induction most generalizing done with
  | zero =>
    intro text values rest hread
    cases hread
  | succ most ih =>
    intro text values rest hread
    rw [body] at hread
    split at hread
    · cases hread
      exact fun kv hmem => hdone kv (List.mem_reverse.1 hmem)
    · cases hread
      exact fun kv hmem => hdone kv (List.mem_reverse.1 hmem)
    · split at hread
      · cases hread
      · next kv after hfound =>
        split at hread
        · cases hread
        · exact ih (List.forall_mem_cons.2 ⟨keyValue_proper (value_proper maxDepth) hfound, hdone⟩) hread

theorem readSections_proper {most : Nat} {text : List Char} {parts : List Section}
    (hread : readSections most text = some parts) : ∀ part ∈ parts, ∀ kv ∈ part.values, Proper kv.value := by
  fun_induction readSections most text generalizing parts with
  | case1 => cases hread
  | case2 =>
    cases hread
    exact List.forall_mem_nil _
  | case3 most text ih =>
    obtain ⟨⟨⟨path, name⟩, rest⟩, -, hread⟩ := Option.bind_eq_some_iff.1 hread
    obtain ⟨⟨values, rest⟩, hvalues, hread⟩ := Option.bind_eq_some_iff.1 hread
    obtain ⟨later, hlater, hread⟩ := Option.bind_eq_some_iff.1 hread
    cases hread
    exact List.forall_mem_cons.2 ⟨body_proper (List.forall_mem_nil _) hvalues, ih rest hlater⟩
  | case4 most text _ ih =>
    obtain ⟨⟨⟨path, name⟩, rest⟩, -, hread⟩ := Option.bind_eq_some_iff.1 hread
    obtain ⟨⟨values, rest⟩, hvalues, hread⟩ := Option.bind_eq_some_iff.1 hread
    obtain ⟨later, hlater, hread⟩ := Option.bind_eq_some_iff.1 hread
    cases hread
    exact List.forall_mem_cons.2 ⟨body_proper (List.forall_mem_nil _) hvalues, ih rest hlater⟩
  | case5 => cases hread

theorem add_proper {part : Section} {root after : Entries} (hroot : root.Proper)
    (hvalues : ∀ kv ∈ part.values, Proper kv.value) (hadded : part.add root = some after) : after.Proper := by
  unfold Section.add at hadded
  split at hadded
  · exact addElement_proper hroot hvalues hadded
  · exact addTable_proper hroot hvalues hadded

/-- A document is a table of proper values. -/
theorem parse_proper {text : String} {document : Json} (hparse : parse text = some document) :
    ∃ members, document = .object members ∧ Proper document := by
  rw [parse_eq_outline] at hparse
  obtain ⟨⟨values, parts⟩, houtline, hparse⟩ := Option.bind_eq_some_iff.1 hparse
  obtain ⟨root, hroot, rfl⟩ := Option.map_eq_some_iff.1 hparse
  obtain ⟨top, htop, hroot⟩ := Option.bind_eq_some_iff.1 hroot
  obtain ⟨⟨_, rest⟩, hvalues, houtline⟩ := Option.bind_eq_some_iff.1 houtline
  obtain ⟨_, hparts, heq⟩ := Option.bind_eq_some_iff.1 houtline
  cases heq
  have hproper := addValues_proper Entries.Proper.nil (body_proper (List.forall_mem_nil _) hvalues) htop
  have hwhole := foldlM_proper (fun _ _ _ => add_proper) hproper (readSections_proper hparts) hroot
  exact ⟨_, rfl, hwhole.members⟩

end DebugBridge.Toml
