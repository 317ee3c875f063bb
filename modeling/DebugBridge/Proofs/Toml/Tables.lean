import DebugBridge.Toml.Document

/-!
# Tables that have each name once

A document is read line by line, and tables are opened, left and opened again. Whatever the lines say, a table never gets a
name twice, an integer never leaves the 64 bits that it may have, and there is no null. `Proper` says this of values and of
tables while they grow, and there is a lemma for each way in which a table changes.
-/

namespace DebugBridge.Toml

/-! ## Values and tables -/

/-- A value that a document can have. -/
inductive Proper : Json → Prop
  | bool (value : Bool) : Proper (.bool value)
  | int {n : Int} (low : -9223372036854775808 ≤ n) (high : n ≤ 9223372036854775807) : Proper (.int n)
  | float (bits : UInt64) : Proper (.float bits)
  | string (text : String) : Proper (.string text)
  | array {items : List Json} (items_proper : ∀ item ∈ items, Proper item) : Proper (.array items)
  | object {members : List (String × Json)} (distinct : (members.map (·.1)).Nodup)
      (values : ∀ member ∈ members, Proper member.2) : Proper (.object members)

theorem Proper.ne_null {json : Json} (hproper : Proper json) : json ≠ .null := by
  rintro rfl
  cases hproper

theorem Proper.int_range {n : Int} (hproper : Proper (.int n)) : -9223372036854775808 ≤ n ∧ n ≤ 9223372036854775807 := by
  cases hproper with
  | int low high => exact ⟨low, high⟩

theorem Proper.of_object {members : List (String × Json)} (hproper : Proper (.object members)) :
    (members.map (·.1)).Nodup ∧ ∀ member ∈ members, Proper member.2 := by
  cases hproper with
  | object distinct values => exact ⟨distinct, values⟩

/-- What is in a proper value is proper. -/
theorem Proper.get? {json value : Json} {name : String} (hproper : Proper json) (hvalue : json.get? name = some value) :
    Proper value := by
  cases hproper with
  | @object members distinct values => exact values _ ((Assoc.lookup_eq_some_iff distinct).1 hvalue)
  | _ => cases hvalue

/-- A key's node from which a value comes that a document can have. -/
inductive Node.Proper : Node → Prop
  | leaf {value : Json} (proper : Toml.Proper value) : Node.Proper (.leaf value)
  | table {origin : Origin} {entries : List (String × Node)} (distinct : (entries.map (·.1)).Nodup)
      (nodes : ∀ entry ∈ entries, Node.Proper entry.2) : Node.Proper (.table origin entries)
  | tables {elements : List (List (String × Node))} (distinct : ∀ entries ∈ elements, (entries.map (·.1)).Nodup)
      (nodes : ∀ entries ∈ elements, ∀ entry ∈ entries, Node.Proper entry.2) : Node.Proper (.tables elements)

/-- The keys of a table while it grows. -/
structure Entries.Proper (entries : Entries) : Prop where
  distinct : (entries.map (·.1)).Nodup
  nodes : ∀ entry ∈ entries, entry.2.Proper

theorem Node.proper_table {origin : Origin} {entries : Entries} : (Node.table origin entries).Proper ↔ entries.Proper where
  mp := fun | .table distinct nodes => ⟨distinct, nodes⟩
  mpr hproper := .table hproper.distinct hproper.nodes

theorem Node.proper_tables {elements : List Entries} :
    (Node.tables elements).Proper ↔ ∀ entries ∈ elements, entries.Proper where
  mp := fun | .tables distinct nodes => fun entries hmem => ⟨distinct entries hmem, nodes entries hmem⟩
  mpr hproper := .tables (fun entries hmem => (hproper entries hmem).distinct)
    fun entries hmem => (hproper entries hmem).nodes

theorem membersOf_eq_map (entries : Entries) : membersOf entries = entries.map fun entry => (entry.1, entry.2.toJson) := by
  induction entries with
  | nil => rfl
  | cons entry rest ih => rw [membersOf, ih, List.map_cons]

theorem objectsOf_eq_map (elements : List (List (String × Node))) :
    objectsOf elements = elements.map fun entries => .object (membersOf entries) := by
  induction elements with
  | nil => rfl
  | cons entries rest ih => rw [objectsOf, ih, List.map_cons]

theorem names_membersOf (entries : Entries) : (membersOf entries).map (·.1) = entries.map (·.1) := by
  rw [membersOf_eq_map, List.map_map]
  rfl

theorem Node.Proper.toJson {node : Node} (hproper : node.Proper) : Toml.Proper node.toJson := by
  induction hproper with
  | leaf proper => exact proper
  | @table origin entries distinct nodes ih =>
    rw [Node.toJson]
    apply Toml.Proper.object
    · rwa [names_membersOf]
    · rw [membersOf_eq_map]
      intro member hmem
      obtain ⟨entry, hentry, rfl⟩ := List.mem_map.1 hmem
      exact ih entry hentry
  | @tables elements distinct nodes ih =>
    rw [Node.toJson, objectsOf_eq_map]
    apply Toml.Proper.array
    intro item hmem
    obtain ⟨entries, hentries, rfl⟩ := List.mem_map.1 hmem
    apply Toml.Proper.object
    · rw [names_membersOf]
      exact distinct entries hentries
    · rw [membersOf_eq_map]
      intro member hmember
      obtain ⟨entry, hentry, rfl⟩ := List.mem_map.1 hmember
      exact ih entries hentries entry hentry

/-! ## Changes of a table -/

namespace Entries

theorem get?_eq_none_iff {entries : Entries} {name : String} :
    entries.get? name = none ↔ name ∉ entries.map (·.1) :=
  Assoc.lookup_eq_none_iff

theorem mem_of_get? {entries : Entries} {name : String} {node : Node} (hfound : entries.get? name = some node) :
    (name, node) ∈ entries := by
  obtain ⟨before, after, rfl, -⟩ := List.lookup_eq_some_iff.1 hfound
  exact List.mem_append_right before List.mem_cons_self

theorem names_put {entries : Entries} {name : String} (node : Node) (hmem : name ∈ entries.map (·.1)) :
    (entries.put name node).map (·.1) = entries.map (·.1) := by
  induction entries with
  | nil => cases hmem
  | cons entry rest ih =>
    obtain ⟨other, old⟩ := entry
    rw [put]
    split
    · next hsame => rw [List.map_cons, List.map_cons, hsame]
    · next hother =>
      rw [List.map_cons, List.map_cons, ih]
      exact (List.mem_cons.1 hmem).resolve_left fun hsame => hother hsame.symm

theorem mem_put {entries : Entries} {name : String} {node : Node} {entry : String × Node}
    (hmem : entry ∈ entries.put name node) : entry = (name, node) ∨ entry ∈ entries := by
  induction entries with
  | nil => exact .inl (List.mem_singleton.1 hmem)
  | cons first rest ih =>
    obtain ⟨other, old⟩ := first
    rw [put] at hmem
    split at hmem
    · rcases List.mem_cons.1 hmem with rfl | hrest
      · exact .inl rfl
      · exact .inr (List.mem_cons_of_mem _ hrest)
    · rcases List.mem_cons.1 hmem with rfl | hrest
      · exact .inr List.mem_cons_self
      · exact (ih hrest).imp_right (List.mem_cons_of_mem _)

namespace Proper

variable {entries : Entries} {name : String} {node : Node}

theorem nil : Entries.Proper [] :=
  ⟨List.nodup_nil, List.forall_mem_nil _⟩

theorem found (hproper : entries.Proper) (hfound : entries.get? name = some node) : node.Proper :=
  hproper.nodes _ (mem_of_get? hfound)

/-- A name that is new comes to the end. -/
theorem concat (hproper : entries.Proper) (hnone : entries.get? name = none) (hnode : node.Proper) :
    Entries.Proper (entries ++ [(name, node)]) where
  distinct := by
    rw [List.map_append, List.map_singleton]
    refine List.nodup_append.2 ⟨hproper.distinct, List.pairwise_singleton _ name, ?_⟩
    rintro other hother last hlast rfl
    rw [List.mem_singleton.1 hlast] at hother
    exact get?_eq_none_iff.1 hnone hother
  nodes entry hmem := by
    rcases List.mem_append.1 hmem with hold | hnew
    · exact hproper.nodes entry hold
    · rw [List.mem_singleton.1 hnew]
      exact hnode

/-- A name that is there gets another node. -/
theorem put {old : Node} (hproper : entries.Proper) (hfound : entries.get? name = some old) (hnode : node.Proper) :
    Entries.Proper (entries.put name node) where
  distinct := by
    rw [names_put node (List.mem_map.2 ⟨_, mem_of_get? hfound, rfl⟩)]
    exact hproper.distinct
  nodes entry hmem := by
    rcases mem_put hmem with rfl | hold
    · exact hnode
    · exact hproper.nodes entry hold

theorem filter (hproper : entries.Proper) (keep : String × Node → Bool) : Entries.Proper (entries.filter keep) where
  distinct := hproper.distinct.sublist (List.filter_sublist.map _)
  nodes entry hmem := hproper.nodes entry (List.mem_filter.1 hmem).1

theorem members (hproper : entries.Proper) : Toml.Proper (.object (membersOf entries)) :=
  (Node.Proper.table hproper.distinct hproper.nodes : (Node.table .header entries).Proper).toJson

end Proper

end Entries

/-- A change that keeps a table in order does so wherever it is made. -/
theorem descend_proper {made : Origin} {change : Origin → Entries → Option Entries}
    (hchange : ∀ origin entries changed, Entries.Proper entries → change origin entries = some changed →
      Entries.Proper changed)
    {path : List String} {origin : Origin} {entries changed : Entries} (hproper : entries.Proper)
    (hdescend : descend made change origin path entries = some changed) : changed.Proper := by
  -- On the path: the change is made at its end, and each table on the way gets back what was changed in it.
  induction path generalizing origin entries changed with
  | nil => exact hchange origin entries changed hproper hdescend
  | cons name path ih =>
    rw [descend] at hdescend
    split at hdescend
    · next hnone =>
      obtain ⟨inner, hinner, heq⟩ := Option.bind_eq_some_iff.1 hdescend
      cases heq
      exact hproper.concat hnone (Node.proper_table.2 (ih Entries.Proper.nil hinner))
    · cases hdescend
    · next old inner hfound =>
      split at hdescend
      · cases hdescend
      · obtain ⟨after, hafter, heq⟩ := Option.bind_eq_some_iff.1 hdescend
        cases heq
        have hinner := Node.proper_table.1 (hproper.found hfound)
        exact hproper.put hfound (Node.proper_table.2 (ih hinner hafter))
    · next elements hfound =>
      obtain ⟨last, hlast, hrest⟩ := Option.bind_eq_some_iff.1 hdescend
      obtain ⟨after, hafter, heq⟩ := Option.bind_eq_some_iff.1 hrest
      cases heq
      have helements := Node.proper_tables.1 (hproper.found hfound)
      refine hproper.put hfound (Node.proper_tables.2 ?_)
      rw [List.forall_mem_append, List.forall_mem_singleton]
      exact ⟨fun table hmem => helements table ((List.dropLast_sublist _).subset hmem),
        ih (helements last (List.mem_of_getLast? hlast)) hafter⟩

/-! ## Lines that are added -/

section

variable {entries changed root : Entries}

theorem addNew_proper {name : String} {node : Node} (hproper : entries.Proper) (hnode : node.Proper)
    (hadded : addNew name node entries = some changed) : changed.Proper := by
  unfold addNew at hadded
  split at hadded
  · cases hadded
  · next hnone =>
    cases hadded
    exact hproper.concat (Option.not_isSome_iff_eq_none.1 hnone) hnode

theorem addValue_proper {kv : KeyValue} (hproper : entries.Proper) (hvalue : Proper kv.value)
    (hadded : addValue entries kv = some changed) : changed.Proper := by
  refine descend_proper ?_ hproper hadded
  intro origin table table' htable hchange
  split at hchange
  · cases hchange
  · exact addNew_proper htable (.leaf hvalue) hchange

/-- What adds good items one after the other keeps a table in order when adding one does. -/
theorem foldlM_proper {α : Type} {good : α → Prop} {add : Entries → α → Option Entries}
    (hadd : ∀ ⦃before item after⦄, Entries.Proper before → good item → add before item = some after →
      Entries.Proper after)
    {items : List α} (hproper : entries.Proper) (hitems : ∀ item ∈ items, good item)
    (hadded : items.foldlM add entries = some changed) : changed.Proper := by
  induction items generalizing entries with
  | nil =>
    cases hadded
    exact hproper
  | cons item rest ih =>
    rw [List.foldlM_cons] at hadded
    obtain ⟨next, hnext, hlater⟩ := Option.bind_eq_some_iff.1 hadded
    obtain ⟨hitem, hrest⟩ := List.forall_mem_cons.1 hitems
    exact ih (hadd hproper hitem hnext) hrest hlater

theorem addValues_proper {values : List KeyValue} (hproper : entries.Proper) (hvalues : ∀ kv ∈ values, Proper kv.value)
    (hadded : addValues entries values = some changed) : changed.Proper :=
  foldlM_proper (fun _ _ _ => addValue_proper) hproper hvalues hadded

theorem addTable_proper {path : List String} {name : String} {values : List KeyValue} (hproper : root.Proper)
    (hvalues : ∀ kv ∈ values, Proper kv.value) (hadded : addTable path name values root = some changed) :
    changed.Proper := by
  refine descend_proper ?_ hproper hadded
  intro origin parent parent' hparent hchange
  split at hchange
  · next hnone =>
    obtain ⟨inner, hinner, heq⟩ := Option.bind_eq_some_iff.1 hchange
    cases heq
    exact hparent.concat hnone (Node.proper_table.2 (addValues_proper Entries.Proper.nil hvalues hinner))
  · next implied hfound =>
    obtain ⟨inner, hinner, heq⟩ := Option.bind_eq_some_iff.1 hchange
    cases heq
    have himplied := Node.proper_table.1 (hparent.found hfound)
    refine (hparent.filter _).concat ?_ (Node.proper_table.2 (addValues_proper himplied hvalues hinner))
    -- What was implied of the table is taken away first.
    rw [Entries.get?_eq_none_iff]
    intro hmem
    obtain ⟨entry, hentry, rfl⟩ := List.mem_map.1 hmem
    exact absurd (List.mem_filter.1 hentry).2 (by simp)
  · cases hchange

theorem addElement_proper {path : List String} {name : String} {values : List KeyValue} (hproper : root.Proper)
    (hvalues : ∀ kv ∈ values, Proper kv.value) (hadded : addElement path name values root = some changed) :
    changed.Proper := by
  refine descend_proper ?_ hproper hadded
  intro origin parent parent' hparent hchange
  split at hchange
  · next hnone =>
    obtain ⟨inner, hinner, heq⟩ := Option.bind_eq_some_iff.1 hchange
    cases heq
    refine hparent.concat hnone (Node.proper_tables.2 ?_)
    rw [List.forall_mem_singleton]
    exact addValues_proper Entries.Proper.nil hvalues hinner
  · next elements hfound =>
    obtain ⟨inner, hinner, heq⟩ := Option.bind_eq_some_iff.1 hchange
    cases heq
    refine hparent.put hfound (Node.proper_tables.2 ?_)
    rw [List.forall_mem_append, List.forall_mem_singleton]
    exact ⟨Node.proper_tables.1 (hparent.found hfound), addValues_proper Entries.Proper.nil hvalues hinner⟩
  · cases hchange

end

end DebugBridge.Toml
