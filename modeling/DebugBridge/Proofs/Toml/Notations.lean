import DebugBridge.Proofs.Toml.Tables
import Mathlib.Data.List.Forall2
import Mathlib.Data.List.Perm.Basic

/-!
# Ways to write a table

A table of keys with values can stand under a header, in braces behind its name, or line by line with its name and a point in
front of each key. A document is read as an outline of lines and sections, from which its tables are put together:
`parse_eq_outline`. A document that consists of tables has each of them as a member, whichever way it is written:
`parse_of_writes` and `members_assemble`.
-/

namespace DebugBridge.Toml

/-! ## Outlines -/

/-- A header with the lines under it. -/
structure Section where
  path : List String
  name : String
  /-- Whether the header adds to a list of tables. -/
  listed : Bool
  values : List KeyValue

/-- What a section adds to those before it. -/
def Section.add (root : Entries) (part : Section) : Option Entries :=
  if part.listed then addElement part.path part.name part.values root
  else addTable part.path part.name part.values root

/-- The sections of a text that begins with a header. -/
def readSections : Nat → List Char → Option (List Section)
  | 0, _ => none
  | _ + 1, [] => some []
  | most + 1, '[' :: '[' :: rest => do
    let ((path, name), rest) ← headerLine [']', ']'] rest
    let (values, rest) ← body (rest.length + 1) [] rest
    return { path, name, listed := true, values } :: (← readSections most rest)
  | most + 1, '[' :: rest => do
    let ((path, name), rest) ← headerLine [']'] rest
    let (values, rest) ← body (rest.length + 1) [] rest
    return { path, name, listed := false, values } :: (← readSections most rest)
  | _ + 1, _ => none

/-- The lines of a document before the first header, and the sections. -/
def outline (text : String) : Option (List KeyValue × List Section) := do
  let text := match text.toList with
    | '\ufeff' :: rest => rest
    | chars => chars
  let (values, rest) ← body (text.length + 1) [] text
  return (values, ← readSections (rest.length + 1) rest)

/-- It does not matter whether a section is added before the ones after it are read. -/
theorem add_then_rest (part : Section) (root : Entries) (rest : Option (List Section)) :
    ((part.add root).bind fun root => rest.bind fun parts => parts.foldlM Section.add root) =
      (rest.bind fun parts => some (part :: parts)).bind fun parts => parts.foldlM Section.add root := by
  cases rest with
  | none => exact Option.bind_fun_none _
  | some parts => rfl

theorem sections_eq (most : Nat) (root : Entries) (text : List Char) :
    sections most root text = (readSections most text).bind fun parts => parts.foldlM Section.add root := by
  fun_induction sections most root text with
  | case1 => rfl
  | case2 => rfl
  | case3 most root text ih =>
    rw [readSections]
    cases headerLine [']', ']'] text with
    | none => rfl
    | some header =>
      obtain ⟨⟨path, name⟩, rest⟩ := header
      simp only [Option.bind_eq_bind, Option.bind_some]
      cases body (rest.length + 1) [] rest with
      | none => rfl
      | some lines =>
        simp only [Option.bind_some, ih]
        exact add_then_rest { path, name, listed := true, values := lines.1 } root _
  | case4 most root text hsingle ih =>
    rw [readSections]
    · cases headerLine [']'] text with
      | none => rfl
      | some header =>
        obtain ⟨⟨path, name⟩, rest⟩ := header
        simp only [Option.bind_eq_bind, Option.bind_some]
        cases body (rest.length + 1) [] rest with
        | none => rfl
        | some lines =>
          simp only [Option.bind_some, ih]
          exact add_then_rest { path, name, listed := false, values := lines.1 } root _
    · exact hsingle
  | case5 most root text hempty hdouble hheader =>
    rw [readSections]
    · rfl
    · exact hempty
    · exact hdouble
    · exact hheader

/-- A document is what its outline comes to. -/
theorem parse_eq_outline (text : String) :
    parse text = (outline text).bind fun (values, parts) =>
      ((addValues [] values).bind fun root => parts.foldlM Section.add root).map fun root =>
        .object (membersOf root) := by
  unfold parse outline
  simp only [Option.bind_eq_bind, sections_eq]
  rw [Option.bind_assoc]
  congr 1
  funext lines
  cases readSections (lines.2.length + 1) lines.2 with
  | none => exact Option.bind_fun_none _
  | some parts =>
    simp only [Option.bind_some, Option.pure_def]
    rw [Option.map_eq_bind, Option.bind_assoc]
    rfl

/-! ## Tables -/

/-- The same value, written with the name of a table in front of its key. -/
def KeyValue.under (name : String) (kv : KeyValue) : KeyValue :=
  { kv with path := name :: kv.path }

/-- The ways to write a table of keys with values. -/
inductive Form where
  /-- A header, and a line for each key. -/
  | header
  /-- One line, with the keys in braces. -/
  | braces
  /-- A line for each key, with the table's name and a point in front. -/
  | dotted
  deriving DecidableEq, Repr

/-- A table as it is written. -/
structure Table where
  form : Form
  name : String
  values : List KeyValue

namespace Table

/-- What the table is, however it is written. -/
def content (table : Table) : String × List KeyValue :=
  (table.name, table.values)

/-- The table as a section. -/
def headed (table : Table) : Section :=
  { path := [], name := table.name, listed := false, values := table.values }

/-- The lines of a table that has no header. Without keys there is nothing to put a name in front of. -/
def lines? (table : Table) : Option (List KeyValue) :=
  match table.form with
  | .header => none
  | .braces => (addValues [] table.values).map fun entries =>
    [{ path := [], name := table.name, value := .object (membersOf entries) }]
  | .dotted => if table.values.isEmpty then none else some (table.values.map (·.under table.name))

/-- What the table adds to those before it. -/
def add (root : Entries) (table : Table) : Option Entries :=
  if table.form = .header then table.headed.add root else table.lines?.bind (addValues root)

end Table

/-- The member of a document that a table becomes. -/
def memberOf? (content : String × List KeyValue) : Option (String × Json) :=
  (addValues [] content.2).map fun entries => (content.1, .object (membersOf entries))

/-- The tables of a document that has nothing else. -/
def assemble (tables : List Table) : Option Entries :=
  tables.foldlM Table.add []

/-- The document consists of these tables, of which those with headers come last. -/
def Writes (text : String) (tables : List Table) : Prop :=
  ∃ loose headed lines, tables = loose ++ headed ∧
    List.Forall₂ (fun table own => table.lines? = some own) loose lines ∧
    (∀ table ∈ headed, table.form = .header) ∧ outline text = some (lines.flatten, headed.map Table.headed)

section

variable {root inner : Entries} {name : String} {kv : KeyValue} {values : List KeyValue}

/-! ### Dotted keys -/

theorem Entries.get?_concat (hnew : root.get? name = none) (node : Node) :
    Entries.get? (root ++ [(name, node)]) name = some node := by
  rw [get?] at hnew ⊢
  rw [List.lookup_append, hnew, Option.none_or, List.lookup_cons_self]

theorem Entries.put_concat (hnew : root.get? name = none) (old node : Node) :
    Entries.put name node (root ++ [(name, old)]) = root ++ [(name, node)] := by
  induction root with
  | nil => simp [put]
  | cons entry rest ih =>
    obtain ⟨other, kept⟩ := entry
    have hnames := get?_eq_none_iff.1 hnew
    rw [List.map_cons, List.mem_cons, not_or] at hnames
    rw [List.cons_append, put, if_neg (Ne.symm hnames.1), ih (get?_eq_none_iff.2 hnames.2), List.cons_append]

/-- Where a dotted key goes through a table that came about by dotted keys, it is as if the table stood alone. -/
theorem addValue_inside (kv : KeyValue) (entries : Entries) :
    descend .dotted
        (fun origin entries =>
          if (kv.under name).path ≠ [] ∧ origin ≠ .dotted then none else addNew kv.name (.leaf kv.value) entries)
        .dotted kv.path entries =
      addValue entries kv := by
  obtain ⟨path, last, value⟩ := kv
  -- A value that stands in the table itself asks for no origin there, and one further down asks for the same.
  cases path with
  | nil => simp [addValue, descend, KeyValue.under]
  | cons first path => simp [addValue, descend, KeyValue.under]

theorem addValue_under_new (hnew : root.get? name = none) :
    addValue root (kv.under name) = (addValue [] kv).map fun inner => root ++ [(name, .table .dotted inner)] := by
  rw [← addValue_inside kv [], addValue]
  simp only [KeyValue.under, descend, hnew]
  rw [Option.map_eq_bind]
  rfl

theorem addValue_under (hnew : root.get? name = none) :
    addValue (root ++ [(name, .table .dotted inner)]) (kv.under name) =
      (addValue inner kv).map fun inner => root ++ [(name, .table .dotted inner)] := by
  rw [← addValue_inside kv inner, addValue]
  simp only [KeyValue.under, descend, Entries.get?_concat hnew, Entries.put_concat hnew]
  rw [Option.map_eq_bind]
  rfl

theorem addValues_under (hnew : root.get? name = none) :
    addValues (root ++ [(name, .table .dotted inner)]) (values.map (·.under name)) =
      (addValues inner values).map fun inner => root ++ [(name, .table .dotted inner)] := by
  unfold addValues
  induction values generalizing inner with
  | nil => rfl
  | cons kv rest ih =>
    rw [List.map_cons, List.foldlM_cons, addValue_under hnew, List.foldlM_cons]
    cases addValue inner kv with
    | none => rfl
    | some changed => exact ih

/-! ### One table -/

theorem membersOf_concat (root : Entries) (name : String) (node : Node) :
    membersOf (root ++ [(name, node)]) = membersOf root ++ [(name, node.toJson)] := by
  rw [membersOf_eq_map, membersOf_eq_map, List.map_append, List.map_singleton]

/-- Whichever way a table is written, the document gets the same member. -/
theorem members_add {table : Table} (hnew : root.get? table.name = none)
    (hkeys : table.form = .dotted → table.values ≠ []) :
    (table.add root).map membersOf = (memberOf? table.content).map (membersOf root ++ [·]) := by
  obtain ⟨form, name, values⟩ := table
  rw [Table.content, memberOf?, Option.map_map]
  cases form with
  | header =>
    simp only [Table.add, Table.headed, Section.add, addTable, descend, hnew]
    cases addValues [] values with
    | none => rfl
    | some entries => exact congrArg some (membersOf_concat root name _)
  | braces =>
    simp only [Table.add, Table.lines?]
    cases addValues [] values with
    | none => rfl
    | some entries =>
      have hadded : addValues root [⟨[], name, .object (membersOf entries)⟩] =
          some (root ++ [(name, .leaf (.object (membersOf entries)))]) := by
        simp [addValues, addValue, descend, addNew, hnew]
      exact (congrArg (Option.map membersOf) hadded).trans (congrArg some (membersOf_concat root name _))
  | dotted =>
    cases values with
    | nil => exact absurd rfl (hkeys rfl)
    | cons kv rest =>
      -- The first line makes the table, and the others find it.
      have hadded : Table.add root ⟨.dotted, name, kv :: rest⟩ = addValues root ((kv :: rest).map (·.under name)) := rfl
      rw [hadded, addValues, List.map_cons, List.foldlM_cons, addValue_under_new hnew, addValues, List.foldlM_cons]
      cases addValue [] kv with
      | none => rfl
      | some inner =>
        refine (congrArg (Option.map membersOf) (addValues_under hnew)).trans ?_
        rw [Option.map_map, addValues]
        congr 1
        funext entries
        exact membersOf_concat root name _

/-! ### All tables -/

/-- The document gets every table as a member, in order. -/
theorem members_addAll {tables : List Table} (hnames : (root.map (·.1) ++ tables.map (·.name)).Nodup)
    (hkeys : ∀ table ∈ tables, table.form = .dotted → table.values ≠ []) :
    (tables.foldlM Table.add root).map membersOf =
      ((tables.map Table.content).mapM memberOf?).map (membersOf root ++ ·) := by
  -- Each table adds its name to those that are taken, so the next one is still new.
  induction tables generalizing root with
  | nil => simp
  | cons table rest ih =>
    obtain ⟨hkeys, hrest⟩ := List.forall_mem_cons.1 hkeys
    have hnew : root.get? table.name = none :=
      Entries.get?_eq_none_iff.2 fun hmem =>
        (List.nodup_append.1 hnames).2.2 table.name hmem table.name List.mem_cons_self rfl
    have hadded := members_add hnew hkeys
    rw [List.foldlM_cons, List.map_cons, List.mapM_cons]
    cases hnext : table.add root with
    | none =>
      rw [hnext, Option.map_none, eq_comm, Option.map_eq_none_iff] at hadded
      simp [hadded]
    | some next =>
      rw [hnext, Option.map_some, eq_comm, Option.map_eq_some_iff] at hadded
      obtain ⟨member, hmember, hmembers⟩ := hadded
      obtain ⟨entries, -, rfl⟩ := Option.map_eq_some_iff.1 hmember
      have hnext : next.map (·.1) = root.map (·.1) ++ [table.name] := by
        rw [← names_membersOf next, ← hmembers, List.map_append, names_membersOf, List.map_singleton]
        rfl
      have hlater : (rest.foldlM Table.add next).map membersOf = _ :=
        ih (by rwa [hnext, List.append_assoc, List.singleton_append]) hrest
      rw [hmember]
      refine hlater.trans ?_
      rw [← hmembers]
      cases (rest.map Table.content).mapM memberOf? with
      | none => rfl
      | some members => exact congrArg some (List.append_assoc _ _ _)

theorem members_assemble {tables : List Table} (hnames : (tables.map (·.name)).Nodup)
    (hkeys : ∀ table ∈ tables, table.form = .dotted → table.values ≠ []) :
    (assemble tables).map membersOf = (tables.map Table.content).mapM memberOf? :=
  (members_addAll (by exact hnames) hkeys).trans Option.map_id'

/-! ### Documents of tables -/

theorem add_of_lines {table : Table} {lines : List KeyValue} (hlines : table.lines? = some lines) :
    table.add root = addValues root lines := by
  have hform : table.form ≠ .header := by
    intro hheader
    simp [Table.lines?, hheader] at hlines
  rw [Table.add, if_neg hform, hlines, Option.bind_some]

theorem add_loose {tables : List Table} {lines : List (List KeyValue)}
    (hlines : List.Forall₂ (fun table own => table.lines? = some own) tables lines) :
    tables.foldlM Table.add root = addValues root lines.flatten := by
  induction hlines generalizing root with
  | nil => rfl
  | cons hown hrest ih =>
    rw [List.foldlM_cons, add_of_lines hown, List.flatten_cons, addValues, addValues, List.foldlM_append]
    congr 1
    funext next
    exact ih

theorem add_headed {tables : List Table} (hheaded : ∀ table ∈ tables, table.form = .header) :
    tables.foldlM Table.add root = (tables.map Table.headed).foldlM Section.add root := by
  induction tables generalizing root with
  | nil => rfl
  | cons table rest ih =>
    obtain ⟨hheader, hrest⟩ := List.forall_mem_cons.1 hheaded
    rw [List.foldlM_cons, List.map_cons, List.foldlM_cons, Table.add, if_pos hheader]
    congr 1
    funext next
    exact ih hrest

theorem keys_of_lines {tables : List Table} {lines : List (List KeyValue)}
    (hlines : List.Forall₂ (fun table own => table.lines? = some own) tables lines) :
    ∀ table ∈ tables, table.form = .dotted → table.values ≠ [] := by
  induction hlines with
  | nil => exact List.forall_mem_nil _
  | cons hown hrest ih =>
    refine List.forall_mem_cons.2 ⟨?_, ih⟩
    rintro hdotted hnone
    simp [Table.lines?, hdotted, hnone] at hown

theorem keys_of_writes {text : String} {tables : List Table} (hwrites : Writes text tables) :
    ∀ table ∈ tables, table.form = .dotted → table.values ≠ [] := by
  obtain ⟨loose, headed, lines, rfl, hlines, hheaded, -⟩ := hwrites
  refine List.forall_mem_append.2 ⟨keys_of_lines hlines, fun table hmem hdotted => ?_⟩
  rw [hheaded table hmem] at hdotted
  cases hdotted

theorem parse_of_writes {text : String} {tables : List Table} (hwrites : Writes text tables) :
    parse text = (assemble tables).map fun root => .object (membersOf root) := by
  obtain ⟨loose, headed, lines, rfl, hlines, hheaded, houtline⟩ := hwrites
  rw [parse_eq_outline, houtline, Option.bind_some, assemble, List.foldlM_append, add_loose hlines]
  simp only [add_headed hheaded]
  rfl

/-- The document that tables make up has each of them as a member. -/
theorem parse_eq_members {text : String} {tables : List Table} (hwrites : Writes text tables)
    (hnames : (tables.map (·.name)).Nodup) :
    parse text = ((tables.map Table.content).mapM memberOf?).map Json.object := by
  rw [parse_of_writes hwrites, ← members_assemble hnames (keys_of_writes hwrites), Option.map_map]
  rfl

theorem mapM_eq_some_iff {α β : Type} {f : α → Option β} {items : List α} {results : List β} :
    items.mapM f = some results ↔ List.Forall₂ (fun item result => f item = some result) items results := by
  induction items generalizing results with
  | nil => simp [eq_comm]
  | cons item rest ih =>
    rw [List.mapM_cons, List.forall₂_cons_left_iff]
    simp only [Option.bind_eq_bind, Option.bind_eq_some_iff, ih, Option.pure_def, Option.some.injEq]
    constructor
    · rintro ⟨result, hresult, results, hresults, rfl⟩
      exact ⟨result, results, hresult, hresults, rfl⟩
    · rintro ⟨result, results, hresult, hresults, rfl⟩
      exact ⟨result, hresult, results, hresults, rfl⟩

/-- Documents of the same tables have the same members, but for their order. -/
theorem parse_perm {text other : String} {tables others : List Table} (hwrites : Writes text tables)
    (hrewrites : Writes other others) (hnames : (tables.map (·.name)).Nodup)
    (hcontents : (tables.map Table.content).Perm (others.map Table.content)) {members : List (String × Json)}
    (hparse : parse text = some (.object members)) :
    ∃ moved, parse other = some (.object moved) ∧ members.Perm moved := by
  have hothers : (others.map (·.name)).Nodup := by
    have hsame := (hcontents.map Prod.fst).nodup_iff
    rw [List.map_map, List.map_map] at hsame
    exact hsame.1 hnames
  rw [parse_eq_members hwrites hnames, Option.map_eq_some_iff] at hparse
  obtain ⟨_, hmembers, heq⟩ := hparse
  cases heq
  obtain ⟨moved, hmoved, hperm⟩ := List.perm_comp_forall₂ hcontents.symm (mapM_eq_some_iff.1 hmembers)
  refine ⟨moved, ?_, hperm.symm⟩
  rw [parse_eq_members hrewrites hothers, mapM_eq_some_iff.2 hmoved, Option.map_some]

end

end DebugBridge.Toml
