import Mathlib.Data.List.Basic
import DebugBridge.Proofs.Debugger.BreakpointSets
import DebugBridge.Proofs.Text.ByteOrder
import DebugBridge.Proofs.Text.Trimming

/-!
# Breakpoints, source by source

The flattened set lists the sources in the order of their paths, each with the list that was set last for it. A source
without breakpoints is not kept, so what is kept is decided by these lists alone, in whatever order they were set; and as
no condition is empty, a breakpoint is told from its form on the wire: `sets_are_told_by_their_last_lists`.
-/

namespace DebugBridge.Debugger

/-! ## Conditions -/

namespace SourceBreakpoint

/-- A breakpoint as it is made of what the editor asks for. -/
def Built (b : SourceBreakpoint) : Prop :=
  ∃ line condition, b = new line condition

/-- A condition has characters, and neither begins nor ends with a blank. -/
theorem Built.condition {b : SourceBreakpoint} (hbuilt : b.Built) {condition : String}
    (hcondition : b.condition = some condition) :
    condition ≠ "" ∧ (∀ c, condition.toList.head? = some c → Text.isBlank c = false) ∧
      ∀ c, condition.toList.getLast? = some c → Text.isBlank c = false := by
  obtain ⟨line, asked, rfl⟩ := hbuilt
  obtain ⟨htrimmed, hsome⟩ := Option.filter_eq_some_iff.1 hcondition
  obtain ⟨text, -, rfl⟩ := Option.map_eq_some_iff.1 htrimmed
  rw [Text.trim, String.toList_ofList]
  refine ⟨of_decide_eq_true hsome, ?_, ?_⟩
  · intro c hhead
    exact Text.isBlank_of_head?_trimChars hhead
  · intro c hlast
    exact Text.isBlank_of_getLast?_trimChars hlast

/-- The breakpoint that has this form on the wire. -/
def ofWire? (b : Wire.Breakpoint) : Option SourceBreakpoint :=
  b.location.map fun location =>
    { line := location.line, condition := if b.expression = "" then none else some b.expression }

theorem Built.ofWire?_toWire {b : SourceBreakpoint} (hbuilt : b.Built) (path : String) :
    ofWire? (b.toWire path) = some b := by
  have hconditions := @hbuilt.condition
  obtain ⟨line, condition⟩ := b
  cases condition with
  | none => rfl
  | some condition =>
    have hsome : condition ≠ "" := (hconditions rfl).1
    have hread : (if condition = "" then none else some condition) = some condition := if_neg hsome
    exact congrArg (fun condition => some (mk line condition)) hread

/-- Different breakpoints, or different sources, have different forms. -/
theorem Built.eq_of_toWire {first second : SourceBreakpoint} (hfirst : first.Built) (hsecond : second.Built)
    {path other : String} (hsame : first.toWire path = second.toWire other) : path = other ∧ first = second := by
  have hpath := congrArg pathOf? hsame
  have hread := congrArg ofWire? hsame
  rw [hfirst.ofWire?_toWire, hsecond.ofWire?_toWire] at hread
  exact ⟨Option.some.inj hpath, Option.some.inj hread⟩

end SourceBreakpoint

/-! ## What is kept -/

namespace Breakpoints

/-- No source is kept without breakpoints. -/
def Filled (b : Breakpoints) : Prop :=
  ∀ entry ∈ b.byPath, entry.2 ≠ []

theorem Filled.set {b : Breakpoints} (hfilled : b.Filled) (path : String) (list : List SourceBreakpoint) :
    (b.set path list).Filled := by
  intro entry hmem
  unfold Breakpoints.set at hmem
  split at hmem
  · exact hfilled entry (Assoc.mem_erase.1 hmem).1
  · next hsome =>
    rcases Assoc.mem_insert hmem with rfl | hold
    · exact hsome
    · exact hfilled entry hold

theorem after_filled (updates : List Queued) : (({} : Breakpoints).after updates).Filled := by
  induction updates using List.reverseRecOn with
  | nil =>
    intro entry hmem
    cases hmem
  | append_singleton updates update ih =>
    rw [after_concat]
    exact ih.set _ _

section

variable {b b' : Breakpoints}

theorem Filled.find?_eq (hfilled : b.Filled) (path : String) :
    Assoc.find? path b.byPath = if b.get path = [] then none else some (b.get path) := by
  unfold get
  cases hfound : Assoc.find? path b.byPath with
  | none => rfl
  | some list =>
    have hsome : list ≠ [] := hfilled _ (Assoc.mem_of_find? hfound)
    rw [Option.getD_some, if_neg hsome]

/-- What is kept is decided by the lists of the sources. -/
theorem eq_of_get (hsorted : Assoc.Sorted b.byPath) (hsorted' : Assoc.Sorted b'.byPath) (hfilled : b.Filled)
    (hfilled' : b'.Filled) (hsame : ∀ path, b.get path = b'.get path) : b = b' := by
  have hentries : b.byPath = b'.byPath := by
    apply hsorted.ext hsorted'
    intro path
    rw [hfilled.find?_eq, hfilled'.find?_eq, hsame]
  cases b
  cases b'
  exact congrArg mk hentries

theorem mem_paths_iff (hsorted : Assoc.Sorted b.byPath) (hfilled : b.Filled) (path : String) :
    path ∈ b.byPath.map (·.1) ↔ b.get path ≠ [] := by
  have hfind := hfilled.find?_eq path
  constructor
  · intro hmem
    obtain ⟨⟨_, list⟩, hentry, rfl⟩ := List.mem_map.1 hmem
    intro hnone
    rw [hsorted.find?_of_mem hentry, if_pos hnone] at hfind
    cases hfind
  · intro hsome
    rw [if_neg hsome] at hfind
    exact List.mem_map_of_mem (Assoc.mem_of_find? hfind)

/-- The flattened set, source by source. -/
theorem toWire_eq (hsorted : Assoc.Sorted b.byPath) :
    b.toWire = (b.byPath.map (·.1)).flatMap fun path => (b.get path).map (·.toWire path) := by
  unfold toWire
  rw [List.flatMap_map]
  apply List.flatMap_congr
  intro entry hentry
  have hget : b.get entry.1 = entry.2 := by rw [get, hsorted.find?_of_mem hentry, Option.getD_some]
  rw [hget]

theorem size_eq (b : Breakpoints) : b.size = b.toWire.length := by
  unfold size toWire
  rw [List.length_flatMap, List.length_flatMap]
  simp only [List.length_map]

theorem Filled.isEmpty_iff (hfilled : b.Filled) : b.isEmpty = true ↔ b.toWire = [] := by
  unfold isEmpty toWire
  rw [List.isEmpty_iff]
  constructor
  · intro hnone
    rw [hnone]
    rfl
  · intro hnone
    apply List.eq_nil_iff_forall_not_mem.2
    intro entry hentry
    have hlist := List.flatMap_eq_nil_iff.1 hnone entry hentry
    exact hfilled entry hentry (List.map_eq_nil_iff.1 hlist)

end

/-- The breakpoints of a source, read back from a flattened set. -/
def listIn (set : List Wire.Breakpoint) (path : String) : List SourceBreakpoint :=
  (set.filter (pathOf? · = some path)).filterMap SourceBreakpoint.ofWire?

theorem listIn_toWire {b : Breakpoints} (hsorted : Assoc.Sorted b.byPath) {path : String}
    (hbuilt : ∀ breakpoint ∈ b.get path, breakpoint.Built) : listIn b.toWire path = b.get path := by
  unfold listIn
  rw [filter_toWire hsorted, List.filterMap_map]
  generalize b.get path = list at hbuilt ⊢
  induction list with
  | nil => rfl
  | cons breakpoint list ih =>
    obtain ⟨hfirst, hrest⟩ := List.forall_mem_cons.1 hbuilt
    have hread : (SourceBreakpoint.ofWire? ∘ (·.toWire path)) breakpoint = some breakpoint :=
      hfirst.ofWire?_toWire path
    rw [List.filterMap_cons_some hread, ih hrest]

end Breakpoints

/-- The list that was set last is one of those set. -/
theorem lastList_of_forall {P : SourceBreakpoint → Prop} {updates : List Queued}
    (hall : ∀ update ∈ updates, ∀ breakpoint ∈ update.breakpoints, P breakpoint) (path : String) :
    ∀ breakpoint ∈ lastList updates path, P breakpoint := by
  induction updates using List.reverseRecOn with
  | nil =>
    intro breakpoint hmem
    cases hmem
  | append_singleton updates update ih =>
    rw [lastList_concat]
    split
    · exact hall update (List.mem_append_right _ List.mem_cons_self)
    · exact ih fun other hother => hall other (List.mem_append_left _ hother)

/-- After any number of updates:

* The flattened set goes through the sources that have breakpoints in the order of the bytes of their paths, and lists
  for each what was set last, in the order given, with its line, the path as it is, and the condition or no text.
* So only the last list of each source counts, and updates of different sources may come in either order.
* The list of each source can be read back from the flattened set; the table gives it too, and counts what is flattened.
* A condition that is given is no empty text and begins and ends with no blank, so different breakpoints do not become
  the same one on the wire. -/
theorem sets_are_told_by_their_last_lists (updates : List Queued)
    (hbuilt : ∀ update ∈ updates, ∀ breakpoint ∈ update.breakpoints, breakpoint.Built) :
    let b := ({} : Breakpoints).after updates
    (∃ paths : List String, paths.Pairwise (Utf8.encode · < Utf8.encode ·) ∧
      (∀ path, path ∈ paths ↔ lastList updates path ≠ []) ∧
      b.toWire = paths.flatMap fun path => (lastList updates path).map fun breakpoint =>
        { expression := breakpoint.condition.getD "", location := some { line := breakpoint.line, path } }) ∧
    (∀ others, (∀ path, lastList others path = lastList updates path) → ({} : Breakpoints).after others = b) ∧
    (∀ first second : Queued, first.path ≠ second.path →
      b.after [first, second] = b.after [second, first]) ∧
    (∀ path, Breakpoints.listIn b.toWire path = lastList updates path) ∧
    (b.size = b.toWire.length ∧ (b.isEmpty = true ↔ b.toWire = []) ∧ ∀ path, b.get path = lastList updates path) ∧
    (∀ breakpoint : SourceBreakpoint, breakpoint.Built → ∀ condition, breakpoint.condition = some condition →
      condition ≠ "" ∧ (∀ c, condition.toList.head? = some c → Text.isBlank c = false) ∧
        ∀ c, condition.toList.getLast? = some c → Text.isBlank c = false) ∧
    (∀ first second : SourceBreakpoint, first.Built → second.Built → ∀ path other,
      first.toWire path = second.toWire other → path = other ∧ first = second) := by
  intro b
  have hsorted : Assoc.Sorted b.byPath := Breakpoints.after_sorted updates
  have hfilled : b.Filled := Breakpoints.after_filled updates
  have hget : ∀ path, b.get path = lastList updates path := Breakpoints.get_after updates
  have hlast : ∀ {first second : List Queued}, (∀ path, lastList first path = lastList second path) →
      ({} : Breakpoints).after first = ({} : Breakpoints).after second := by
    intro first second hsame
    apply Breakpoints.eq_of_get (Breakpoints.after_sorted first) (Breakpoints.after_sorted second)
      (Breakpoints.after_filled first) (Breakpoints.after_filled second)
    intro path
    rw [Breakpoints.get_after, Breakpoints.get_after, hsame]
  refine ⟨⟨b.byPath.map (·.1), ?_, ?_, ?_⟩, fun others hsame => hlast hsame, ?_, ?_,
    ⟨b.size_eq, hfilled.isEmpty_iff, hget⟩, ?_, ?_⟩
  · exact List.pairwise_map.2 (hsorted.imp Utf8.encode_lt_encode)
  · intro path
    rw [Breakpoints.mem_paths_iff hsorted hfilled, hget]
  · rw [Breakpoints.toWire_eq hsorted]
    simp only [hget, SourceBreakpoint.toWire]
  · intro first second hne
    have hsplit : ∀ more, b.after more = ({} : Breakpoints).after (updates ++ more) :=
      fun more => (List.foldl_append ..).symm
    rw [hsplit, hsplit]
    apply hlast
    intro path
    have htwo : ∀ one two : Queued, updates ++ [one, two] = updates ++ [one] ++ [two] := fun one two => by simp
    rw [htwo, htwo, lastList_concat, lastList_concat, lastList_concat, lastList_concat]
    split
    · next hsecond => rw [if_neg (hsecond ▸ Ne.symm hne)]
    · rfl
  · intro path
    rw [Breakpoints.listIn_toWire hsorted, hget]
    rw [hget]
    exact lastList_of_forall hbuilt path
  · intro breakpoint hbreakpoint condition
    exact hbreakpoint.condition
  · intro first second hfirst hsecond path other
    exact hfirst.eq_of_toWire hsecond

/-- A source that is emptied, and one that is set twice, with a condition between blanks. -/
theorem sets_are_told_by_their_last_lists_after_changes :
    let conditional := SourceBreakpoint.new 9 (some " x > 1 ")
    let updates : List Queued := [⟨0, "/b", [.new 1 none]⟩, ⟨1, "/a", [.new 3 none]⟩, ⟨2, "/b", [conditional]⟩,
      ⟨3, "/a", []⟩]
    (∀ update ∈ updates, ∀ breakpoint ∈ update.breakpoints, breakpoint.Built) ∧
      Breakpoints.listIn (({} : Breakpoints).after updates).toWire "/b" = [conditional] ∧
      conditional.condition = some "x > 1" := by
  intro conditional updates
  have hbuilt : ∀ update ∈ updates, ∀ breakpoint ∈ update.breakpoints, breakpoint.Built := by
    have hone : ∀ line condition, ∀ breakpoint ∈ [SourceBreakpoint.new line condition], breakpoint.Built := by
      intro line condition breakpoint hmem
      exact ⟨line, condition, List.mem_singleton.1 hmem⟩
    exact List.forall_mem_cons.2 ⟨hone _ _, List.forall_mem_cons.2 ⟨hone _ _, List.forall_mem_cons.2 ⟨hone _ _,
      List.forall_mem_singleton.2 (List.forall_mem_nil _)⟩⟩⟩
  obtain ⟨-, -, -, hlist, -⟩ := sets_are_told_by_their_last_lists updates hbuilt
  have hlast : lastList updates "/b" = [conditional] := by decide +kernel
  exact ⟨hbuilt, (hlist "/b").trans hlast, by decide +kernel⟩

end DebugBridge.Debugger
