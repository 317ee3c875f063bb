import Mathlib.Data.List.Induction
import DebugBridge.Debugger.Session

/-!
# Complete sets of breakpoints

The breakpoints of a source are set again and again, each time all at once. What is remembered after a number of such
updates is, for each source, the list that was set last, and the flattened set holds these lists and nothing else.
-/

namespace DebugBridge.Debugger

/-- The list that was set last for a source. -/
def lastList (updates : List Queued) (path : String) : List SourceBreakpoint :=
  ((updates.filter (·.path = path)).getLast?.map (·.breakpoints)).getD []

/-- Where a breakpoint is. -/
def pathOf? (b : Wire.Breakpoint) : Option String :=
  b.location.map (·.path)

/-- A set of breakpoints that holds, for each source, the list that was set last, and nothing else. -/
structure IsComplete (updates : List Queued) (set : List Wire.Breakpoint) : Prop where
  lists : ∀ path, set.filter (pathOf? · = some path) = (lastList updates path).map (·.toWire path)
  located : ∀ b ∈ set, ∃ path, pathOf? b = some path

theorem lastList_concat (updates : List Queued) (update : Queued) (path : String) :
    lastList (updates ++ [update]) path
      = if path = update.path then update.breakpoints else lastList updates path := by
  unfold lastList
  rw [List.filter_append]
  by_cases hpath : update.path = path
  · simp [hpath]
  · simp [hpath, Ne.symm hpath]

namespace Breakpoints

/-- What is remembered after some updates. -/
def after (b : Breakpoints) (updates : List Queued) : Breakpoints :=
  updates.foldl (fun b update => b.set update.path update.breakpoints) b

theorem after_concat (b : Breakpoints) (updates : List Queued) (update : Queued) :
    b.after (updates ++ [update]) = (b.after updates).set update.path update.breakpoints := by
  unfold after
  rw [List.foldl_append]
  rfl

section

variable {b : Breakpoints}

theorem set_sorted (hsorted : Assoc.Sorted b.byPath) (path : String) (list : List SourceBreakpoint) :
    Assoc.Sorted (b.set path list).byPath := by
  unfold set
  split
  · exact hsorted.erase path
  · exact hsorted.insert path list

/-- An update is seen at its own source only. -/
theorem get_set (b : Breakpoints) (path other : String) (list : List SourceBreakpoint) :
    (b.set path list).get other = if other = path then list else b.get other := by
  unfold set get
  split
  · next hempty =>
    rw [Assoc.find?_erase]
    by_cases hpath : other = path <;> simp [hpath, hempty]
  · by_cases hpath : other = path
    · rw [hpath, Assoc.find?_insert_self, if_pos rfl, Option.getD_some]
    · rw [Assoc.find?_insert_of_ne hpath, if_neg hpath]

theorem after_sorted (updates : List Queued) : Assoc.Sorted (({} : Breakpoints).after updates).byPath := by
  induction updates using List.reverseRecOn with
  | nil => exact List.Pairwise.nil
  | append_singleton updates update ih =>
    rw [after_concat]
    exact set_sorted ih _ _

/-- What is remembered of a source is what was set last. -/
theorem get_after (updates : List Queued) (path : String) :
    (({} : Breakpoints).after updates).get path = lastList updates path := by
  induction updates using List.reverseRecOn with
  | nil => rfl
  | append_singleton updates update ih => rw [after_concat, get_set, lastList_concat, ih]

/-- In the flattened set, the breakpoints of a source are those remembered. -/
theorem filter_toWire (hsorted : Assoc.Sorted b.byPath) (path : String) :
    b.toWire.filter (pathOf? · = some path) = (b.get path).map (·.toWire path) := by
  unfold toWire get
  generalize b.byPath = entries at hsorted ⊢
  induction entries with
  | nil => rfl
  | cons entry rest ih =>
    obtain ⟨other, list⟩ := entry
    obtain ⟨hbelow, hrest⟩ := List.pairwise_cons.1 hsorted
    have hrest := ih hrest
    rw [List.flatMap_cons, List.filter_append, hrest, Assoc.find?_cons]
    by_cases hpath : other = path
    · -- The source comes only once.
      have hnone : Assoc.find? path rest = none := by
        cases hfound : Assoc.find? path rest with
        | none => rfl
        | some later =>
          have hlt : other < path := hbelow _ (Assoc.mem_of_find? hfound)
          exact absurd hlt (hpath ▸ Std.lt_irrefl)
      simp [hpath, hnone, pathOf?, SourceBreakpoint.toWire]
    · simp [hpath, pathOf?, SourceBreakpoint.toWire]

/-- The flattened set after some updates is complete. -/
theorem toWire_complete (updates : List Queued) : IsComplete updates (({} : Breakpoints).after updates).toWire where
  lists path := by rw [filter_toWire (after_sorted updates), get_after]
  located breakpoint hmem := by
    obtain ⟨⟨path, list⟩, -, hlisted⟩ := List.mem_flatMap.1 hmem
    obtain ⟨source, -, rfl⟩ := List.mem_map.1 hlisted
    exact ⟨path, rfl⟩

end

end Breakpoints

end DebugBridge.Debugger
