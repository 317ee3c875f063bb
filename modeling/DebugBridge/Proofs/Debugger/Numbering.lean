import Mathlib.Data.List.DropRight
import Mathlib.Data.List.Induction
import Mathlib.Data.List.Nodup
import DebugBridge.Debugger.Handles

/-!
# Numbering

A table of references is told by its history: what was done with it, and what it answered. Objects are numbered as they
come, and the numbering starts again after a clear but not after an invalidation; both forget what was registered. So a
table holds what was created since the last of either, and a number that an invalidation has made stale names nothing
until a clear: `references_resolve_until_forgotten`.
-/

namespace DebugBridge.Debugger

namespace HandleAction

variable {α : Type}

/-- Whether the numbering starts again. -/
def restarts : HandleAction α → Bool
  | .clear => true
  | _ => false

/-- Whether all objects are forgotten. -/
def forgets : HandleAction α → Bool
  | .clear | .invalidate => true
  | _ => false

theorem forgets_of_restarts {action : HandleAction α} (hrestarts : action.restarts = true) : action.forgets = true := by
  cases action with
  | clear => rfl
  | _ => cases hrestarts

end HandleAction

namespace Handles

variable {α : Type}

/-- What was done with a table and what it answered, in order. -/
abbrev History (α : Type) := List (HandleAction α × HandleAnswer α)

/-- The table after some actions. -/
def after (handles : Handles α) (actions : List (HandleAction α)) : Handles α :=
  actions.foldl (fun handles action => (handles.act action).2) handles

/-- Some actions with their answers. -/
def history (handles : Handles α) : List (HandleAction α) → History α
  | [] => []
  | action :: actions => (action, (handles.act action).1) :: (handles.act action).2.history actions

/-- What was created, each object with the reference that was answered. -/
def creations (h : History α) : List (Reference × α) :=
  h.filterMap fun
    | (.create object, .created reference) => some (reference, object)
    | _ => none

/-- What has happened since the last clear. -/
def sinceClear (h : History α) : History α :=
  h.rtakeWhile fun m => !m.1.restarts

/-- What has happened since everything was last forgotten. -/
def sinceForgotten (h : History α) : History α :=
  h.rtakeWhile fun m => !m.1.forgets

/-! ## One action more -/

theorem after_concat (handles : Handles α) (actions : List (HandleAction α)) (action : HandleAction α) :
    handles.after (actions ++ [action]) = ((handles.after actions).act action).2 := by
  unfold after
  rw [List.foldl_append]
  rfl

theorem history_concat (handles : Handles α) (actions : List (HandleAction α)) (action : HandleAction α) :
    handles.history (actions ++ [action])
      = handles.history actions ++ [(action, ((handles.after actions).act action).1)] := by
  induction actions generalizing handles with
  | nil => rfl
  | cons first actions ih =>
    rw [List.cons_append, history, ih]
    rfl

theorem creations_append (h more : History α) : creations (h ++ more) = creations h ++ creations more :=
  List.filterMap_append

theorem sinceClear_concat (h : History α) (m : HandleAction α × HandleAnswer α) :
    sinceClear (h ++ [m]) = if m.1.restarts then [] else sinceClear h ++ [m] := by
  unfold sinceClear
  rw [List.rtakeWhile_concat]
  cases m.1.restarts <;> rfl

theorem sinceForgotten_concat (h : History α) (m : HandleAction α × HandleAnswer α) :
    sinceForgotten (h ++ [m]) = if m.1.forgets then [] else sinceForgotten h ++ [m] := by
  unfold sinceForgotten
  rw [List.rtakeWhile_concat]
  cases m.1.forgets <;> rfl

theorem mem_creations {h : History α} {reference : Reference} {object : α} :
    (reference, object) ∈ creations h ↔ (.create object, .created reference) ∈ h := by
  unfold creations
  rw [List.mem_filterMap]
  constructor
  · rintro ⟨⟨action, answer⟩, hmem, heq⟩
    cases action <;> cases answer <;> cases heq
    exact hmem
  · intro hmem
    exact ⟨_, hmem, rfl⟩

/-! ## What is still remembered -/

/-- A clear forgets, so what was not forgotten came after the last clear. -/
theorem sinceForgotten_suffix (h : History α) : sinceForgotten h <:+ sinceClear h := by
  induction h using List.reverseRecOn with
  | nil => exact List.suffix_rfl
  | append_singleton h m ih =>
    rw [sinceForgotten_concat, sinceClear_concat]
    by_cases hforgets : m.1.forgets = true
    · rw [if_pos hforgets]
      exact List.nil_suffix
    · have hgoesOn : m.1.restarts ≠ true := fun hrestarts => hforgets (HandleAction.forgets_of_restarts hrestarts)
      rw [if_neg hforgets, if_neg hgoesOn]
      obtain ⟨dropped, heq⟩ := ih
      exact ⟨dropped, by rw [← List.append_assoc, heq]⟩

theorem sinceClear_append {more : History α} (hgoesOn : ∀ m ∈ more, m.1.restarts = false) (h : History α) :
    sinceClear (h ++ more) = sinceClear h ++ more := by
  unfold sinceClear List.rtakeWhile
  rw [List.reverse_append, List.takeWhile_append_of_pos, List.reverse_append, List.reverse_reverse]
  intro m hmem
  rw [hgoesOn m (List.mem_reverse.1 hmem)]
  rfl

theorem sinceForgotten_append {more : History α} (hkept : ∀ m ∈ more, m.1.forgets = false) (h : History α) :
    sinceForgotten (h ++ more) = sinceForgotten h ++ more := by
  unfold sinceForgotten List.rtakeWhile
  rw [List.reverse_append, List.takeWhile_append_of_pos, List.reverse_append, List.reverse_reverse]
  intro m hmem
  rw [hkept m (List.mem_reverse.1 hmem)]
  rfl

theorem forgets_of_mem {h : History α} {m : HandleAction α × HandleAnswer α} (hmem : m ∈ sinceForgotten h) :
    m.1.forgets = false := by
  have hnot := List.mem_rtakeWhile_imp hmem
  rwa [Bool.not_eq_true'] at hnot

/-- Whatever forgets is followed by all that is remembered. -/
theorem sinceForgotten_suffix_of_forgets {m : HandleAction α × HandleAnswer α} (hforgets : m.1.forgets = true)
    (earlier later : History α) : sinceForgotten (earlier ++ m :: later) <:+ later := by
  have habsurd : m ∉ sinceForgotten (earlier ++ m :: later) := by
    intro hmem
    rw [forgets_of_mem hmem] at hforgets
    cases hforgets
  have hwhole : sinceForgotten (earlier ++ m :: later) <:+ earlier ++ m :: later := List.rtakeWhile_suffix _ _
  rcases List.suffix_or_suffix_of_suffix hwhole (List.suffix_append earlier (m :: later)) with hshort | hlong
  · rcases List.suffix_cons_iff.1 hshort with heq | hsuffix
    · rw [heq] at habsurd
      exact absurd List.mem_cons_self habsurd
    · exact hsuffix
  · exact absurd (hlong.subset List.mem_cons_self) habsurd

/-- What is remembered goes back to a moment after which nothing was forgotten. -/
theorem mem_sinceForgotten_iff {h : History α} {m : HandleAction α × HandleAnswer α} :
    m ∈ sinceForgotten h ↔ m.1.forgets = false ∧ ∃ earlier later, h = earlier ++ m :: later ∧
      ∀ n ∈ later, n.1.forgets = false := by
  constructor
  · intro hmem
    refine ⟨forgets_of_mem hmem, ?_⟩
    obtain ⟨dropped, hdropped⟩ : sinceForgotten h <:+ h := List.rtakeWhile_suffix _ _
    obtain ⟨earlier, later, hsplit⟩ := List.append_of_mem hmem
    refine ⟨dropped ++ earlier, later, ?_, ?_⟩
    · rw [List.append_assoc, ← hsplit, hdropped]
    · intro n hn
      apply forgets_of_mem (h := h)
      rw [hsplit]
      exact List.mem_append_right _ (List.mem_cons_of_mem _ hn)
  · rintro ⟨hkept, earlier, later, rfl, hlater⟩
    rw [sinceForgotten_append (List.forall_mem_cons.2 ⟨hkept, hlater⟩)]
    exact List.mem_append_right _ List.mem_cons_self

/-! ## A table and its history -/

/-- A table is what its history tells: it holds what was created and not forgotten, and numbers what was created since
the last clear. -/
structure Tells (handles : Handles α) (h : History α) : Prop where
  entries : handles.entries = creations (sinceForgotten h)
  numbered : (creations (sinceClear h)).map (·.1) = (List.range handles.last).map fun i : Nat => (i : Int) + 1

section

variable {handles : Handles α} {h : History α}

theorem Tells.act (htells : Tells handles h) (action : HandleAction α) :
    Tells (handles.act action).2 (h ++ [(action, (handles.act action).1)]) := by
  have hentries := htells.entries
  have hnumbered := htells.numbered
  constructor
  · rw [sinceForgotten_concat]
    cases action with
    | create object =>
      show handles.entries ++ [_] = creations (sinceForgotten h ++ [_])
      rw [creations_append, ← hentries]
      rfl
    | get reference =>
      show handles.entries = creations (sinceForgotten h ++ [_])
      rw [creations_append, ← hentries]
      exact (List.append_nil _).symm
    | clear => rfl
    | invalidate => rfl
  · rw [sinceClear_concat]
    cases action with
    | create object =>
      show (creations (sinceClear h ++ [_])).map _ = (List.range (handles.last + 1)).map _
      rw [creations_append, List.map_append, hnumbered, List.range_succ, List.map_append]
      rfl
    | get reference =>
      show (creations (sinceClear h ++ [_])).map _ = (List.range handles.last).map _
      rw [creations_append, List.map_append, hnumbered]
      exact List.append_nil _
    | clear => rfl
    | invalidate =>
      show (creations (sinceClear h ++ [_])).map _ = (List.range handles.last).map _
      rw [creations_append, List.map_append, hnumbered]
      exact List.append_nil _

theorem tells (actions : List (HandleAction α)) : Tells (after {} actions) (history {} actions) := by
  induction actions using List.reverseRecOn with
  | nil => exact ⟨rfl, rfl⟩
  | append_singleton actions action ih =>
    rw [after_concat, history_concat]
    exact ih.act action

/-- No number is given out twice between two clears. -/
theorem Tells.nodup (htells : Tells handles h) : ((creations (sinceClear h)).map (·.1)).Nodup := by
  rw [htells.numbered]
  exact List.nodup_range.map fun i j hij => Int.ofNat_inj.1 (Int.add_left_inj 1 |>.1 hij)

/-- As many numbers have been given out since the last clear as objects were created. -/
theorem Tells.last_eq (htells : Tells handles h) : handles.last = (creations (sinceClear h)).length := by
  have hlength := congrArg List.length htells.numbered
  rw [List.length_map, List.length_map, List.length_range] at hlength
  exact hlength.symm

theorem Tells.entries_suffix (htells : Tells handles h) : handles.entries <:+ creations (sinceClear h) := by
  rw [htells.entries]
  exact (sinceForgotten_suffix h).filterMap _

/-- What is found under a reference is what is registered under it. -/
theorem Tells.get?_eq_some_iff (htells : Tells handles h) {reference : Reference} {object : α} :
    handles.get? reference = some object ↔ (reference, object) ∈ handles.entries := by
  have hnodup : (handles.entries.map (·.1)).Nodup := htells.nodup.sublist (htells.entries_suffix.map _).sublist
  have hmem : ∀ found, handles.get? reference = some found → (reference, found) ∈ handles.entries := by
    intro found hfound
    obtain ⟨before, rest, heq, -⟩ := List.lookup_eq_some_iff.1 hfound
    rw [heq]
    exact List.mem_append_right _ List.mem_cons_self
  constructor
  · exact hmem object
  · intro hentry
    cases hfound : handles.get? reference with
    | none =>
      have hnone := List.lookup_eq_none_iff.1 hfound _ hentry
      simp at hnone
    | some found =>
      have hsame := List.inj_on_of_nodup_map hnodup hentry (hmem found hfound) rfl
      rw [(Prod.mk.inj hsame).2]

end

/-- A reference is positive, and no greater than the number of objects created. -/
theorem reference_bounds (actions : List (HandleAction α)) {reference : Reference} {object : α}
    (hmem : (reference, object) ∈ creations (history {} actions)) :
    0 < reference ∧ reference ≤ ((creations (history {} actions)).length : Int) := by
  induction actions using List.reverseRecOn with
  | nil => cases hmem
  | append_singleton actions action ih =>
    have htells := tells actions
    have hlast := htells.last_eq
    have hshort : (creations (sinceClear (history {} actions))).length ≤ (creations (history {} actions)).length :=
      ((List.rtakeWhile_suffix _ _).filterMap _).sublist.length_le
    rw [history_concat, creations_append] at hmem ⊢
    rw [List.length_append]
    rcases List.mem_append.1 hmem with hold | hnew
    · obtain ⟨hpositive, hle⟩ := ih hold
      exact ⟨hpositive, Int.le_trans hle (Int.ofNat_le.2 (Nat.le_add_right _ _))⟩
    · cases action with
      | create created =>
        obtain ⟨rfl, rfl⟩ := Prod.mk.inj (List.mem_singleton.1 hnew)
        have hnext : (after {} actions : Handles α).last + 1 ≤ (creations (history {} actions)).length + 1 := by omega
        exact ⟨Int.natCast_succ_pos _, Int.ofNat_le.2 hnext⟩
      | _ => cases hnew

/-- In every sequence of actions on a table:

* A reference gives the object that was created last under it if nothing was forgotten since, and nothing otherwise. So
  it gives nothing if it is no positive number, or was never given out.
* The references given out since the last clear are 1, 2, 3 and so on, each once, whatever was invalidated in between;
  and no reference ever exceeds the number of objects that were created.
* A reference that was given out before an invalidation gives nothing from then on, until there is a clear.
* There are as many entries as objects were created since something was last forgotten. -/
theorem references_resolve_until_forgotten {α : Type} (actions : List (HandleAction α)) :
    let table : Handles α := after {} actions
    let h := history {} actions
    (∀ reference object, table.get? reference = some object ↔ ∃ earlier later,
      h = earlier ++ (.create object, .created reference) :: later ∧
        (∀ other, (.create other, .created reference) ∉ later) ∧ ∀ m ∈ later, m.1.forgets = false) ∧
    (∀ reference, reference ≤ 0 ∨ (∀ object, (.create object, .created reference) ∉ h) → table.get? reference = none) ∧
    ((creations (sinceClear h)).map (·.1)
        = (List.range (creations (sinceClear h)).length).map (fun i : Nat => (i : Int) + 1) ∧
      ((creations (sinceClear h)).map (·.1)).Nodup ∧
      ∀ (reference : Reference) object, (.create object, .created reference) ∈ h →
        0 < reference ∧ reference ≤ ((creations h).length : Int)) ∧
    (∀ earlier answer later, h = earlier ++ (.invalidate, answer) :: later → (∀ m ∈ later, m.1.restarts = false) →
      ∀ reference ∈ (creations (sinceClear earlier)).map (·.1), table.get? reference = none) ∧
    table.size = (creations (sinceForgotten h)).length := by
  intro table h
  have htells : Tells table h := tells actions
  have hget : ∀ reference object, table.get? reference = some object ↔
      (.create object, .created reference) ∈ sinceForgotten h := by
    intro reference object
    rw [htells.get?_eq_some_iff, htells.entries, mem_creations]
  have hbounds : ∀ (reference : Reference) object, (.create object, .created reference) ∈ h →
      0 < reference ∧ reference ≤ ((creations h).length : Int) :=
    fun reference object hmem => reference_bounds actions (mem_creations.2 hmem)
  have hmem : ∀ reference object, table.get? reference = some object → (.create object, .created reference) ∈ h :=
    fun reference object hfound => (List.rtakeWhile_suffix _ _).subset ((hget reference object).1 hfound)
  refine ⟨?_, ?_, ⟨?_, htells.nodup, hbounds⟩, ?_, ?_⟩
  · intro reference object
    rw [hget, mem_sinceForgotten_iff]
    constructor
    · rintro ⟨-, earlier, later, hsplit, hkept⟩
      refine ⟨earlier, later, hsplit, ?_, hkept⟩
      intro other hagain
      -- Both would have come after the last clear, under one number.
      have hsince : sinceClear h = sinceClear earlier ++ (.create object, .created reference) :: later := by
        rw [hsplit]
        apply sinceClear_append
        intro m hm
        rcases List.mem_cons.1 hm with rfl | hm
        · rfl
        · cases hrestarts : m.1.restarts with
          | false => rfl
          | true =>
            have hforgets := HandleAction.forgets_of_restarts hrestarts
            rw [hkept m hm] at hforgets
            cases hforgets
      have hnodup := htells.nodup
      rw [hsince, creations_append, List.map_append] at hnodup
      have hfresh := (List.nodup_cons.1 (List.nodup_append.1 hnodup).2.1).1
      exact hfresh (List.mem_map.2 ⟨_, mem_creations.2 hagain, rfl⟩)
    · rintro ⟨earlier, later, hsplit, -, hkept⟩
      exact ⟨rfl, earlier, later, hsplit, hkept⟩
  · intro reference hnone
    cases hfound : table.get? reference with
    | none => rfl
    | some object =>
      have hcreated := hmem reference object hfound
      rcases hnone with hsmall | hnever
      · exact absurd (hbounds reference object hcreated).1 (Int.not_lt.2 hsmall)
      · exact absurd hcreated (hnever object)
  · rw [htells.numbered, htells.last_eq]
  · intro earlier answer later hsplit hgoesOn reference hreference
    cases hfound : table.get? reference with
    | none => rfl
    | some object =>
      have hlater : (.create object, .created reference) ∈ later := by
        have hsuffix := sinceForgotten_suffix_of_forgets (m := (.invalidate, answer)) rfl earlier later
        rw [← hsplit] at hsuffix
        exact hsuffix.subset ((hget reference object).1 hfound)
      have hsince : sinceClear h = sinceClear earlier ++ (.invalidate, answer) :: later := by
        rw [hsplit]
        exact sinceClear_append (List.forall_mem_cons.2 ⟨rfl, hgoesOn⟩) earlier
      have hnodup := htells.nodup
      rw [hsince, creations_append, List.map_append] at hnodup
      have hapart := (List.nodup_append.1 hnodup).2.2 reference hreference reference
      refine absurd rfl (hapart (List.mem_map.2 ⟨(reference, object), ?_, rfl⟩))
      exact mem_creations.2 (List.mem_cons_of_mem _ hlater)
  · rw [size, htells.entries]

end Handles

end DebugBridge.Debugger
