/-!
# Association lists in the order of their keys

A small map is a list of keys with their values, the keys ascending. Two maps with the same entries are then the
same list, and what is listed comes in the order of the keys.
-/

namespace DebugBridge.Assoc

variable {κ : Type} [DecidableEq κ] {α : Type}

/-- Puts a value under a key; an earlier value of that key is replaced. -/
def insert [LT κ] [DecidableLT κ] (key : κ) (value : α) : List (κ × α) → List (κ × α)
  | [] => [(key, value)]
  | (other, old) :: rest =>
    if key < other then (key, value) :: (other, old) :: rest
    else if key = other then (key, value) :: rest
    else (other, old) :: insert key value rest

/-- The entries without those under a key. -/
def erase (key : κ) (entries : List (κ × α)) : List (κ × α) :=
  entries.filter (·.1 ≠ key)

/-- The value under a key. -/
def find? (key : κ) (entries : List (κ × α)) : Option α :=
  (entries.find? (·.1 = key)).map (·.2)

@[simp] theorem find?_nil (key : κ) : find? key ([] : List (κ × α)) = none := rfl

theorem find?_cons (key other : κ) (value : α) (rest : List (κ × α)) :
    find? key ((other, value) :: rest) = if other = key then some value else find? key rest := by
  by_cases h : other = key <;> simp [find?, h]

/-- What was put under a key is found there. -/
theorem find?_insert_self [LT κ] [DecidableLT κ] (key : κ) (value : α) (entries : List (κ × α)) :
    find? key (insert key value entries) = some value := by
  induction entries with
  | nil => simp [insert, find?_cons]
  | cons entry rest ih =>
    obtain ⟨other, old⟩ := entry
    simp only [insert]
    split
    · simp [find?_cons]
    · split
      · simp [find?_cons]
      · next hne => simp [find?_cons, Ne.symm hne, ih]

/-- Under other keys nothing changes. -/
theorem find?_insert_of_ne [LT κ] [DecidableLT κ] {key key' : κ} (h : key' ≠ key) (value : α) (entries : List (κ × α)) :
    find? key' (insert key value entries) = find? key' entries := by
  induction entries with
  | nil => simp [insert, find?_cons, h.symm]
  | cons entry rest ih =>
    obtain ⟨other, old⟩ := entry
    simp only [insert]
    split
    · simp [find?_cons, h.symm]
    · split
      · next heq => subst heq; simp [find?_cons, h.symm]
      · simp [find?_cons, ih]

/-- Nothing is found under a key whose entries were taken out, and under other keys nothing changes. -/
theorem find?_erase (key key' : κ) (entries : List (κ × α)) :
    find? key' (erase key entries) = if key' = key then none else find? key' entries := by
  induction entries with
  | nil => simp [erase]
  | cons entry rest ih =>
    obtain ⟨other, old⟩ := entry
    simp only [erase] at ih ⊢
    by_cases ho : other = key
    · subst ho
      by_cases hk : key' = other
      · simp [hk] at ih ⊢; exact ih
      · simp [hk, find?_cons, Ne.symm hk] at ih ⊢; exact ih
    · by_cases hk : other = key' <;> simp_all [find?_cons]

/-- A change of each value under its key changes what is found. -/
theorem find?_map {β : Type} (change : κ → α → β) (key : κ) (entries : List (κ × α)) :
    find? key (entries.map fun (key, value) => (key, change key value)) = (find? key entries).map (change key) := by
  induction entries with
  | nil => rfl
  | cons entry rest ih =>
    obtain ⟨other, old⟩ := entry
    rw [List.map_cons, find?_cons, find?_cons, ih]
    by_cases heq : other = key <;> simp [heq]

/-! ## Entries -/

theorem mem_of_find? {key : κ} {value : α} {entries : List (κ × α)} (hfound : find? key entries = some value) :
    (key, value) ∈ entries := by
  induction entries with
  | nil => cases hfound
  | cons entry rest ih =>
    obtain ⟨other, old⟩ := entry
    rw [find?_cons] at hfound
    split at hfound
    · next heq =>
      cases hfound
      rw [heq]
      exact List.mem_cons_self
    · exact List.mem_cons_of_mem _ (ih hfound)

theorem mem_erase {key : κ} {entry : κ × α} {entries : List (κ × α)} :
    entry ∈ erase key entries ↔ entry ∈ entries ∧ entry.1 ≠ key := by
  simp [erase]

theorem mem_insert [LT κ] [DecidableLT κ] {key : κ} {value : α} {entry : κ × α} {entries : List (κ × α)}
    (hmem : entry ∈ insert key value entries) : entry = (key, value) ∨ entry ∈ entries := by
  induction entries with
  | nil => exact .inl (List.mem_singleton.1 hmem)
  | cons first rest ih =>
    obtain ⟨other, old⟩ := first
    simp only [insert] at hmem
    split at hmem
    · exact List.mem_cons.1 hmem
    · split at hmem
      · rcases List.mem_cons.1 hmem with heq | hrest
        · exact .inl heq
        · exact .inr (List.mem_cons_of_mem _ hrest)
      · rcases List.mem_cons.1 hmem with heq | hrest
        · exact .inr (heq ▸ List.mem_cons_self)
        · exact (ih hrest).imp_right (List.mem_cons_of_mem _)

/-- An entry under another key stays. -/
theorem mem_insert_of_mem [LT κ] [DecidableLT κ] {key : κ} {value : α} {entry : κ × α} {entries : List (κ × α)}
    (hmem : entry ∈ entries) (hne : entry.1 ≠ key) : entry ∈ insert key value entries := by
  induction entries with
  | nil => cases hmem
  | cons first rest ih =>
    obtain ⟨other, old⟩ := first
    simp only [insert]
    split
    · exact List.mem_cons_of_mem _ hmem
    · split
      · next heq =>
        rcases List.mem_cons.1 hmem with rfl | hrest
        · exact absurd heq.symm hne
        · exact List.mem_cons_of_mem _ hrest
      · rcases List.mem_cons.1 hmem with rfl | hrest
        · exact List.mem_cons_self
        · exact List.mem_cons_of_mem _ (ih hrest)

/-- Where nothing is found under a key, there is nothing to take out. -/
theorem erase_of_find?_eq_none {key : κ} {entries : List (κ × α)} (hnone : find? key entries = none) :
    erase key entries = entries := by
  simp only [find?, Option.map_eq_none_iff, List.find?_eq_none, decide_eq_true_eq] at hnone
  refine List.filter_eq_self.2 fun entry hentry => ?_
  simpa using hnone entry hentry

theorem erase_insert [LT κ] [DecidableLT κ] (key : κ) (value : α) (entries : List (κ × α)) :
    erase key (insert key value entries) = erase key entries := by
  induction entries with
  | nil => simp [insert, erase]
  | cons first rest ih =>
    obtain ⟨other, old⟩ := first
    simp only [insert]
    split
    · simp [erase]
    · split
      · next heq => simp [erase, heq]
      · next hne =>
        have hkept : (!decide (other = key)) = true := by simpa using Ne.symm hne
        simpa [erase, hkept] using ih

/-! ## The order of the keys -/

/-- The keys ascend. -/
def Sorted [LT κ] (entries : List (κ × α)) : Prop :=
  entries.Pairwise (·.1 < ·.1)

theorem Sorted.erase [LT κ] {entries : List (κ × α)} (hsorted : Sorted entries) (key : κ) :
    Sorted (erase key entries) :=
  List.Pairwise.filter _ hsorted

section

variable [LE κ] [LT κ] [DecidableLT κ] [Std.IsLinearOrder κ] [Std.LawfulOrderLT κ]

theorem Sorted.insert {entries : List (κ × α)} (hsorted : Sorted entries) (key : κ) (value : α) :
    Sorted (insert key value entries) := by
  induction entries with
  | nil => exact List.pairwise_singleton _ _
  | cons first rest ih =>
    obtain ⟨other, old⟩ := first
    obtain ⟨hfirst, hrest⟩ := List.pairwise_cons.1 hsorted
    simp only [Assoc.insert]
    split
    · next hlt =>
      refine List.pairwise_cons.2 ⟨fun entry hentry => ?_, hsorted⟩
      rcases List.mem_cons.1 hentry with rfl | hentry
      · exact hlt
      · exact Std.lt_trans hlt (hfirst entry hentry)
    · next hnot =>
      split
      · next heq =>
        subst heq
        exact List.pairwise_cons.2 ⟨hfirst, hrest⟩
      · next hne =>
        refine List.pairwise_cons.2 ⟨fun entry hentry => ?_, ih hrest⟩
        rcases mem_insert hentry with rfl | hentry
        · exact Std.lt_of_le_of_ne (Std.not_lt.1 hnot) (Ne.symm hne)
        · exact hfirst entry hentry

omit [Std.IsLinearOrder κ] in
/-- What is put under a key takes the place of what was just put there. -/
theorem insert_insert (key : κ) (first second : α) (entries : List (κ × α)) :
    insert key second (insert key first entries) = insert key second entries := by
  induction entries with
  | nil => simp [insert, Std.lt_irrefl]
  | cons entry rest ih =>
    obtain ⟨other, old⟩ := entry
    simp only [insert]
    split
    · simp [insert, Std.lt_irrefl]
    · next hnot =>
      split
      · simp [insert, Std.lt_irrefl]
      · next hne => simp [insert, hnot, hne, ih]

omit [DecidableEq κ] [DecidableLT κ] [Std.IsLinearOrder κ] in
/-- In a sorted list a key has one value. -/
theorem Sorted.unique {entries : List (κ × α)} (hsorted : Sorted entries) {key : κ} {first second : α}
    (hfirst : (key, first) ∈ entries) (hsecond : (key, second) ∈ entries) : first = second := by
  induction entries with
  | nil => cases hfirst
  | cons entry rest ih =>
    obtain ⟨hbelow, hrest⟩ := List.pairwise_cons.1 hsorted
    rcases List.mem_cons.1 hfirst with rfl | hfirst'
    · rcases List.mem_cons.1 hsecond with heq | hsecond'
      · cases heq
        rfl
      · exact absurd (hbelow _ hsecond') Std.lt_irrefl
    · rcases List.mem_cons.1 hsecond with rfl | hsecond'
      · exact absurd (hbelow _ hfirst') Std.lt_irrefl
      · exact ih hrest hfirst' hsecond'

omit [DecidableLT κ] [Std.IsLinearOrder κ] in
/-- In a sorted list an entry is found under its key. -/
theorem Sorted.find?_of_mem {entries : List (κ × α)} (hsorted : Sorted entries) {key : κ} {value : α}
    (hmem : (key, value) ∈ entries) : find? key entries = some value := by
  cases hfound : find? key entries with
  | none =>
    simp only [find?, Option.map_eq_none_iff, List.find?_eq_none, decide_eq_true_eq] at hfound
    exact absurd rfl (hfound _ hmem)
  | some other => rw [hsorted.unique (mem_of_find? hfound) hmem]

omit [DecidableLT κ] [Std.IsLinearOrder κ] in
/-- Up to order, a sorted list is what is found under a key, and the rest. -/
theorem Sorted.perm_erase {entries : List (κ × α)} (hsorted : Sorted entries) {key : κ} {value : α}
    (hfound : find? key entries = some value) : entries.Perm ((key, value) :: Assoc.erase key entries) := by
  induction entries with
  | nil => cases hfound
  | cons first rest ih =>
    obtain ⟨other, old⟩ := first
    obtain ⟨hbelow, hrest⟩ := List.pairwise_cons.1 hsorted
    rw [find?_cons] at hfound
    split at hfound
    · next heq =>
      cases hfound
      subst heq
      -- The key comes only once.
      have hkept : Assoc.erase other rest = rest :=
        List.filter_eq_self.2 fun entry hentry =>
          decide_eq_true fun heq => Std.lt_irrefl (heq ▸ hbelow entry hentry)
      rw [Assoc.erase, List.filter_cons_of_neg (by simp)]
      exact List.Perm.cons _ (List.Perm.of_eq hkept.symm)
    · next hne =>
      rw [Assoc.erase, List.filter_cons_of_pos (by simpa using hne)]
      exact ((ih hrest hfound).cons _).trans (List.Perm.swap _ _ _)

/-- Up to order, an insertion puts a value beside what is under other keys. -/
theorem Sorted.insert_perm {entries : List (κ × α)} (hsorted : Sorted entries) (key : κ) (value : α) :
    (Assoc.insert key value entries).Perm ((key, value) :: Assoc.erase key entries) := by
  rw [← erase_insert key value entries]
  exact (hsorted.insert key value).perm_erase (find?_insert_self key value entries)

/-- An entry after an insertion is the new one, or an old one under another key. -/
theorem Sorted.mem_insert_of_ne {entries : List (κ × α)} (hsorted : Sorted entries) {key : κ} {value : α}
    {entry : κ × α} (hmem : entry ∈ Assoc.insert key value entries) :
    entry = (key, value) ∨ entry ∈ entries ∧ entry.1 ≠ key := by
  by_cases hkey : entry.1 = key
  · obtain ⟨other, held⟩ := entry
    obtain rfl : other = key := hkey
    have hself := mem_of_find? (find?_insert_self other value entries)
    rw [(hsorted.insert other value).unique hmem hself]
    exact .inl rfl
  · exact (mem_insert hmem).imp_right fun hold => ⟨hold, hkey⟩

omit [DecidableLT κ] [Std.IsLinearOrder κ] in
/-- The first key of a sorted list does not come again. -/
theorem Sorted.find?_rest {key : κ} {value : α} {rest : List (κ × α)} (hsorted : Sorted ((key, value) :: rest)) :
    find? key rest = none := by
  cases hfound : find? key rest with
  | none => rfl
  | some other => exact absurd ((List.pairwise_cons.1 hsorted).1 _ (mem_of_find? hfound)) Std.lt_irrefl

omit [LE κ] [DecidableLT κ] [Std.IsLinearOrder κ] [Std.LawfulOrderLT κ] in
/-- Where something is found, it is under the first key or a later one. -/
theorem Sorted.eq_or_lt_of_find? {first key : κ} {value found : α} {rest : List (κ × α)}
    (hsorted : Sorted ((first, value) :: rest)) (hfound : find? key ((first, value) :: rest) = some found) :
    key = first ∨ first < key := by
  rcases List.mem_cons.1 (mem_of_find? hfound) with heq | hrest
  · exact .inl (Prod.mk.inj heq).1
  · exact .inr ((List.pairwise_cons.1 hsorted).1 _ hrest)

omit [DecidableLT κ] in
/-- A sorted list is what is found in it. -/
theorem Sorted.ext {first second : List (κ × α)} (hfirst : Sorted first) (hsecond : Sorted second)
    (hsame : ∀ key, find? key first = find? key second) : first = second := by
  induction first generalizing second with
  | nil =>
    cases second with
    | nil => rfl
    | cons entry rest =>
      have hfound := hsame entry.1
      rw [find?_cons, if_pos rfl] at hfound
      cases hfound
  | cons entry rest ih =>
    obtain ⟨key, value⟩ := entry
    have hkey := hsame key
    rw [find?_cons, if_pos rfl] at hkey
    cases second with
    | nil => cases hkey
    | cons entry' rest' =>
      obtain ⟨key', value'⟩ := entry'
      have hkey' := hsame key'
      rw [find?_cons key' key' value' rest', if_pos rfl] at hkey'
      -- Each of the two keys is first in its own list, and so neither is smaller.
      obtain rfl : key = key' := by
        rcases hsecond.eq_or_lt_of_find? hkey.symm with heq | hlt
        · exact heq
        · rcases hfirst.eq_or_lt_of_find? hkey' with heq | hgt
          · exact heq.symm
          · exact absurd (Std.lt_trans hlt hgt) Std.lt_irrefl
      rw [find?_cons, if_pos rfl] at hkey
      cases hkey
      have hrest : rest = rest' := by
        apply ih (List.pairwise_cons.1 hfirst).2 (List.pairwise_cons.1 hsecond).2
        intro other
        by_cases hother : key = other
        · rw [← hother, hfirst.find?_rest, hsecond.find?_rest]
        · have hboth := hsame other
          rwa [find?_cons, find?_cons, if_neg hother, if_neg hother] at hboth
      rw [hrest]

end

/-! ## Entries in any order -/

theorem lookup_eq_none_iff {key : κ} {entries : List (κ × α)} : entries.lookup key = none ↔ key ∉ entries.map (·.1) := by
  rw [List.lookup_eq_none_iff, List.mem_map]
  constructor
  · rintro hall ⟨entry, hmem, rfl⟩
    exact absurd (hall entry hmem) (by simp)
  · intro hnone entry hmem
    rw [bne_iff_ne]
    rintro rfl
    exact hnone ⟨entry, hmem, rfl⟩

/-- Where no key stands twice, what is looked up is what stands there. -/
theorem lookup_eq_some_iff {entries : List (κ × α)} (hdistinct : (entries.map (·.1)).Nodup) {key : κ} {value : α} :
    entries.lookup key = some value ↔ (key, value) ∈ entries := by
  induction entries with
  | nil => simp
  | cons entry rest ih =>
    obtain ⟨other, old⟩ := entry
    rw [List.map_cons, List.nodup_cons] at hdistinct
    rw [List.lookup_cons]
    by_cases hsame : key = other
    · subst hsame
      have hlater : (key, value) ∉ rest := fun hmem => hdistinct.1 (List.mem_map.2 ⟨_, hmem, rfl⟩)
      simp [hlater, eq_comm]
    · rw [beq_false_of_ne hsame, ih hdistinct.2, List.mem_cons]
      simp [hsame]

theorem lookup_perm {entries moved : List (κ × α)} (hdistinct : (entries.map (·.1)).Nodup) (hperm : entries.Perm moved)
    (key : κ) : entries.lookup key = moved.lookup key := by
  ext value
  rw [lookup_eq_some_iff hdistinct, lookup_eq_some_iff ((hperm.map _).nodup_iff.1 hdistinct)]
  exact hperm.mem_iff

end DebugBridge.Assoc
