import DebugBridge.Text.Decimal

/-!
# Decimal numbers and what they stand for

A number's digits stand for it, and a length that is read is what its digits stand for.
-/

namespace DebugBridge.Decimal

/-- A decimal digit. -/
def IsDecimal (c : Char) : Prop :=
  '0' ≤ c ∧ c ≤ '9'

instance (c : Char) : Decidable (IsDecimal c) :=
  inferInstanceAs (Decidable (_ ∧ _))

/-- What digits stand for behind those that stand for `value`. -/
def valueFrom (value : Nat) (text : List Char) : Nat :=
  text.foldl (fun value c => value * 10 + (c.toNat - 48)) value

/-- The lengths: digits, at least one, after an optional plus. -/
def IsLength (text : List Char) (n : Nat) : Prop :=
  ∃ digits, (text = digits ∨ text = '+' :: digits) ∧ digits ≠ [] ∧ (∀ c ∈ digits, IsDecimal c) ∧ valueFrom 0 digits = n

@[simp] theorem valueFrom_nil (value : Nat) : valueFrom value [] = value := rfl

@[simp] theorem valueFrom_cons (value : Nat) (c : Char) (text : List Char) :
    valueFrom value (c :: text) = valueFrom (value * 10 + (c.toNat - 48)) text :=
  List.foldl_cons ..

theorem valueFrom_append (value : Nat) (first second : List Char) :
    valueFrom value (first ++ second) = valueFrom (valueFrom value first) second :=
  List.foldl_append

theorem le_valueFrom (value : Nat) (text : List Char) : value ≤ valueFrom value text := by
  induction text generalizing value with
  | nil => exact Nat.le_refl _
  | cons c text ih =>
    rw [valueFrom_cons]
    have hmore := ih (value * 10 + (c.toNat - 48))
    omega

theorem digit?_of_isDecimal {c : Char} (hdigit : IsDecimal c) : digit? c = some (c.toNat - 48) := by
  exact if_pos hdigit

theorem digit?_eq_none_iff {c : Char} : digit? c = none ↔ ¬ IsDecimal c := by
  unfold digit? IsDecimal
  split <;> simp_all

/-- Digits that are read are read as what they stand for. -/
theorem readDigits_eq_ok_iff {value n : Nat} {text : List Char} (hvalue : value ≤ 18446744073709551615) :
    readDigits value text = .ok n ↔
      (∀ c ∈ text, IsDecimal c) ∧ valueFrom value text = n ∧ n ≤ 18446744073709551615 := by
  induction text generalizing value with
  | nil =>
    simp only [readDigits, Except.ok.injEq, List.not_mem_nil, false_implies, implies_true, valueFrom_nil, true_and]
    constructor
    · rintro rfl
      exact ⟨rfl, hvalue⟩
    · exact And.left
  | cons c text ih =>
    rw [readDigits]
    by_cases hdigit : IsDecimal c
    · rw [digit?_of_isDecimal hdigit]
      dsimp only
      split
      · next htooLarge =>
        constructor
        · intro h
          cases h
        · rintro ⟨-, hn, hbound⟩
          rw [valueFrom_cons] at hn
          have hmore := le_valueFrom (value * 10 + (c.toNat - 48)) text
          omega
      · next hfits =>
        rw [ih (Nat.not_lt.1 hfits), valueFrom_cons]
        simp [hdigit]
    · rw [digit?_eq_none_iff.2 hdigit]
      simp [hdigit]

theorem not_isDecimal_plus : ¬ IsDecimal '+' := by
  decide

theorem isLength_plus {digits : List Char} {n : Nat} :
    IsLength ('+' :: digits) n ↔ digits ≠ [] ∧ (∀ c ∈ digits, IsDecimal c) ∧ valueFrom 0 digits = n := by
  constructor
  · rintro ⟨others, rfl | htext, hne, hall, hn⟩
    · exact absurd (hall '+' List.mem_cons_self) not_isDecimal_plus
    · obtain rfl := (List.cons.inj htext).2
      exact ⟨hne, hall, hn⟩
  · rintro ⟨hne, hall, hn⟩
    exact ⟨digits, .inr rfl, hne, hall, hn⟩

theorem isLength_of_no_plus {text : List Char} (hplus : ∀ digits, text ≠ '+' :: digits) {n : Nat} :
    IsLength text n ↔ text ≠ [] ∧ (∀ c ∈ text, IsDecimal c) ∧ valueFrom 0 text = n := by
  constructor
  · rintro ⟨digits, rfl | htext, hne, hall, hn⟩
    · exact ⟨hne, hall, hn⟩
    · exact absurd htext (hplus digits)
  · rintro ⟨hne, hall, hn⟩
    exact ⟨text, .inl rfl, hne, hall, hn⟩

/-- A length that is read is what its digits stand for, if that is a 64-bit number. -/
theorem parseLength_eq_ok_iff {text : List Char} {n : Nat} :
    parseLength text = .ok n ↔ IsLength text n ∧ n ≤ 18446744073709551615 := by
  have hread : ∀ {digits : List Char}, readDigits 0 digits = .ok n ↔
      (∀ c ∈ digits, IsDecimal c) ∧ valueFrom 0 digits = n ∧ n ≤ 18446744073709551615 :=
    readDigits_eq_ok_iff (Nat.zero_le _)
  unfold parseLength
  split
  · rw [isLength_of_no_plus (by simp)]
    simp
  · rw [isLength_plus]
    simp
  · next rest hmore =>
    have hne : rest ≠ [] := by
      rintro rfl
      exact hmore rfl
    rw [hread, isLength_plus]
    simp [hne, and_assoc]
  · next hne _ hplus =>
    rw [hread, isLength_of_no_plus hplus]
    simp [show text ≠ [] from hne, and_assoc]

/-! ## The digits of a number -/

theorem toNat_digit : ∀ {d : Nat}, d < 10 → (Char.ofNat (48 + d)).toNat = 48 + d := by
  decide

theorem isDecimal_digit : ∀ {d : Nat}, d < 10 → IsDecimal (Char.ofNat (48 + d)) := by
  decide

theorem digits_isDecimal (n : Nat) : ∀ c ∈ digits n, IsDecimal c := by
  fun_induction digits with
  | case1 n hsmall => simpa using isDecimal_digit hsmall
  | case2 n hlarge ih =>
    intro c hc
    rcases List.mem_append.1 hc with hc | hc
    · exact ih c hc
    · obtain rfl := List.mem_singleton.1 hc
      exact isDecimal_digit (Nat.mod_lt _ (by decide))

theorem digits_ne_nil (n : Nat) : digits n ≠ [] := by
  unfold digits
  split <;> simp

/-- A number's digits stand for it. -/
theorem valueFrom_digits (n : Nat) : valueFrom 0 (digits n) = n := by
  fun_induction digits with
  | case1 n hsmall =>
    rw [valueFrom_cons, valueFrom_nil, toNat_digit hsmall]
    omega
  | case2 n hlarge ih =>
    rw [valueFrom_append, ih, valueFrom_cons, valueFrom_nil, toNat_digit (Nat.mod_lt _ (by decide))]
    omega

/-- Only zero begins with a zero. -/
theorem eq_nil_of_digits_zero {n : Nat} {more : List Char} (hdigits : digits n = '0' :: more) : more = [] := by
  induction n using digits.induct generalizing more with
  | case1 n hsmall =>
    rw [digits, if_pos hsmall] at hdigits
    exact (List.cons.inj hdigits).2.symm
  | case2 n hlarge ih =>
    rw [digits, if_neg hlarge] at hdigits
    cases hfirst : digits (n / 10) with
    | nil => exact absurd hfirst (digits_ne_nil _)
    | cons c others =>
      rw [hfirst, List.cons_append] at hdigits
      obtain ⟨rfl, -⟩ := List.cons.inj hdigits
      obtain rfl := ih hfirst
      have hzero := valueFrom_digits (n / 10)
      rw [hfirst] at hzero
      have hvalue : valueFrom 0 ['0'] = 0 := by decide
      omega

theorem length_digits_le {n : Nat} : ∀ {k : Nat}, n < Nat.pow 10 (k + 1) → (digits n).length ≤ k + 1 := by
  fun_induction digits with
  | case1 n hsmall =>
    intro k _
    exact Nat.succ_le_succ (Nat.zero_le k)
  | case2 n hlarge ih =>
    intro k hk
    cases k with
    | zero => exact absurd hk hlarge
    | succ k =>
      have hten : n < Nat.pow 10 (k + 1) * 10 := hk
      rw [List.length_append, List.length_singleton]
      exact Nat.succ_le_succ (ih (Nat.div_lt_of_lt_mul (Nat.mul_comm _ _ ▸ hten)))

theorem toNat_of_isDecimal {c : Char} (hdigit : IsDecimal c) : 48 ≤ c.toNat ∧ c.toNat < 58 :=
  ⟨UInt32.le_iff_toNat_le.1 hdigit.1, Nat.lt_succ_of_le (UInt32.le_iff_toNat_le.1 hdigit.2)⟩

/-- A number's digits are read as that number. -/
theorem parseLength_digits {n : Nat} (hn : n ≤ 18446744073709551615) : parseLength (digits n) = .ok n :=
  parseLength_eq_ok_iff.2 ⟨⟨digits n, .inl rfl, digits_ne_nil n, digits_isDecimal n, valueFrom_digits n⟩, hn⟩

end DebugBridge.Decimal
