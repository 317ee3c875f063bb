import DebugBridge.Json.Parser
import DebugBridge.Json.Printer
import DebugBridge.Proofs.Text.Decimal

/-!
# JSON integers read back

An integer is written in digits, after a minus if it is negative, and read back as what it was if it has 64 bits, signed or
not, and nothing follows that would go on with the number.
-/

namespace DebugBridge.Json

open Decimal (digits IsDecimal valueFrom)

/-- What may follow a number without going on with it. -/
def EndsNumber (rest : Bytes) : Prop :=
  ∀ byte ∈ rest.head?, digitValue? byte = none ∧ byte ≠ 0x2E ∧ byte ≠ 0x65 ∧ byte ≠ 0x45

/-- Digits as bytes. -/
def digitBytes (text : List Char) : Bytes :=
  text.map fun c => UInt8.ofNat c.toNat

theorem digitValue?_ofNat : ∀ n < 58, 48 ≤ n → digitValue? (UInt8.ofNat n) = some (n - 48) := by
  decide

theorem digitValue?_of_isDecimal {c : Char} (hdigit : IsDecimal c) :
    digitValue? (UInt8.ofNat c.toNat) = some (c.toNat - 48) :=
  digitValue?_ofNat c.toNat (Decimal.toNat_of_isDecimal hdigit).2 (Decimal.toNat_of_isDecimal hdigit).1

/-- Digits are taken to their end, if what they stand for is within the bound. -/
theorem takeDigits_digitBytes {bound value : Nat} {text : List Char} (count : Nat) {rest : Bytes}
    (htext : ∀ c ∈ text, IsDecimal c) (hbound : valueFrom value text ≤ bound) (hrest : EndsNumber rest) :
    takeDigits bound value count (digitBytes text ++ rest) = (valueFrom value text, count + text.length, rest) := by
  induction text generalizing value count with
  | nil =>
    cases rest with
    | nil => rfl
    | cons byte rest =>
      have hbyte := (hrest byte rfl).1
      simp [digitBytes, takeDigits, hbyte]
  | cons c text ih =>
    have hvalue := digitValue?_of_isDecimal (htext c List.mem_cons_self)
    have hmore := Decimal.le_valueFrom (value * 10 + (c.toNat - 48)) text
    rw [Decimal.valueFrom_cons] at hbound ⊢
    rw [digitBytes, List.map_cons, List.cons_append, takeDigits, hvalue]
    dsimp only
    rw [if_neg (by omega), List.length_cons, Nat.add_comm text.length, ← Nat.add_assoc]
    exact ih (count + 1) (fun c hc => htext c (List.mem_cons_of_mem _ hc)) hbound

theorem EndsNumber.head {rest : Bytes} (hrest : EndsNumber rest) : rest.head?.any isDigitByte = false := by
  cases rest with
  | nil => rfl
  | cons byte rest => simp [isDigitByte, (hrest byte rfl).1]

theorem EndsNumber.takeWhile {rest : Bytes} (hrest : EndsNumber rest) : rest.takeWhile isDigitByte = [] := by
  cases rest with
  | nil => rfl
  | cons byte rest => simp [isDigitByte, (hrest byte rfl).1]

theorem EndsNumber.dropWhile {rest : Bytes} (hrest : EndsNumber rest) : rest.dropWhile isDigitByte = rest := by
  cases rest with
  | nil => rfl
  | cons byte rest => simp [isDigitByte, (hrest byte rfl).1]

/-- A number that begins with a zero ends with it. -/
theorem noLeadingZero {n : Nat} {c : Char} {more : List Char} {rest : Bytes} (hdigits : digits n = c :: more)
    (hrest : EndsNumber rest) :
    (UInt8.ofNat c.toNat = 0x30 && (digitBytes more ++ rest).head?.any isDigitByte) = false := by
  by_cases hzero : UInt8.ofNat c.toNat = 0x30
  · obtain ⟨hlow, hhigh⟩ := Decimal.toNat_of_isDecimal (Decimal.digits_isDecimal n c (hdigits ▸ List.mem_cons_self))
    have hc : c = '0' := by
      have htoNat := congrArg UInt8.toNat hzero
      rw [UInt8.toNat_ofNat', Nat.mod_eq_of_lt (by omega)] at htoNat
      rw [← Char.ofNat_toNat c, htoNat]
      rfl
    subst hc
    obtain rfl := Decimal.eq_nil_of_digits_zero hdigits
    rw [digitBytes, List.map_nil, List.nil_append, hrest.head, Bool.and_false]
  · simp [hzero]

/-- The digits of a number are read as that number. -/
theorem number_digits {negative : Bool} {n : Nat} {rest : Bytes} (hn : n ≤ maxSignificand) (hrest : EndsNumber rest) :
    number negative (digitBytes (digits n) ++ rest) =
      if !negative then .ok (.int n, rest)
      else if n = 0 ∨ 9223372036854775808 < n then .ok (.float (-(UInt64.ofNat n).toFloat).toBits, rest)
      else .ok (.int (-n), rest) := by
  have hall := Decimal.digits_isDecimal n
  have htake : takeDigits maxSignificand 0 0 (digitBytes (digits n) ++ rest) = (n, 0 + (digits n).length, rest) := by
    have hvalue : Decimal.valueFrom 0 (digits n) ≤ maxSignificand := by
      rw [Decimal.valueFrom_digits]
      exact hn
    have htaken := takeDigits_digitBytes 0 hall hvalue hrest
    rwa [Decimal.valueFrom_digits] at htaken
  cases hdigits : digits n with
  | nil => exact absurd hdigits (Decimal.digits_ne_nil n)
  | cons c more =>
    rw [hdigits] at hall htake
    have hfirst : isDigitByte (UInt8.ofNat c.toNat) = true := by
      rw [isDigitByte, digitValue?_of_isDecimal (hall c List.mem_cons_self)]
      rfl
    have hcons : digitBytes (c :: more) ++ rest = UInt8.ofNat c.toNat :: (digitBytes more ++ rest) := rfl
    rw [hcons] at htake ⊢
    rw [number, htake]
    dsimp only
    rw [hfirst, noLeadingZero hdigits hrest, hrest.takeWhile, hrest.dropWhile]
    -- What follows begins no fraction and no exponent.
    cases rest with
    | nil => rfl
    | cons byte rest =>
      obtain ⟨-, hpoint, hsmall, hlarge⟩ := hrest byte rfl
      simp [hpoint, hsmall, hlarge]

/-- The integers of 64 bits, signed or not. -/
def Is64Bit (n : Int) : Prop :=
  -9223372036854775808 ≤ n ∧ n ≤ 18446744073709551615

instance (n : Int) : Decidable (Is64Bit n) :=
  inferInstanceAs (Decidable (_ ∧ _))

/-- An integer that was written begins with a digit or a minus. -/
theorem encodeInt_cases (n : Int) :
    (0 ≤ n ∧ encodeInt n = digitBytes (digits n.toNat)) ∨
    (n < 0 ∧ encodeInt n = 0x2D :: digitBytes (digits n.natAbs)) := by
  unfold encodeInt
  by_cases hneg : n < 0
  · exact .inr ⟨hneg, if_pos hneg⟩
  · refine .inl ⟨Int.not_lt.1 hneg, ?_⟩
    rw [show n.toNat = n.natAbs by omega]
    exact if_neg hneg

end DebugBridge.Json
