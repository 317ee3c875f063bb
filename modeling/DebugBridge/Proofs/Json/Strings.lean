import DebugBridge.Json.Parser
import DebugBridge.Json.Printer
import DebugBridge.Proofs.Text.Ascii

/-!
# JSON strings read back

Each byte of a string is written as itself or as an escape, and read back as the same byte. So a string is read back as what
it was, whatever text it is.
-/

namespace DebugBridge.Json

theorem hexValue?_hexDigit : ∀ n < 16, hexValue? (hexDigit n) = some n := by
  decide

/-- A control character that is escaped by its number. -/
theorem escape_control {byte : UInt8} (hcontrol : byte < 0x20) (rest : Bytes) :
    escape (0x75 :: 0x30 :: 0x30 :: hexDigit (byte.toNat / 16) :: hexDigit (byte.toNat % 16) :: rest)
      = .ok (Char.ofNat byte.toNat, rest) := by
  have hbyte : byte.toNat < 32 := hcontrol
  have hhigh := hexValue?_hexDigit (byte.toNat / 16) (by omega)
  have hlow := hexValue?_hexDigit (byte.toNat % 16) (by omega)
  have hzero : hexValue? 0x30 = some 0 := by decide
  have hsum : ((0 * 16 + 0) * 16 + byte.toNat / 16) * 16 + byte.toNat % 16 = byte.toNat := by omega
  have hunit : hexFour (0x30 :: 0x30 :: hexDigit (byte.toNat / 16) :: hexDigit (byte.toNat % 16) :: rest)
      = .ok (byte.toNat, rest) := by
    simp only [hexFour, hzero, hhigh, hlow, hsum]
  have hplain : byte.toNat < 0xD800 ∨ 0xDFFF < byte.toNat := .inl (by omega)
  simp [escape, unicodeEscape, hunit, hplain, show ¬ (0xDC00 ≤ byte.toNat ∧ byte.toNat ≤ 0xDFFF) by omega, bind,
    Except.bind, pure, Except.pure]

/-- A byte is written as itself, or as an escape that is read as the character of this number. -/
theorem escapeByte_cases (byte : UInt8) :
    (escapeByte byte = [byte] ∧ byte ≠ 0x22 ∧ byte ≠ 0x5C ∧ ¬ byte < 0x20) ∨
      ∃ letters, escapeByte byte = 0x5C :: letters ∧ byte.toNat < 128 ∧
        ∀ rest, escape (letters ++ rest) = .ok (Char.ofNat byte.toNat, rest) := by
  by_cases hletter : byte ∈ [0x22, 0x5C, 0x08, 0x0C, 0x0A, 0x0D, 0x09]
  · simp only [List.mem_cons, List.not_mem_nil, or_false] at hletter
    rcases hletter with rfl | rfl | rfl | rfl | rfl | rfl | rfl <;>
      exact .inr ⟨[_], rfl, by decide, fun rest => rfl⟩
  · simp only [List.mem_cons, List.not_mem_nil, or_false, not_or] at hletter
    by_cases hcontrol : byte < 0x20
    · have hbyte : byte.toNat < 32 := hcontrol
      refine .inr ⟨[0x75, 0x30, 0x30, _, _], ?_, by omega, escape_control hcontrol⟩
      simp only [escapeByte, hletter, hcontrol, if_true, if_false]
    · refine .inl ⟨?_, hletter.1, hletter.2.1, hcontrol⟩
      simp only [escapeByte, hletter, hcontrol, if_false]

/-- What a byte is written as is read as that byte. -/
theorem stringFrom_escapeByte (most : Nat) (done : Bytes) (byte : UInt8) (rest : Bytes) :
    stringFrom (most + 1) done (escapeByte byte ++ rest) = stringFrom most (byte :: done) rest := by
  rcases escapeByte_cases byte with ⟨heq, hquote, hslash, hplain⟩ | ⟨letters, heq, hascii, hescape⟩
  · rw [heq, List.singleton_append, stringFrom, if_neg hquote, if_neg hslash, if_neg hplain]
  · have htoNat : (Char.ofNat byte.toNat).toNat = byte.toNat := by
      rw [Char.ofNat, dif_pos (.inl (by omega))]
      rfl
    -- An escape stands for an ASCII character, which is one byte.
    have hchar : Utf8.encode (Char.ofNat byte.toNat).toString = [byte] := by
      rw [Utf8.encode_toString (by omega), htoNat, UInt8.ofNat_toNat]
    rw [heq, List.cons_append, stringFrom, if_neg (by decide), if_pos rfl, hescape]
    dsimp only
    rw [hchar]
    rfl

/-- The bytes of a string, written one after another, are read back. -/
theorem stringFrom_escaped {text : String} {most : Nat} (done bytes rest : Bytes)
    (htext : done.reverse ++ bytes = Utf8.encode text) (hmost : bytes.length < most) :
    stringFrom most done (bytes.flatMap escapeByte ++ 0x22 :: rest) = .ok (text, rest) := by
  induction bytes generalizing done most with
  | nil =>
    obtain ⟨most, rfl⟩ : ∃ less, most = less + 1 := ⟨most - 1, by omega⟩
    rw [List.append_nil] at htext
    simp [stringFrom, htext, Utf8.decode?_encode]
  | cons byte bytes ih =>
    obtain ⟨most, rfl⟩ : ∃ less, most = less + 1 := ⟨most - 1, by omega⟩
    rw [List.flatMap_cons, List.append_assoc, stringFrom_escapeByte]
    exact ih (byte :: done) (by simpa using htext) (Nat.lt_of_succ_lt_succ hmost)

theorem length_le_escaped (bytes : Bytes) : bytes.length ≤ (bytes.flatMap escapeByte).length := by
  induction bytes with
  | nil => exact Nat.le_refl _
  | cons byte bytes ih =>
    have hone : 1 ≤ (escapeByte byte).length := by
      rcases escapeByte_cases byte with ⟨heq, -⟩ | ⟨letters, heq, -⟩ <;> simp [heq]
    rw [List.flatMap_cons, List.length_append, List.length_cons]
    omega

/-- A string that was written is read back. -/
theorem stringAfterQuote_encodeString (text : String) (rest : Bytes) :
    stringAfterQuote ((encodeString text).tail ++ rest) = .ok (text, rest) := by
  have hlength := length_le_escaped (Utf8.encode text)
  rw [encodeString, List.tail_cons, List.append_assoc, List.singleton_append, stringAfterQuote]
  refine stringFrom_escaped [] (Utf8.encode text) rest (by simp) ?_
  rw [List.length_append]
  omega

end DebugBridge.Json
