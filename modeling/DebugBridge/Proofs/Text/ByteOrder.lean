import Mathlib.Tactic.SplitIfs
import DebugBridge.Text.Utf8

/-!
# The order of texts

Texts are compared character by character. Their UTF-8 forms, compared byte by byte, come in the same order: of two
characters the smaller one has the smaller form, and where one form ends the other cannot go on.
-/

namespace DebugBridge.Utf8

/-! ## One character -/

theorem ofNat_lt_ofNat {m n : Nat} (hm : m < 256) (hn : n < 256) : UInt8.ofNat m < UInt8.ofNat n ↔ m < n := by
  rw [UInt8.lt_iff_toNat_lt, UInt8.toNat_ofNat_of_lt' hm, UInt8.toNat_ofNat_of_lt' hn]

theorem ofNat_eq_ofNat {m n : Nat} (hm : m < 256) (hn : n < 256) : UInt8.ofNat m = UInt8.ofNat n ↔ m = n := by
  rw [← UInt8.toNat_inj, UInt8.toNat_ofNat_of_lt' hm, UInt8.toNat_ofNat_of_lt' hn]

/-- The forms of two characters are told apart before either ends. -/
theorem encodeChar_lt {c d : Char} (hlt : c.toNat < d.toNat) (first second : Bytes) :
    String.utf8EncodeChar c ++ first < String.utf8EncodeChar d ++ second := by
  have hc : c.val.toNat < d.val.toNat := hlt
  have hmax : d.val.toNat < 1114112 := by
    have hvalid := d.valid
    rcases hvalid with h | h
    · exact Nat.lt_trans h (by decide)
    · exact h.2
  unfold String.utf8EncodeChar
  generalize c.val.toNat = m at hc
  generalize d.val.toNat = n at hc hmax
  dsimp only
  have hgroups : ∀ k < 1114112, k / 64 / 64 = k / 4096 ∧ k / 4096 / 64 = k / 262144 ∧ k / 262144 % 8 = k / 262144 :=
    fun k hk => ⟨Nat.div_div_eq_div_mul .., Nat.div_div_eq_div_mul .., Nat.mod_eq_of_lt (by omega)⟩
  have hm := hgroups m (by omega)
  have hn := hgroups n hmax
  -- The leading byte tells how many follow, and more for a larger character; among forms of one length the groups of
  -- the numbers decide.
  split_ifs <;> simp (disch := omega) only [List.cons_append, List.nil_append, List.cons_lt_cons_iff, ofNat_lt_ofNat,
    ofNat_eq_ofNat] <;> omega

theorem encodeChar_ne_nil (c : Char) : String.utf8EncodeChar c ≠ [] := by
  unfold String.utf8EncodeChar
  dsimp only
  split_ifs <;> exact List.cons_ne_nil _ _

/-! ## Texts -/

theorem encode_eq_flatMap (text : String) : encode text = text.toList.flatMap String.utf8EncodeChar := by
  have hlist : text.toByteArray = text.toList.utf8Encode := by
    rw [← String.toByteArray_ofList, String.ofList_toList]
  unfold encode
  rw [String.toUTF8_eq_toByteArray, hlist, List.utf8Encode]
  simp

theorem append_lt_append {first second : Bytes} (start : Bytes) (hlt : first < second) :
    start ++ first < start ++ second := by
  induction start with
  | nil => exact hlt
  | cons byte start ih => exact List.cons_lt_cons_iff.2 (.inr ⟨rfl, ih⟩)

theorem flatMap_lt {cs ds : List Char} (hlt : cs < ds) :
    cs.flatMap String.utf8EncodeChar < ds.flatMap String.utf8EncodeChar := by
  induction cs generalizing ds with
  | nil =>
    cases ds with
    | nil => exact absurd hlt (List.lt_irrefl [])
    | cons d ds =>
      rw [List.flatMap_cons, List.flatMap_nil]
      cases hform : String.utf8EncodeChar d with
      | nil => exact absurd hform (encodeChar_ne_nil d)
      | cons byte bytes => exact List.nil_lt_cons _ _
  | cons c cs ih =>
    cases ds with
    | nil => exact absurd hlt (List.not_lt_nil _)
    | cons d ds =>
      rw [List.flatMap_cons, List.flatMap_cons]
      rcases List.cons_lt_cons_iff.1 hlt with hchar | ⟨rfl, hrest⟩
      · exact encodeChar_lt hchar _ _
      · exact append_lt_append _ (ih hrest)

/-- A text that comes before another one does so byte by byte. -/
theorem encode_lt_encode {first second : String} (hlt : first < second) : encode first < encode second := by
  rw [encode_eq_flatMap, encode_eq_flatMap]
  exact flatMap_lt (String.lt_iff.1 hlt)

end DebugBridge.Utf8
