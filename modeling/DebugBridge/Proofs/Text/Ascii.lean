import DebugBridge.Text.Utf8

/-!
# ASCII text as bytes

A text of ASCII characters has a byte for each.
-/

namespace DebugBridge.Utf8

theorem encode_append (first second : String) : encode (first ++ second) = encode first ++ encode second := by
  simp [encode, String.toUTF8_eq_toByteArray, String.toByteArray_append]

theorem encode_char : ∀ n < 128, encode (Char.ofNat n).toString = [UInt8.ofNat n] := by
  decide +kernel

theorem encode_toString {c : Char} (hascii : c.toNat < 128) : encode c.toString = [UInt8.ofNat c.toNat] := by
  have hchar := encode_char c.toNat hascii
  rwa [Char.ofNat_toNat] at hchar

theorem encode_ofList {text : List Char} (hascii : ∀ c ∈ text, c.toNat < 128) :
    encode (String.ofList text) = text.map fun c => UInt8.ofNat c.toNat := by
  induction text with
  | nil => rfl
  | cons c text ih =>
    have hcons : String.ofList (c :: text) = c.toString ++ String.ofList text := by
      rw [← String.toList_inj]
      simp [Char.toString]
    rw [hcons, encode_append, encode_toString (hascii c List.mem_cons_self),
      ih fun c hc => hascii c (List.mem_cons_of_mem _ hc)]
    rfl

end DebugBridge.Utf8
