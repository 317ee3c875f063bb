/-!
# Text as bytes

Byte strings are lists, so that programs on them recurse on the data. Text crosses the boundary through
UTF-8: every string has its bytes, and a byte string that is no UTF-8 has no text.
-/

namespace DebugBridge

/-- A byte string. -/
abbrev Bytes := List UInt8

namespace Utf8

/-- The UTF-8 form of a text. -/
def encode (text : String) : Bytes :=
  text.toUTF8.data.toList

/-- The text that has these bytes as its UTF-8 form, if there is one. -/
def decode? (bytes : Bytes) : Option String :=
  String.fromUTF8? ⟨bytes.toArray⟩

/-- Reading back what was written gives the text itself. -/
theorem decode?_encode (text : String) : decode? (encode text) = some text := by
  have same : (⟨(encode text).toArray⟩ : ByteArray) = text.toByteArray := by
    simp [encode, String.toUTF8_eq_toByteArray]
  rw [decode?, same, String.fromUTF8?, dif_pos text.isValidUTF8]
  rfl

end Utf8

end DebugBridge
