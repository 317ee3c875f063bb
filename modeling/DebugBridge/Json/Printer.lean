import DebugBridge.Json.Value

/-!
# Writing JSON

The compact form, without blanks. In a string the quote, the backslash and the control characters are escaped,
the latter by a letter where there is one; everything else stands for itself, in UTF-8.
-/

namespace DebugBridge.Json

/-- A digit in base 16, lower case. -/
def hexDigit (n : Nat) : UInt8 :=
  UInt8.ofNat (if n < 10 then 48 + n else 87 + n)

/-- One byte of a string. -/
def escapeByte (byte : UInt8) : Bytes :=
  if byte = 0x22 then [0x5C, 0x22]
  else if byte = 0x5C then [0x5C, 0x5C]
  else if byte = 0x08 then [0x5C, 0x62]
  else if byte = 0x0C then [0x5C, 0x66]
  else if byte = 0x0A then [0x5C, 0x6E]
  else if byte = 0x0D then [0x5C, 0x72]
  else if byte = 0x09 then [0x5C, 0x74]
  else if byte < 0x20 then [0x5C, 0x75, 0x30, 0x30, hexDigit (byte.toNat / 16), hexDigit (byte.toNat % 16)]
  else [byte]

/-- A string between its quotes. -/
def encodeString (text : String) : Bytes :=
  0x22 :: ((Utf8.encode text).flatMap escapeByte ++ [0x22])

/-- An integer in decimal. -/
def encodeInt (n : Int) : Bytes :=
  let magnitude := (Decimal.digits n.natAbs).map fun c => UInt8.ofNat c.toNat
  if n < 0 then 0x2D :: magnitude else magnitude

mutual

/-- The bytes of a value. -/
def encode : Json → Bytes
  | null => [0x6E, 0x75, 0x6C, 0x6C]
  | bool true => [0x74, 0x72, 0x75, 0x65]
  | bool false => [0x66, 0x61, 0x6C, 0x73, 0x65]
  | int n => encodeInt n
  | float bits => Utf8.encode (floatLayout.text bits)
  | string text => encodeString text
  | array items => 0x5B :: (encodeItems items ++ [0x5D])
  | object members => 0x7B :: (encodeMembers members ++ [0x7D])

/-- Values with commas between them. -/
def encodeItems : List Json → Bytes
  | [] => []
  | [item] => encode item
  | item :: rest => encode item ++ 0x2C :: encodeItems rest

/-- Named values with commas between them. -/
def encodeMembers : List (String × Json) → Bytes
  | [] => []
  | [(name, value)] => encodeString name ++ 0x3A :: encode value
  | (name, value) :: rest => encodeString name ++ 0x3A :: encode value ++ 0x2C :: encodeMembers rest

end

end DebugBridge.Json
