import DebugBridge.Text.Utf8

/-!
# Base-128 numbers

A number is written in groups of seven bits, low groups first, one to a byte; every byte but the last has its
high bit set. A 64-bit number needs at most ten bytes, and the tenth holds its last bit alone. Zero groups at
the end are accepted, so a number has several spellings, of which `write` chooses the shortest.
-/

namespace DebugBridge.Wire.Varint

/-- The most bytes that a 64-bit number takes. -/
def maxLength : Nat := 10

/-- The groups of `n`, with at most `more` bytes before the last. -/
def groups : Nat → Nat → Bytes
  | 0, n => [UInt8.ofNat n]
  | more + 1, n =>
    if n < 128 then [UInt8.ofNat n] else UInt8.ofNat (n % 128 + 128) :: groups more (n / 128)

/-- The shortest spelling of a number. -/
def write (n : UInt64) : Bytes :=
  groups (maxLength - 1) n.toNat

/-- Whether another byte follows this one. -/
def continues (byte : UInt8) : Bool :=
  128 ≤ byte

/-- Reads a number of at most `left` bytes; the last of them may hold no more than one bit. -/
def readGroups : Nat → Bytes → Option (Nat × Bytes)
  | 0, _ => none
  | _ + 1, [] => none
  | left + 1, byte :: rest =>
    if continues byte then
      (readGroups left rest).map fun (high, rest) => (byte.toNat - 128 + 128 * high, rest)
    else if left = 0 ∧ 1 < byte then none
    else some (byte.toNat, rest)

/-- Reads one number from the front: none when the bytes run out, when the tenth byte still continues, and
when it holds more than the last bit. -/
def read? (bytes : Bytes) : Option (UInt64 × Bytes) :=
  (readGroups maxLength bytes).map fun (n, rest) => (UInt64.ofNat n, rest)

end DebugBridge.Wire.Varint
