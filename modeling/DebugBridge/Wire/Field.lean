import DebugBridge.Wire.Varint

/-!
# Tagged fields

A message is a run of fields. A field is a key, which holds a tag and the wire type of the contents, and then
the contents. Writing leaves out a field at its default and puts the fields in the order of their tags. Reading
takes fields in any order, and its bytes are all that is left of the outermost message: a length is checked
against these, and only after the fields of an inner message are read is it seen whether they went past its end.

`Layout` says which fields a message type declares; `Layout.merge` reads fields into a value. A tag that is not
declared is skipped by its wire type.
-/

namespace DebugBridge.Wire

/-- How the contents of a field are laid out. -/
inductive WireType where
  | varint
  | sixtyFourBit
  | lengthDelimited
  | startGroup
  | endGroup
  | thirtyTwoBit
  deriving DecidableEq, Repr

namespace WireType

/-- The three low bits of a key. -/
def code : WireType → Nat
  | varint => 0
  | sixtyFourBit => 1
  | lengthDelimited => 2
  | startGroup => 3
  | endGroup => 4
  | thirtyTwoBit => 5

def ofCode? : Nat → Option WireType
  | 0 => some varint
  | 1 => some sixtyFourBit
  | 2 => some lengthDelimited
  | 3 => some startGroup
  | 4 => some endGroup
  | 5 => some thirtyTwoBit
  | _ => none

theorem ofCode?_code (type : WireType) : ofCode? type.code = some type := by
  cases type <;> rfl

/-- The name that error texts use. -/
def name : WireType → String
  | varint => "Varint"
  | sixtyFourBit => "SixtyFourBit"
  | lengthDelimited => "LengthDelimited"
  | startGroup => "StartGroup"
  | endGroup => "EndGroup"
  | thirtyTwoBit => "ThirtyTwoBit"

end WireType

/-! ## What can be wrong with a message -/

/-- Why reading a field stopped. -/
inductive Fault where
  | invalidVarint
  | keyTooLarge (key : UInt64)
  | unknownWireType (code : Nat)
  | zeroTag
  | wrongWireType (actual expected : WireType)
  | underflow
  | pastEnd
  | notUtf8
  | strayGroupEnd
  | tooDeep
  deriving DecidableEq, Repr

def Fault.message : Fault → String
  | invalidVarint => "invalid varint"
  | keyTooLarge key => s!"invalid key value: {key}"
  | unknownWireType code => s!"invalid wire type value: {code}"
  | zeroTag => "invalid tag value: 0"
  | wrongWireType actual expected =>
    s!"invalid wire type: {actual.name} (expected {expected.name})"
  | underflow => "buffer underflow"
  | pastEnd => "delimited length exceeded"
  | notUtf8 => "invalid string value: data is not UTF-8 encoded"
  | strayGroupEnd => "unexpected end group tag"
  | tooDeep => "recursion limit reached"

/-- A declared field, as error texts name it. -/
structure Label where
  message : String
  field : String
  deriving DecidableEq, Repr

/-- A fault and the fields around it, the innermost first. -/
structure DecodeError where
  fault : Fault
  path : List Label := []
  deriving DecidableEq, Repr

namespace DecodeError

/-- The error as seen from one field further out. -/
def within (label : Label) (error : DecodeError) : DecodeError :=
  { error with path := error.path ++ [label] }

def message (error : DecodeError) : String :=
  "failed to decode Protobuf message: "
    ++ String.join (error.path.map fun label => s!"{label.message}.{label.field}: ")
    ++ error.fault.message

end DecodeError

/-! ## Keys and plain contents -/

/-- The head of a field. -/
structure Key where
  tag : Nat
  type : WireType
  deriving DecidableEq, Repr

/-- Reads a number. -/
def readVarint (bytes : Bytes) : Except DecodeError (UInt64 × Bytes) :=
  match Varint.read? bytes with
  | some read => .ok read
  | none => .error { fault := .invalidVarint }

namespace Key

def write (key : Key) : Bytes :=
  Varint.write (UInt64.ofNat (key.tag * 8 + key.type.code))

/-- Reads a key. One that does not fit in 32 bits is refused before its wire type is looked at, and that before
its tag. -/
def read (bytes : Bytes) : Except DecodeError (Key × Bytes) := do
  let (key, rest) ← readVarint bytes
  if 4294967295 < key then
    throw { fault := .keyTooLarge key }
  let some type := WireType.ofCode? (key.toNat % 8)
    | throw { fault := .unknownWireType (key.toNat % 8) }
  if key.toNat / 8 = 0 then
    throw { fault := .zeroTag }
  return (⟨key.toNat / 8, type⟩, rest)

end Key

/-- Refuses contents of another wire type than the declared one. -/
def expect (expected actual : WireType) : Except DecodeError Unit :=
  if actual = expected then .ok () else .error { fault := .wrongWireType actual expected }

/-- Splits off the first `length` bytes, when there are that many. -/
def split (length : Nat) (bytes : Bytes) : Except DecodeError (Bytes × Bytes) :=
  if length ≤ bytes.length then .ok (bytes.take length, bytes.drop length)
  else .error { fault := .underflow }

/-! ## Skipping -/

/-- Skips the fields of a group up to its end, which carries the group's own tag. `skipField` skips one inner
field, and at most `most` are taken. -/
def skipGroup (skipField : Key → Bytes → Except DecodeError Bytes) (tag : Nat) :
    Nat → Bytes → Except DecodeError Bytes
  | 0, _ => .error { fault := .invalidVarint }
  | most + 1, bytes => do
    let (key, rest) ← Key.read bytes
    if key.type = .endGroup then
      if key.tag = tag then return rest else throw { fault := .strayGroupEnd }
    let rest ← skipField key rest
    skipGroup skipField tag most rest

/-- Skips the contents of an undeclared field. Every group takes one from the budget of its inner fields. A key
takes at least a byte, so a group has no more fields than bytes. -/
def skip : Nat → Key → Bytes → Except DecodeError Bytes
  | 0, _, _ => .error { fault := .tooDeep }
  | budget + 1, key, bytes =>
    match key.type with
    | .varint => do
      let (_, rest) ← readVarint bytes
      return rest
    | .thirtyTwoBit => do
      let (_, rest) ← split 4 bytes
      return rest
    | .sixtyFourBit => do
      let (_, rest) ← split 8 bytes
      return rest
    | .lengthDelimited => do
      let (length, rest) ← readVarint bytes
      let (_, rest) ← split length.toNat rest
      return rest
    | .startGroup => skipGroup (skip budget) key.tag (bytes.length + 1) bytes
    | .endGroup => .error { fault := .strayGroupEnd }

/-! ## Layouts -/

/-- How the contents of one declared field change a value: given their wire type, the recursion budget, the
value so far and the bytes from the contents on. -/
structure Field (α : Type) where
  label : Label
  read : WireType → Nat → α → Bytes → Except DecodeError (α × Bytes)

/-- The fields that a message type declares, by tag, and the value of a message without any. -/
structure Layout (α : Type) where
  empty : α
  field : Nat → Option (Field α)

namespace Layout

/-- Reads one field into a value. -/
def mergeField (layout : Layout α) (budget : Nat) (value : α) (bytes : Bytes) : Except DecodeError (α × Bytes) := do
  let (key, rest) ← Key.read bytes
  match layout.field key.tag with
  | none => do
    let rest ← skip budget key rest
    return (value, rest)
  | some field => (field.read key.type budget value rest).mapError (·.within field.label)

/-- Reads fields, at most `most`, until no more than `stop` bytes are left. -/
def mergeUntil (layout : Layout α) (budget stop : Nat) : Nat → α → Bytes → Except DecodeError (α × Bytes)
  | 0, value, bytes => .ok (value, bytes)
  | most + 1, value, bytes =>
    if bytes.length ≤ stop then .ok (value, bytes)
    else do
      let (value, rest) ← layout.mergeField budget value bytes
      mergeUntil layout budget stop most value rest

/-- Reads a whole run of fields into a value; there are no more fields than bytes. -/
def merge (layout : Layout α) (budget stop : Nat) (value : α) (bytes : Bytes) : Except DecodeError (α × Bytes) :=
  layout.mergeUntil budget stop bytes.length value bytes

/-- How deep messages and skipped groups may nest. -/
def maxDepth : Nat := 100

/-- Reads a message that is all of the bytes. -/
def decode (layout : Layout α) (bytes : Bytes) : Except DecodeError α := do
  let (value, _) ← layout.merge maxDepth 0 layout.empty bytes
  return value

/-- Reads an inner message into a value: a length, then fields until that many bytes are gone. It is an error
when the last field went further. -/
def mergeDelimited (layout : Layout α) (type : WireType) (budget : Nat) (value : α) (bytes : Bytes) : Except DecodeError (α × Bytes) := do
  expect .lengthDelimited type
  match budget with
  | 0 => throw { fault := .tooDeep }
  | budget + 1 => do
    let (length, rest) ← readVarint bytes
    if rest.length < length.toNat then
      throw { fault := .underflow }
    let stop := rest.length - length.toNat
    let (value, rest) ← layout.merge budget stop value rest
    if rest.length ≠ stop then
      throw { fault := .pastEnd }
    return (value, rest)

end Layout

/-! ## Fields of each kind

A number, truth value or text seen again replaces the earlier one; an inner message seen again is merged into
it; a repeated message is appended. -/

namespace Field

/-- A field whose contents are a number. -/
def varint (label : Label) (set : α → UInt64 → α) : Field α where
  label
  read type _ value bytes := do
    expect .varint type
    let (n, rest) ← readVarint bytes
    return (set value n, rest)

def uint64 (label : Label) (set : α → UInt64 → α) : Field α :=
  varint label set

def int64 (label : Label) (set : α → Int64 → α) : Field α :=
  varint label fun value n => set value n.toInt64

/-- The low 32 bits of the number; values of an enumeration are read likewise, known or not. -/
def int32 (label : Label) (set : α → Int32 → α) : Field α :=
  varint label fun value n => set value n.toUInt32.toInt32

/-- Any number but zero is true. -/
def bool (label : Label) (set : α → Bool → α) : Field α :=
  varint label fun value n => set value (n != 0)

def string (label : Label) (set : α → String → α) : Field α where
  label
  read type _ value bytes := do
    expect .lengthDelimited type
    let (length, rest) ← readVarint bytes
    let (contents, rest) ← split length.toNat rest
    match Utf8.decode? contents with
    | some text => return (set value text, rest)
    | none => throw { fault := .notUtf8 }

/-- An inner message, merged into what `get` finds. -/
def message (label : Label) (layout : Layout β) (get : α → Option β) (set : α → β → α) : Field α where
  label
  read type budget value bytes := do
    let (inner, rest) ← layout.mergeDelimited type budget ((get value).getD layout.empty) bytes
    return (set value inner, rest)

/-- One more element of a list of inner messages. -/
def repeated (label : Label) (layout : Layout β) (get : α → List β) (set : α → List β → α) : Field α where
  label
  read type budget value bytes := do
    let (inner, rest) ← layout.mergeDelimited type budget layout.empty bytes
    return (set value (get value ++ [inner]), rest)

end Field

/-! ## Writing fields -/

/-- A number, unless it is zero. -/
def writeUInt64 (tag : Nat) (n : UInt64) : Bytes :=
  if n = 0 then [] else Key.write ⟨tag, .varint⟩ ++ Varint.write n

def writeInt64 (tag : Nat) (n : Int64) : Bytes :=
  writeUInt64 tag n.toUInt64

/-- Widened with its sign, so a negative number takes ten bytes. -/
def writeInt32 (tag : Nat) (n : Int32) : Bytes :=
  writeUInt64 tag n.toInt64.toUInt64

def writeBool (tag : Nat) (b : Bool) : Bytes :=
  writeUInt64 tag (if b then 1 else 0)

/-- Contents behind their length. -/
def writeDelimited (tag : Nat) (contents : Bytes) : Bytes :=
  Key.write ⟨tag, .lengthDelimited⟩ ++ Varint.write (UInt64.ofNat contents.length) ++ contents

/-- A text, unless it is empty. -/
def writeString (tag : Nat) (text : String) : Bytes :=
  if text = "" then [] else writeDelimited tag (Utf8.encode text)

/-- An inner message, if there is one. -/
def writeOptional (tag : Nat) (encode : α → Bytes) : Option α → Bytes
  | none => []
  | some value => writeDelimited tag (encode value)

/-- A list of inner messages, a field each. -/
def writeRepeated (tag : Nat) (encode : α → Bytes) (values : List α) : Bytes :=
  values.flatMap fun value => writeDelimited tag (encode value)

end DebugBridge.Wire
