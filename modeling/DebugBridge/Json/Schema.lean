import DebugBridge.Json.Value
import DebugBridge.Text.Quoted

/-!
# Reading records out of values

A `Record` says what a structured value must look like: its fields, in order, each with a reader. It is read from
an object, member by member in the order they stand in, or from an array that lists the fields in the record's
order. The first fault decides; that a field is missing is only seen when all that are there were good.
-/

namespace DebugBridge.Schema

/-! ## Faults -/

/-- What was found where something else was expected. -/
inductive Found where
  | null
  | bool (value : Bool)
  | int (value : Int)
  | float (text : String)
  | string (text : String)
  | sequence
  | map
  deriving DecidableEq, Repr

def Found.text : Found → String
  | null => "null"
  | bool value => s!"boolean `{value}`"
  | int value => s!"integer `{value}`"
  | float text => s!"floating point `{text}`"
  | string text => "string " ++ Text.quote text
  | sequence => "sequence"
  | map => "map"

/-- Why a value does not have the expected form. -/
inductive Fault where
  | wrongType (found : Found) (expected : String)
  | wrongValue (found : Found) (expected : String)
  | wrongLength (length : Nat) (expected : String)
  | missing (field : String)
  | unknownField (name : String) (known : List String)
  | unknownVariant (name : String) (known : List String)
  deriving DecidableEq, Repr

/-- A choice between names, in words. -/
def oneOf : List String → String
  | [] => "there are no fields"
  | [only] => s!"expected `{only}`"
  | [first, second] => s!"expected `{first}` or `{second}`"
  | names => "expected one of " ++ ", ".intercalate (names.map fun name => s!"`{name}`")

def Fault.message : Fault → String
  | wrongType found expected => s!"invalid type: {found.text}, expected {expected}"
  | wrongValue found expected => s!"invalid value: {found.text}, expected {expected}"
  | wrongLength length expected => s!"invalid length {length}, expected {expected}"
  | missing field => s!"missing field `{field}`"
  | unknownField name known => s!"unknown field `{name}`, {oneOf known}"
  | unknownVariant name known => s!"unknown variant `{name}`, {oneOf known}"

/-! ## Readers of plain values -/

/-- A format's own part in reading: how its floats look in an error, and whether an array may hold more than a
record's fields. -/
structure Format where
  floats : Decimal.FloatLayout
  surplusAllowed : Bool

/-- JSON's part. -/
def jsonFormat : Format where
  floats := Json.floatLayout
  surplusAllowed := false

/-- What a value is found to be. -/
def Format.found (format : Format) : Json → Found
  | .null => .null
  | .bool value => .bool value
  | .int value => .int value
  | .float bits => .float (format.floats.text bits)
  | .string text => .string text
  | .array _ => .sequence
  | .object _ => .map

/-- Reads a value of some type. -/
abbrev Reader (α : Type) := Format → Json → Except Fault α

def anything : Reader Json :=
  fun _ json => .ok json

/-- An integer within bounds; `expected` names the type. -/
def integer (expected : String) (low high : Int) : Reader Int
  | _, .int n => if low ≤ n ∧ n ≤ high then .ok n else .error (.wrongValue (.int n) expected)
  | format, json => .error (.wrongType (format.found json) expected)

def int64 : Reader Int64 :=
  fun format json => (integer "i64" (-9223372036854775808) 9223372036854775807 format json).map Int64.ofInt

def int32 : Reader Int32 :=
  fun format json => (integer "i32" (-2147483648) 2147483647 format json).map Int32.ofInt

def uint16 : Reader UInt16 :=
  fun format json => (integer "u16" 0 65535 format json).map fun n => UInt16.ofNat n.toNat

def uint32 : Reader UInt32 :=
  fun format json => (integer "u32" 0 4294967295 format json).map fun n => UInt32.ofNat n.toNat

def uint64 : Reader UInt64 :=
  fun format json => (integer "u64" 0 18446744073709551615 format json).map fun n => UInt64.ofNat n.toNat

/-- A text; `expected` names what it stands for. -/
def text (expected : String) : Reader String
  | _, .string text => .ok text
  | format, json => .error (.wrongType (format.found json) expected)

def string : Reader String :=
  text "a string"

def path : Reader String :=
  text "path string"

def bool : Reader Bool
  | _, .bool value => .ok value
  | format, json => .error (.wrongType (format.found json) "a boolean")

/-- A value that may be null. -/
def optional (reader : Reader α) : Reader (Option α)
  | _, .null => .ok none
  | format, json => (reader format json).map some

def list (reader : Reader α) : Reader (List α)
  | format, .array items => items.mapM (reader format)
  | format, json => .error (.wrongType (format.found json) "a sequence")

/-- One of several names, given as a string or as an object with that one member, which is null. -/
def variant (choices : List (String × α)) : Reader α :=
  let named (name : String) : Except Fault α :=
    match choices.lookup name with
    | some value => .ok value
    | none => .error (.unknownVariant name (choices.map (·.1)))
  fun format json =>
    match json with
    | .string name => named name
    | .object [(name, content)] => do
      let value ← named name
      match content with
      | .null => return value
      | other => throw (.wrongType (format.found other) "unit")
    | .object _ => .error (.wrongValue .map "map with a single key")
    | other => .error (.wrongType (format.found other) "string or map")

/-! ## Records -/

/-- What happens when a field is not there. -/
inductive Absence where
  /-- It keeps its default. -/
  | allowed
  /-- It keeps its default in an object; an array must list it. -/
  | allowedByName
  /-- It must be there. -/
  | refused
  deriving DecidableEq, Repr

/-- A field of a record read into values of type `α`. -/
structure Field (α : Type) where
  name : String
  absence : Absence
  read : Format → Json → α → Except Fault α

/-- A field that `set` puts into the record. -/
def Field.of (name : String) (absence : Absence) (reader : Reader β) (set : α → β → α) : Field α where
  name
  absence
  read format json record := (reader format json).map (set record)

/-- The form of a structured value: its type's name, the fields in order, the record before any is read, and
whether other members are refused. -/
structure Record (α : Type) where
  name : String
  fields : List (Field α)
  start : α
  closed : Bool := false

namespace Record

/-- Reads members in order. -/
def readMembers (record : Record α) (format : Format) : α → List (String × Json) → Except Fault α
  | value, [] => .ok value
  | value, (name, json) :: rest =>
    match record.fields.find? (·.name == name) with
    | some field => do
      let value ← field.read format json value
      record.readMembers format value rest
    | none =>
      if record.closed then .error (.unknownField name (record.fields.map (·.name)))
      else record.readMembers format value rest

/-- Reads items for fields, in order; `count` were read before. -/
def readItems (record : Record α) (format : Format) (count : Nat) :
    α → List (Field α) → List Json → Except Fault α
  | value, [], items =>
    if items.isEmpty || format.surplusAllowed then .ok value
    else .error (.wrongLength (count + items.length) "fewer elements in array")
  | value, field :: fields, [] =>
    if field.absence = .allowed then record.readItems format count value fields []
    else
      let size := record.fields.length
      let elements := if size = 1 then "element" else "elements"
      .error (.wrongLength count s!"struct {record.name} with {size} {elements}")
  | value, field :: fields, json :: items => do
    let value ← field.read format json value
    record.readItems format (count + 1) value fields items

/-- The first field, in the record's order, that must be there and is not. -/
def missing? (record : Record α) (members : List (String × Json)) : Option String :=
  (record.fields.find? fun field =>
    field.absence == .refused && !members.any (·.1 == field.name)).map (·.name)

def read (record : Record α) : Reader α
  | format, .object members => do
    let value ← record.readMembers format record.start members
    match record.missing? members with
    | some field => throw (.missing field)
    | none => return value
  | format, .array items => record.readItems format 0 record.start record.fields items
  | format, json => .error (.wrongType (format.found json) s!"struct {record.name}")

end Record

end DebugBridge.Schema
