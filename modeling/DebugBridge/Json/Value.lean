import DebugBridge.Assoc
import DebugBridge.Text.Decimal

/-!
# JSON values

An integer and a float are different numbers even where they are equal. A float is kept as its bits. An object
is a list of named members; what is read from text has them in the order of their names, each name once.
-/

namespace DebugBridge

inductive Json where
  | null
  | bool (value : Bool)
  | int (value : Int)
  | float (bits : UInt64)
  | string (text : String)
  | array (items : List Json)
  | object (members : List (String × Json))
  deriving Repr, BEq, Inhabited

namespace Json

/-- An object of these members, sorted by name; of two values for a name the later one stays. -/
def ofMembers (members : List (String × Json)) : Json :=
  object (members.foldl (fun sorted (name, value) => Assoc.insert name value sorted) [])

/-- The first member of an object with this name. -/
def get? (json : Json) (name : String) : Option Json :=
  match json with
  | object members => members.lookup name
  | _ => none

/-- A signed 64-bit integer, if the value is one. -/
def asInt64? : Json → Option Int64
  | int n => if -9223372036854775808 ≤ n ∧ n ≤ 9223372036854775807 then some (Int64.ofInt n) else none
  | _ => none

def asString? : Json → Option String
  | string text => some text
  | _ => none

/-- How floats look: an exponent from `1e16` on and below `0.00001`. -/
def floatLayout : Decimal.FloatLayout where
  positional point := -5 < point && point ≤ 16
  nan := "null"
  infinity := "null"

end Json

end DebugBridge
