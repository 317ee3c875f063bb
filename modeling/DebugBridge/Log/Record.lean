import DebugBridge.Json.Printer
import DebugBridge.Log.Filter
import DebugBridge.Text.Quoted

/-!
# Log records

A record is a message about a target with named values. It is written as a line of text or as a JSON object; the time,
which a line may have in front, is left to whoever writes it.
-/

namespace DebugBridge.Log

/-- A value in a record. -/
inductive Value where
  | number (n : Int)
  /-- A text that stands in a line as it is. -/
  | plain (text : String)
  /-- A text that stands in a line in quotes. -/
  | quoted (text : String)
  deriving DecidableEq, Repr

structure Record where
  level : Level
  target : String
  message : String
  fields : List (String × Value) := []
  deriving DecidableEq, Repr

namespace Value

def text : Value → String
  | number n => toString n
  | plain text => text
  | quoted text => Text.quote text

def toJson : Value → Json
  | number n => .int n
  | plain text | quoted text => .string text

end Value

namespace Record

/-- The line, its level set right in five places. -/
def line (r : Record) : String :=
  let level := "".pushn ' ' (5 - r.level.name.length) ++ r.level.name
  let fields := r.fields.map fun (name, value) => s!" {name}={value.text}"
  s!"{level} {r.target}: {r.message}" ++ String.join fields

/-- The object, with a time if there is one. -/
def toJson (r : Record) (time : Option String) : Json :=
  .object ((time.map fun time => ("timestamp", .string time)).toList ++ [
    ("level", .string r.level.name),
    ("fields", .object (("message", .string r.message) :: r.fields.map fun (name, value) => (name, value.toJson))),
    ("target", .string r.target)])

/-- Whether a filter lets the record through. -/
def passes (r : Record) (filter : Filter) : Bool :=
  filter.admits r.target r.level

end Record

end DebugBridge.Log
