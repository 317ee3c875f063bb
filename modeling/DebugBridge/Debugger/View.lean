import DebugBridge.Debugger.Operation
import DebugBridge.Json.Value

/-!
# Answers as JSON

How the editor's protocol writes what a session answers. The members of every object stand in the order of their
names.
-/

namespace DebugBridge.Debugger

def Thread.toJson (t : Thread) : Json :=
  .ofMembers [("id", .int t.id.toInt), ("name", .string t.name)]

def SourceFile.toJson (s : SourceFile) : Json :=
  .ofMembers [("name", .string s.name), ("path", .string s.path)]

/-- A member that may be left out. -/
def member? (name : String) (value : Option Json) : List (String × Json) :=
  (value.map fun json => (name, json)).toList

def StackFrame.toJson (f : StackFrame) : Json :=
  .ofMembers (
    [("id", .int f.id), ("name", .string f.name), ("line", .int f.line.toInt), ("column", .int f.column.toInt)]
    ++ member? "source" (f.source.map (·.toJson)))

/-- A scope; none is expensive to look into. -/
def ScopeInfo.toJson (s : ScopeInfo) : Json :=
  .ofMembers [("name", .string s.name), ("variablesReference", .int s.reference), ("expensive", .bool false)]

def Variable.toJson (v : Variable) : Json :=
  .ofMembers (
    [("name", .string v.name), ("value", .string v.value), ("variablesReference", .int v.reference)]
    ++ member? "type" (v.typeName.map .string))

def Evaluation.toJson (e : Evaluation) : Json :=
  .ofMembers (
    [("result", .string e.result), ("variablesReference", .int e.reference)]
    ++ member? "type" (e.typeName.map .string))

/-- A breakpoint that was set; it always is where it was asked for. -/
def breakpointJson (line : Int32) : Json :=
  .ofMembers [("verified", .bool true), ("line", .int line.toInt)]

def Answer.toJson : Answer → Json
  | breakpoints lines => .array (lines.map breakpointJson)
  | frames listed => .array (listed.map (·.toJson))
  | scopes listed => .array (listed.map (·.toJson))
  | listing listed => .array (listed.map (·.toJson))
  | evaluation result => result.toJson
  | done => .null

end DebugBridge.Debugger
