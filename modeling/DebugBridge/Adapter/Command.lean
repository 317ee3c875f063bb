import DebugBridge.Adapter.Message
import DebugBridge.Debugger.Operation
import DebugBridge.Debugger.View

/-!
# Commands

What the editor's requests ask for, read off their names and arguments, and the bodies of their answers.
-/

namespace DebugBridge.Adapter

/-! ## Arguments -/

/-- A breakpoint as the editor gives it. -/
structure BreakpointArgument where
  line : Int32 := 0
  condition : Option String := none
  deriving DecidableEq, Repr

def BreakpointArgument.record : Schema.Record BreakpointArgument where
  name := "SourceBreakpointArgument"
  start := {}
  fields := [
    .of "line" .refused Schema.int32 fun b line => { b with line },
    .of "condition" .allowed (Schema.optional Schema.string) fun b condition => { b with condition }]

/-- The source's path; there may be none. -/
def sourceRecord : Schema.Record (Option String) where
  name := "SourceArgument"
  start := none
  fields := [.of "path" .allowed (Schema.optional Schema.string) fun _ path => path]

/-- The arguments of `setBreakpoints`. `lines` is an older form of `breakpoints`. -/
structure BreakpointsArguments where
  path : Option String := none
  breakpoints : Option (List BreakpointArgument) := none
  lines : Option (List Int32) := none
  deriving DecidableEq, Repr

namespace BreakpointsArguments

def record : Schema.Record BreakpointsArguments where
  name := "SetBreakpointsArguments"
  start := {}
  fields := [
    .of "source" .refused sourceRecord.read fun a path => { a with path },
    .of "breakpoints" .allowed (Schema.optional (Schema.list BreakpointArgument.record.read))
      fun a breakpoints => { a with breakpoints },
    .of "lines" .allowed (Schema.optional (Schema.list Schema.int32)) fun a lines => { a with lines }]

/-- The breakpoints in the newer form, if it is there. -/
def toBreakpoints (a : BreakpointsArguments) : List Debugger.SourceBreakpoint :=
  match a.breakpoints, a.lines with
  | some breakpoints, _ => breakpoints.map fun b => .new b.line b.condition
  | none, some lines => lines.map fun line => .new line none
  | none, none => []

end BreakpointsArguments

namespace Message

/-- The arguments of a request; null stands for none at all. -/
def readArguments (m : Message) (record : Schema.Record α) : Except Debugger.Error α :=
  match m.arguments with
  | .null => .ok record.start
  | arguments =>
    (record.read Schema.jsonFormat arguments).mapError fun fault =>
      .invalidRequest s!"invalid {m.command} arguments: {fault.message}"

/-- An argument that must be an integer. -/
def requiredInt64 (m : Message) (name : String) : Except Debugger.Error Int64 :=
  match (m.argument? name).bind (·.asInt64?) with
  | some n => .ok n
  | none => .error (.invalidRequest s!"{m.command}.{name} is required")

/-- An argument that counts as 0 unless it is an integer. -/
def int64OrZero (m : Message) (name : String) : Int64 :=
  ((m.argument? name).bind (·.asInt64?)).getD 0

end Message

/-! ## Commands -/

inductive Command where
  | capabilities
  /-- `launch` or `attach`. Its arguments are read only where there is no session yet. -/
  | launch
  | threads
  | scopes (frame : Debugger.Reference)
  | operation (what : Debugger.Operation)
  | disconnect
  | unknown
  deriving DecidableEq, Repr

open Debugger (Operation) in
/-- What a request asks for. -/
def Command.of (m : Message) : Except Debugger.Error Command :=
  let resume (stepping : Wire.Stepping) : Except Debugger.Error Command :=
    (m.requiredInt64 "threadId").map fun thread => .operation (.resume thread stepping)
  match m.command with
  | "initialize" => .ok .capabilities
  | "launch" | "attach" => .ok .launch
  | "setBreakpoints" =>
    match m.readArguments BreakpointsArguments.record with
    | .error error => .error error
    | .ok arguments =>
      match arguments.path with
      | some path => .ok (.operation (.setBreakpoints path arguments.toBreakpoints))
      | none => .error (.invalidRequest "setBreakpoints.source.path is required")
  | "configurationDone" => .ok (.operation .configurationDone)
  | "threads" => .ok .threads
  | "stackTrace" => (m.requiredInt64 "threadId").map fun thread => .operation (.stackTrace thread)
  | "scopes" => (m.requiredInt64 "frameId").map fun frame => .scopes frame.toInt
  | "variables" =>
    (m.requiredInt64 "variablesReference").map fun reference => .operation (.listVariables reference.toInt)
  | "evaluate" =>
    match (m.argument? "expression").bind (·.asString?) with
    | some expression => .ok (.operation (.evaluate (m.int64OrZero "frameId").toInt expression))
    | none => .error (.invalidRequest "evaluate.expression is required")
  | "continue" => resume .none
  | "next" => resume .stepOver
  | "stepIn" => resume .stepInto
  | "stepOut" => resume .stepOut
  | "pause" => .ok (.operation (.pause (m.int64OrZero "threadId")))
  | "disconnect" => .ok .disconnect
  | _ => .ok .unknown

/-! ## Bodies -/

/-- What the adapter can do. -/
def capabilities : Json :=
  .ofMembers [
    ("supportsConfigurationDoneRequest", .bool true),
    ("supportsEvaluateForHovers", .bool true),
    ("supportsConditionalBreakpoints", .bool true),
    ("supportsSetVariable", .bool false),
    ("supportsStepBack", .bool false)]

/-- The body of an answer; a step has none, and neither have other requests that only say that they were done. -/
def body (what : Debugger.Operation) (answer : Debugger.Answer) : Option Json :=
  match answer with
  | .breakpoints _ => some (.ofMembers [("breakpoints", answer.toJson)])
  | .frames frames => some (.ofMembers [("totalFrames", .int frames.length), ("stackFrames", answer.toJson)])
  | .scopes _ => some (.ofMembers [("scopes", answer.toJson)])
  | .listing _ => some (.ofMembers [("variables", answer.toJson)])
  | .evaluation _ => some answer.toJson
  | .done =>
    match what with
    | .resume _ .none => some (.ofMembers [("allThreadsContinued", .bool false)])
    | _ => none

/-- An event's name and body for each piece of a session's news. -/
def newsEvent : Debugger.News → String × Json
  | .thread id reason => ("thread", .ofMembers [("reason", .string reason), ("threadId", .int id.toInt)])
  | .stopped id stop =>
    ("stopped", .ofMembers (
      [("reason", .string stop.reason), ("description", .string stop.description), ("threadId", .int id.toInt),
        ("allThreadsStopped", .bool false)]
      ++ Debugger.member? "text" (stop.text.map .string)))
  | .continued id =>
    ("continued", .ofMembers [("threadId", .int id.toInt), ("allThreadsContinued", .bool false)])

end DebugBridge.Adapter
