import DebugBridge.Wire.Field

/-!
# Messages of the debugging protocol

The editor's side sends a `Request`, the debug server an `Event`. Both carry a number: a request's is never 0,
and the event that answers it repeats it; an event numbered 0 was not asked for. At most one payload comes with
them. Enumerations (`PausedThread.reason`, `stepping`) are kept as the numbers they are on the wire, so that a
value that is not known here survives.

Every type has a `Layout`, by which it is read, and an `encode`.
-/

namespace DebugBridge.Wire

/-! ## What the server describes -/

/-- A place in a source file, as the server names it. -/
structure Location where
  line : Int32 := 0
  path : String := ""
  column : Int32 := 0
  deriving DecidableEq, Repr, Inhabited

namespace Location

def layout : Layout Location where
  empty := {}
  field
    | 1 => some (.int32 ⟨"Location", "line_number"⟩ fun l line => { l with line })
    | 2 => some (.string ⟨"Location", "path"⟩ fun l path => { l with path })
    | 3 => some (.int32 ⟨"Location", "column_number"⟩ fun l column => { l with column })
    | _ => none

def encode (l : Location) : Bytes :=
  writeInt32 1 l.line ++ writeString 2 l.path ++ writeInt32 3 l.column

end Location

/-- A value of the program; `id` names it when its children are asked for, and 0 is no id. -/
structure Value where
  label : String := ""
  description : String := ""
  typeName : String := ""
  hasChildren : Bool := false
  id : Int64 := 0
  deriving DecidableEq, Repr, Inhabited

namespace Value

def layout : Layout Value where
  empty := {}
  field
    | 1 => some (.string ⟨"Value", "label"⟩ fun v label => { v with label })
    | 2 => some (.string ⟨"Value", "description"⟩ fun v description => { v with description })
    | 3 => some (.string ⟨"Value", "r#type"⟩ fun v typeName => { v with typeName })
    | 4 => some (.bool ⟨"Value", "has_children"⟩ fun v hasChildren => { v with hasChildren })
    | 5 => some (.int64 ⟨"Value", "id"⟩ fun v id => { v with id })
    | _ => none

def encode (v : Value) : Bytes :=
  writeString 1 v.label ++ writeString 2 v.description ++ writeString 3 v.typeName
    ++ writeBool 4 v.hasChildren ++ writeInt64 5 v.id

end Value

/-- The names bound in one scope of a frame. -/
structure Scope where
  name : String := ""
  bindings : List Value := []
  deriving DecidableEq, Repr, Inhabited

namespace Scope

def layout : Layout Scope where
  empty := {}
  field
    | 1 => some (.string ⟨"Scope", "name"⟩ fun s name => { s with name })
    | 2 => some (.repeated ⟨"Scope", "binding"⟩ Value.layout (·.bindings) fun s bindings => { s with bindings })
    | _ => none

def encode (s : Scope) : Bytes :=
  writeString 1 s.name ++ writeRepeated 2 Value.encode s.bindings

end Scope

/-- One call on a thread's stack. -/
structure Frame where
  functionName : String := ""
  scopes : List Scope := []
  location : Option Location := none
  deriving DecidableEq, Repr, Inhabited

namespace Frame

def layout : Layout Frame where
  empty := {}
  field
    | 1 => some (.string ⟨"Frame", "function_name"⟩ fun f functionName => { f with functionName })
    | 2 => some (.repeated ⟨"Frame", "scope"⟩ Scope.layout (·.scopes) fun f scopes => { f with scopes })
    | 3 => some (.message ⟨"Frame", "location"⟩ Location.layout (·.location)
        fun f location => { f with location := some location })
    | _ => none

def encode (f : Frame) : Bytes :=
  writeString 1 f.functionName ++ writeRepeated 2 Scope.encode f.scopes
    ++ writeOptional 3 Location.encode f.location

end Frame

/-- A breakpoint as the server takes it; without a condition the expression is empty. -/
structure Breakpoint where
  expression : String := ""
  location : Option Location := none
  deriving DecidableEq, Repr, Inhabited

namespace Breakpoint

def layout : Layout Breakpoint where
  empty := {}
  field
    | 1 => some (.message ⟨"Breakpoint", "kind"⟩ Location.layout (·.location)
        fun b location => { b with location := some location })
    | 2 => some (.string ⟨"Breakpoint", "expression"⟩ fun b expression => { b with expression })
    | _ => none

def encode (b : Breakpoint) : Bytes :=
  writeOptional 1 Location.encode b.location ++ writeString 2 b.expression

end Breakpoint

/-! ### Messages of one text -/

namespace ErrorText

/-- The layout of an error, which is its text. -/
def layout : Layout String where
  empty := ""
  field
    | 1 => some (.string ⟨"Error", "message"⟩ fun _ message => message)
    | _ => none

def encode (message : String) : Bytes :=
  writeString 1 message

end ErrorText

/-- A thread that stands still; `conditionError` comes with a breakpoint whose condition failed. -/
structure PausedThread where
  id : Int64 := 0
  name : String := ""
  reason : Int32 := 0
  location : Option Location := none
  conditionError : Option String := none
  deriving DecidableEq, Repr, Inhabited

namespace PausedThread

def layout : Layout PausedThread where
  empty := {}
  field
    | 1 => some (.int64 ⟨"PausedThread", "id"⟩ fun t id => { t with id })
    | 2 => some (.string ⟨"PausedThread", "name"⟩ fun t name => { t with name })
    | 3 => some (.int32 ⟨"PausedThread", "pause_reason"⟩ fun t reason => { t with reason })
    | 4 => some (.message ⟨"PausedThread", "location"⟩ Location.layout (·.location)
        fun t location => { t with location := some location })
    | 5 => some (.message ⟨"PausedThread", "conditional_breakpoint_error"⟩ ErrorText.layout (·.conditionError)
        fun t message => { t with conditionError := some message })
    | _ => none

def encode (t : PausedThread) : Bytes :=
  writeInt64 1 t.id ++ writeString 2 t.name ++ writeInt32 3 t.reason
    ++ writeOptional 4 Location.encode t.location ++ writeOptional 5 ErrorText.encode t.conditionError

end PausedThread

/-- Why a thread stands still. -/
inductive PauseReason where
  | unset
  | stepping
  | allThreadsPaused
  | pauseRequest
  | hitBreakpoint
  | conditionError
  | initializing
  deriving DecidableEq, Repr

namespace PauseReason

def toInt32 : PauseReason → Int32
  | unset => 0
  | stepping => 1
  | allThreadsPaused => 2
  | pauseRequest => 3
  | hitBreakpoint => 4
  | conditionError => 5
  | initializing => 6

/-- The reason with this number; a number that is not known means none was given. -/
def ofInt32 (n : Int32) : PauseReason :=
  if n = 1 then stepping
  else if n = 2 then allThreadsPaused
  else if n = 3 then pauseRequest
  else if n = 4 then hitBreakpoint
  else if n = 5 then conditionError
  else if n = 6 then initializing
  else unset

theorem ofInt32_toInt32 (reason : PauseReason) : ofInt32 reason.toInt32 = reason := by
  cases reason <;> rfl

end PauseReason

/-- How far a thread runs before it stands still again. -/
inductive Stepping where
  | none
  | stepInto
  | stepOver
  | stepOut
  deriving DecidableEq, Repr

namespace Stepping

def toInt32 : Stepping → Int32
  | none => 0
  | stepInto => 1
  | stepOver => 2
  | stepOut => 3

/-- A number that is not known means no stepping. -/
def ofInt32 (n : Int32) : Stepping :=
  if n = 1 then stepInto else if n = 2 then stepOver else if n = 3 then stepOut else none

theorem ofInt32_toInt32 (stepping : Stepping) : ofInt32 stepping.toInt32 = stepping := by
  cases stepping <;> rfl

end Stepping

/-! ## Requests -/

/-- What a request asks for; thread 0 in `pauseThread` is every thread. -/
inductive Request.Payload where
  | listFrames (thread : Int64)
  | startDebugging
  | pauseThread (thread : Int64)
  | continueExecution (thread : Int64) (stepping : Int32)
  | evaluate (thread : Int64) (statement : String)
  | setBreakpoints (breakpoints : List Breakpoint)
  | getChildren (thread value : Int64)
  deriving DecidableEq, Repr

/-- A numbered request. -/
structure Request where
  number : UInt64 := 0
  payload : Option Request.Payload := none
  deriving DecidableEq, Repr

/-- A message type without declared fields. -/
def blank : Layout Unit where
  empty := ()
  field _ := none

namespace Request

/-- A request for which no more than a thread is told. -/
def threadLayout (message : String) : Layout Int64 where
  empty := 0
  field
    | 1 => some (.int64 ⟨message, "thread_id"⟩ fun _ thread => thread)
    | _ => none

def continueLayout : Layout (Int64 × Int32) where
  empty := (0, 0)
  field
    | 1 => some (.int64 ⟨"ContinueExecutionRequest", "thread_id"⟩ fun r thread => (thread, r.2))
    | 2 => some (.int32 ⟨"ContinueExecutionRequest", "stepping"⟩ fun r stepping => (r.1, stepping))
    | _ => none

def evaluateLayout : Layout (Int64 × String) where
  empty := (0, "")
  field
    | 1 => some (.int64 ⟨"EvaluateRequest", "thread_id"⟩ fun r thread => (thread, r.2))
    | 2 => some (.string ⟨"EvaluateRequest", "statement"⟩ fun r statement => (r.1, statement))
    | _ => none

def breakpointsLayout : Layout (List Breakpoint) where
  empty := []
  field
    | 1 => some (.repeated ⟨"SetBreakpointsRequest", "breakpoint"⟩ Breakpoint.layout id fun _ all => all)
    | _ => none

def childrenLayout : Layout (Int64 × Int64) where
  empty := (0, 0)
  field
    | 1 => some (.int64 ⟨"GetChildrenRequest", "thread_id"⟩ fun r thread => (thread, r.2))
    | 2 => some (.int64 ⟨"GetChildrenRequest", "value_id"⟩ fun r value => (r.1, value))
    | _ => none

namespace Payload

/-- A payload of a kind; when the message already carries one of that kind the contents are merged into it. -/
def field (layout : Layout β) (get : Payload → Option β) (make : β → Payload) : Field Request :=
  .message ⟨"DebugRequest", "payload"⟩ layout (fun r => r.payload.bind get)
    fun r contents => { r with payload := some (make contents) }

/-- The kind's name, as error texts give it. -/
def kind : Payload → String
  | listFrames .. => "listFrames"
  | startDebugging => "startDebugging"
  | pauseThread .. => "pauseThread"
  | continueExecution .. => "continueExecution"
  | evaluate .. => "evaluate"
  | setBreakpoints .. => "setBreakpoints"
  | getChildren .. => "getChildren"

/-- The tag of the kind and the contents. -/
def contents : Payload → Nat × Bytes
  | listFrames thread => (101, writeInt64 1 thread)
  | startDebugging => (102, [])
  | pauseThread thread => (103, writeInt64 1 thread)
  | continueExecution thread stepping => (104, writeInt64 1 thread ++ writeInt32 2 stepping)
  | evaluate thread statement => (105, writeInt64 1 thread ++ writeString 2 statement)
  | setBreakpoints breakpoints => (106, writeRepeated 1 Breakpoint.encode breakpoints)
  | getChildren thread value => (107, writeInt64 1 thread ++ writeInt64 2 value)

def encode (payload : Payload) : Bytes :=
  writeDelimited payload.contents.1 payload.contents.2

end Payload

def layout : Layout Request where
  empty := {}
  field
    | 1 => some (.uint64 ⟨"DebugRequest", "sequence_number"⟩ fun r number => { r with number })
    | 101 => some (Payload.field (threadLayout "ListFramesRequest")
        (fun | .listFrames thread => some thread | _ => none) .listFrames)
    | 102 => some (Payload.field blank
        (fun | .startDebugging => some () | _ => none) fun _ => .startDebugging)
    | 103 => some (Payload.field (threadLayout "PauseThreadRequest")
        (fun | .pauseThread thread => some thread | _ => none) .pauseThread)
    | 104 => some (Payload.field continueLayout
        (fun | .continueExecution thread stepping => some (thread, stepping) | _ => none)
        fun (thread, stepping) => .continueExecution thread stepping)
    | 105 => some (Payload.field evaluateLayout
        (fun | .evaluate thread statement => some (thread, statement) | _ => none)
        fun (thread, statement) => .evaluate thread statement)
    | 106 => some (Payload.field breakpointsLayout
        (fun | .setBreakpoints breakpoints => some breakpoints | _ => none) .setBreakpoints)
    | 107 => some (Payload.field childrenLayout
        (fun | .getChildren thread value => some (thread, value) | _ => none)
        fun (thread, value) => .getChildren thread value)
    | _ => none

def encode (r : Request) : Bytes :=
  writeUInt64 1 r.number ++ (r.payload.map Payload.encode).getD []

def decode (bytes : Bytes) : Except DecodeError Request :=
  layout.decode bytes

end Request

/-! ## Events -/

/-- What an event tells: the first eight answer requests, the last two come unasked. -/
inductive Event.Payload where
  | error (message : String)
  | listFrames (frames : List Frame)
  | startDebugging
  | pauseThread
  | continueExecution
  | evaluate (result : Option Value)
  | setBreakpoints
  | getChildren (children : List Value)
  | threadPaused (thread : Option PausedThread)
  | threadContinued (thread : Int64)
  deriving DecidableEq, Repr

/-- A response, or with number 0 news. -/
structure Event where
  number : UInt64 := 0
  payload : Option Event.Payload := none
  deriving DecidableEq, Repr

namespace Event

def framesLayout : Layout (List Frame) where
  empty := []
  field
    | 1 => some (.repeated ⟨"ListFramesResponse", "frame"⟩ Frame.layout id fun _ all => all)
    | _ => none

def resultLayout : Layout (Option Value) where
  empty := none
  field
    | 1 => some (.message ⟨"EvaluateResponse", "result"⟩ Value.layout id fun _ value => some value)
    | _ => none

def childrenLayout : Layout (List Value) where
  empty := []
  field
    | 1 => some (.repeated ⟨"GetChildrenResponse", "children"⟩ Value.layout id fun _ all => all)
    | _ => none

def pausedLayout : Layout (Option PausedThread) where
  empty := none
  field
    | 1 => some (.message ⟨"ThreadPausedEvent", "thread"⟩ PausedThread.layout id fun _ thread => some thread)
    | _ => none

def continuedLayout : Layout Int64 where
  empty := 0
  field
    | 1 => some (.int64 ⟨"ThreadContinuedEvent", "thread_id"⟩ fun _ thread => thread)
    | _ => none

namespace Payload

/-- A payload of a kind; when the message already carries one of that kind the contents are merged into it. -/
def field (layout : Layout β) (get : Payload → Option β) (make : β → Payload) : Field Event :=
  .message ⟨"DebugEvent", "payload"⟩ layout (fun e => e.payload.bind get)
    fun e contents => { e with payload := some (make contents) }

/-- The kind's name, as error texts give it. -/
def kind : Payload → String
  | error .. => "error"
  | listFrames .. => "listFrames"
  | startDebugging => "startDebugging"
  | pauseThread => "pauseThread"
  | continueExecution => "continueExecution"
  | evaluate .. => "evaluate"
  | setBreakpoints => "setBreakpoints"
  | getChildren .. => "getChildren"
  | threadPaused .. => "threadPaused"
  | threadContinued .. => "threadContinued"

/-- The tag of the kind and the contents. -/
def contents : Payload → Nat × Bytes
  | error message => (99, ErrorText.encode message)
  | listFrames frames => (101, writeRepeated 1 Frame.encode frames)
  | startDebugging => (102, [])
  | pauseThread => (103, [])
  | continueExecution => (104, [])
  | evaluate result => (105, writeOptional 1 Value.encode result)
  | setBreakpoints => (106, [])
  | getChildren children => (107, writeRepeated 1 Value.encode children)
  | threadPaused thread => (1001, writeOptional 1 PausedThread.encode thread)
  | threadContinued thread => (1002, writeInt64 1 thread)

def encode (payload : Payload) : Bytes :=
  writeDelimited payload.contents.1 payload.contents.2

end Payload

def layout : Layout Event where
  empty := {}
  field
    | 1 => some (.uint64 ⟨"DebugEvent", "sequence_number"⟩ fun e number => { e with number })
    | 99 => some (Payload.field ErrorText.layout
        (fun | .error message => some message | _ => none) .error)
    | 101 => some (Payload.field framesLayout
        (fun | .listFrames frames => some frames | _ => none) .listFrames)
    | 102 => some (Payload.field blank
        (fun | .startDebugging => some () | _ => none) fun _ => .startDebugging)
    | 103 => some (Payload.field blank
        (fun | .pauseThread => some () | _ => none) fun _ => .pauseThread)
    | 104 => some (Payload.field blank
        (fun | .continueExecution => some () | _ => none) fun _ => .continueExecution)
    | 105 => some (Payload.field resultLayout
        (fun | .evaluate result => some result | _ => none) .evaluate)
    | 106 => some (Payload.field blank
        (fun | .setBreakpoints => some () | _ => none) fun _ => .setBreakpoints)
    | 107 => some (Payload.field childrenLayout
        (fun | .getChildren children => some children | _ => none) .getChildren)
    | 1001 => some (Payload.field pausedLayout
        (fun | .threadPaused thread => some thread | _ => none) .threadPaused)
    | 1002 => some (Payload.field continuedLayout
        (fun | .threadContinued thread => some thread | _ => none) .threadContinued)
    | _ => none

def encode (e : Event) : Bytes :=
  writeUInt64 1 e.number ++ (e.payload.map Payload.encode).getD []

def decode (bytes : Bytes) : Except DecodeError Event :=
  layout.decode bytes

end Event

end DebugBridge.Wire
