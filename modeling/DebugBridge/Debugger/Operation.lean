import DebugBridge.Connection.Reply
import DebugBridge.Debugger.Expression
import DebugBridge.Debugger.State
import DebugBridge.Workspace.Source

/-!
# Operations on a debugging session

An operation that needs the server has two halves. `State.start` looks at the state, may change it, and gives either
the answer or a request together with what must be remembered for the second half. `State.finish` gets the server's
reply, however late. In between, anything may have happened to the state; what an operation remembers tells the
second half whether its epoch is over.
-/

namespace DebugBridge.Debugger

/-- Why an operation fails. -/
inductive Error where
  | call (error : CallError)
  | invalidRequest (text : String)
  | notConnected
  deriving DecidableEq, Repr

def Error.message : Error → String
  | call error => error.message
  | invalidRequest text => s!"invalid request: {text}"
  | notConnected => "not connected"

/-- What the editor asks for. -/
inductive Operation where
  | setBreakpoints (path : String) (breakpoints : List SourceBreakpoint)
  | stackTrace (thread : Int64)
  | scopes (frame : Reference)
  | listVariables (reference : Reference)
  | evaluate (frame : Reference) (expression : String)
  | resume (thread : Int64) (stepping : Wire.Stepping)
  | pause (thread : Int64)
  | configurationDone
  deriving DecidableEq, Repr

/-- What it gets. A breakpoint is answered by its line. -/
inductive Answer where
  | breakpoints (lines : List Int32)
  | frames (frames : List StackFrame)
  | scopes (scopes : List ScopeInfo)
  | listing (listed : List Variable)
  | evaluation (evaluation : Evaluation)
  | done
  deriving DecidableEq, Repr

/-- What an operation remembers while it waits for the server. -/
inductive Waiting where
  | breakpoints (lines : List Int32)
  | frames (thread : Int64) (epoch : Nat)
  | listing (thread : Int64) (epoch : Nat)
  | evaluation (thread : Int64) (epoch : Nat) (expression : String)
  | resumed
  | paused
  | started
  deriving DecidableEq, Repr

/-- Where the first half leaves an operation. -/
inductive Started where
  | answered (result : Except Error Answer)
  | asks (request : Wire.Request.Payload) (waiting : Waiting)
  deriving Repr

namespace State

/-! ## First halves -/

/-- The scopes of a frame, from the frame itself. Other references have none. -/
def scopes (s : State) (frame : Reference) : List ScopeInfo × State :=
  match s.handles.get? frame with
  | some (.frame content) =>
    match Assoc.find? frame s.frameThreads with
    | some thread =>
      s.forEach (fun s scope =>
        let (reference, s) := s.addScope thread scope
        ({ name := scope.name, reference }, s)) content.scopes
    | none => ([], s)
  | _ => ([], s)

/-- The bindings of a scope, from the scope itself; the children of a value, from the server. Other references have
nothing in them. -/
def startVariables (s : State) (reference : Reference) : Started × State :=
  match s.handles.get? reference with
  | some (.scope scope) =>
    match Assoc.find? reference s.scopeThreads with
    | some thread =>
      let (shown, s) := s.forEach (·.display thread) scope.bindings
      (.answered (.ok (.listing shown)), s)
    | none => (.answered (.ok (.listing [])), s)
  | some (.value value) =>
    match Assoc.find? reference s.valueThreads with
    | some thread => (.asks (.getChildren thread value.id) (.listing thread s.epoch), s)
    | none => (.answered (.ok (.listing [])), s)
  | _ => (.answered (.ok (.listing [])), s)

/-- Begins an operation. New breakpoints are remembered and a thread is taken to run before the server has agreed. -/
def start (s : State) : Operation → Started × State
  | .setBreakpoints path breakpoints =>
    let s := { s with breakpoints := s.breakpoints.set path breakpoints }
    (.asks (.setBreakpoints s.breakpoints.toWire) (.breakpoints (breakpoints.map (·.line))), s)
  | .stackTrace thread => (.asks (.listFrames thread) (.frames thread s.epoch), s)
  | .scopes frame =>
    let (scopes, s) := s.scopes frame
    (.answered (.ok (.scopes scopes)), s)
  | .listVariables reference => s.startVariables reference
  | .evaluate frame expression =>
    match Assoc.find? frame s.frameThreads with
    | some thread =>
      let expression := trimQuotes expression
      (.asks (.evaluate thread expression) (.evaluation thread s.epoch expression), s)
    | none => (.answered (.error (.invalidRequest s!"unknown frameId {frame}")), s)
  | .resume thread stepping =>
    let s := s.clearHandles
    (.asks (.continueExecution thread stepping.toInt32) .resumed,
      { s with pausedThreads := Assoc.erase thread s.pausedThreads })
  | .pause thread => (.asks (.pauseThread thread) .paused, s)
  | .configurationDone => (.asks .startDebugging .started, s)

/-! ## Second halves -/

/-- Where a frame's source is found. -/
def sourceOf (files : FileTree) (root : Option String) (frame : Wire.Frame) : Option SourceFile :=
  frame.location.map fun location =>
    let path := Source.resolve files root location.path
    { name := Path.name path, path }

/-- Registers a frame. -/
def stackFrame (files : FileTree) (root : Option String) (thread : Int64) (s : State) (frame : Wire.Frame) :
    StackFrame × State :=
  let (id, s) := s.addFrame thread frame
  ({ id
     name := frame.functionName
     line := (frame.location.map (·.line)).getD 0
     column := (frame.location.map (·.column)).getD 0
     source := sourceOf files root frame }, s)

/-- What a failed evaluation comes to: a value of that name that is known already, and else the error's text. -/
def evaluateKnown (s : State) (thread : Int64) (epoch : Nat) (expression error : String) : Evaluation × State :=
  if s.epoch ≠ epoch then ({ result := error }, s)
  else
    match s.registeredValue? thread expression with
    | some (reference, value) =>
      ({ result := value.description, typeName := nonEmpty value.typeName, reference }, s)
    | none =>
      match s.boundValue? thread expression with
      | some value =>
        let (shown, s) := s.display thread value
        ({ result := shown.value, typeName := shown.typeName, reference := shown.reference }, s)
      | none => ({ result := error }, s)

/-- Ends an operation with the server's reply. -/
def finish (files : FileTree) (root : Option String) (s : State) (waiting : Waiting)
    (reply : Except CallError Wire.Event.Payload) : Except Error Answer × State :=
  match waiting with
  | .breakpoints lines =>
    ((reply.bind Reply.breakpointsSet |>.mapError .call).map fun _ => .breakpoints lines, s)
  | .frames thread epoch =>
    match reply.bind Reply.frames with
    | .error error => (.error (.call error), s)
    | .ok frames =>
      if s.epoch ≠ epoch then (.ok (.frames []), s)
      else
        let (shown, s) := s.forEach (stackFrame files root thread) frames
        (.ok (.frames shown), s)
  | .listing thread epoch =>
    match reply.bind Reply.children with
    | .error error => (.error (.call error), s)
    | .ok children =>
      if s.epoch ≠ epoch then (.ok (.listing []), s)
      else
        let (shown, s) := s.forEach (·.display thread) children
        (.ok (.listing shown), s)
  | .evaluation thread epoch expression =>
    match reply.bind Reply.value with
    | .ok value =>
      let (shown, s) := s.displayIn epoch thread value
      (.ok (.evaluation { result := shown.value, typeName := shown.typeName, reference := shown.reference }), s)
    | .error (.remote error) =>
      let (evaluation, s) := s.evaluateKnown thread epoch expression error
      (.ok (.evaluation evaluation), s)
    | .error error => (.error (.call error), s)
  | .resumed => ((reply.bind Reply.continued |>.mapError .call).map fun _ => .done, s)
  | .paused => ((reply.bind Reply.paused |>.mapError .call).map fun _ => .done, s)
  | .started => ((reply.bind Reply.started |>.mapError .call).map fun _ => .done, s)

end State

end DebugBridge.Debugger
