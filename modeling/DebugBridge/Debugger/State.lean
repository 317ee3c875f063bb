import DebugBridge.Debugger.Breakpoints
import DebugBridge.Debugger.Handles
import DebugBridge.Debugger.Stop

/-!
# The state of a debugging session

What is remembered between requests: the objects that the editor may refer to and the thread that each belongs to,
the threads that stand still, and the breakpoints. References live until a thread resumes. Each resume begins a new
epoch; an answer that was asked for in an earlier one registers nothing.
-/

namespace DebugBridge.Debugger

/-- What a reference can stand for. -/
inductive Object where
  | frame (frame : Wire.Frame)
  | scope (scope : Wire.Scope)
  | value (value : Wire.Value)
  deriving DecidableEq, Repr

structure State where
  handles : Handles Object := {}
  /-- The threads that frames, scopes and values belong to. -/
  frameThreads : List (Reference × Int64) := []
  scopeThreads : List (Reference × Int64) := []
  valueThreads : List (Reference × Int64) := []
  pausedThreads : List (Int64 × Wire.PausedThread) := []
  breakpoints : Breakpoints := {}
  epoch : Nat := 0
  deriving DecidableEq, Repr

/-! ## What the editor is shown -/

structure Thread where
  id : Int64
  name : String
  deriving DecidableEq, Repr

structure SourceFile where
  name : String
  path : String
  deriving DecidableEq, Repr

structure StackFrame where
  id : Reference
  name : String
  line : Int32
  column : Int32
  source : Option SourceFile
  deriving DecidableEq, Repr

structure ScopeInfo where
  name : String
  reference : Reference
  deriving DecidableEq, Repr

/-- A value under its name; with a reference other than 0 if there is more to see of it. -/
structure Variable where
  name : String
  value : String
  typeName : Option String
  reference : Reference
  deriving DecidableEq, Repr

/-- What an expression came to. -/
structure Evaluation where
  result : String
  typeName : Option String := none
  reference : Reference := 0
  deriving DecidableEq, Repr

/-- A text, unless it is empty. -/
def nonEmpty (text : String) : Option String :=
  if text = "" then none else some text

namespace State

/-! ## References -/

/-- Forgets all references and begins a new epoch. -/
def clearHandles (s : State) : State :=
  { s with
    handles := s.handles.clear
    frameThreads := []
    scopeThreads := []
    valueThreads := []
    epoch := s.epoch + 1 }

def addFrame (s : State) (thread : Int64) (frame : Wire.Frame) : Reference × State :=
  let (reference, handles) := s.handles.create (.frame frame)
  (reference, { s with handles, frameThreads := Assoc.insert reference thread s.frameThreads })

def addScope (s : State) (thread : Int64) (scope : Wire.Scope) : Reference × State :=
  let (reference, handles) := s.handles.create (.scope scope)
  (reference, { s with handles, scopeThreads := Assoc.insert reference thread s.scopeThreads })

def addValue (s : State) (thread : Int64) (value : Wire.Value) : Reference × State :=
  let (reference, handles) := s.handles.create (.value value)
  (reference, { s with handles, valueThreads := Assoc.insert reference thread s.valueThreads })

/-- Does something for each of a list's elements in order. -/
def forEach (s : State) (act : State → α → β × State) : List α → List β × State
  | [] => ([], s)
  | a :: rest =>
    let (b, s) := act s a
    let (bs, s) := s.forEach act rest
    (b :: bs, s)

/-! ## Values -/

/-- Whether there is more to see of a value. -/
def expandable (value : Wire.Value) : Bool :=
  value.hasChildren && value.id != 0

/-- A value as the editor sees it, under a reference of its own if there is more to see. -/
def display (s : State) (thread : Int64) (value : Wire.Value) : Variable × State :=
  let (reference, s) := if expandable value then s.addValue thread value else (0, s)
  ({ name := value.label, value := value.description, typeName := nonEmpty value.typeName, reference }, s)

/-- The same for an answer that was asked for in some epoch; after that nothing is registered. -/
def displayIn (s : State) (epoch : Nat) (thread : Int64) (value : Wire.Value) : Variable × State :=
  if s.epoch = epoch then s.display thread value
  else
    ({ name := value.label, value := value.description, typeName := nonEmpty value.typeName, reference := 0 }, s)

/-- The registered value of a thread with this label under the smallest reference. -/
def registeredValue? (s : State) (thread : Int64) (label : String) : Option (Reference × Wire.Value) :=
  s.handles.entries.findSome? fun (reference, object) =>
    match object with
    | .value value =>
      if Assoc.find? reference s.valueThreads = some thread ∧ value.label = label then some (reference, value)
      else none
    | _ => none

/-- The first binding with this label in the registered scope of a thread under the smallest reference. -/
def boundValue? (s : State) (thread : Int64) (label : String) : Option Wire.Value :=
  s.handles.entries.findSome? fun (reference, object) =>
    match object with
    | .scope scope =>
      if Assoc.find? reference s.scopeThreads = some thread then scope.bindings.find? (·.label = label) else none
    | _ => none

/-! ## Threads -/

/-- The threads that stand still, in the order of their numbers. -/
def threads (s : State) : List Thread :=
  s.pausedThreads.map fun (_, thread) =>
    { id := thread.id, name := if thread.name = "" then s!"Thread {thread.id.toInt}" else thread.name }

end State

/-! ## News from the server -/

/-- What the editor is told. -/
inductive News where
  | thread (id : Int64) (reason : String)
  | stopped (id : Int64) (stop : Stop)
  | continued (id : Int64)
  deriving DecidableEq, Repr

/-- Takes in what the server tells of its own accord. Only pauses and continuations matter. -/
def State.handleEvent (s : State) : Wire.Event.Payload → List News × State
  | .threadPaused (some thread) =>
    ([.thread thread.id "started", .stopped thread.id (.of thread)],
      { s with pausedThreads := Assoc.insert thread.id thread s.pausedThreads })
  | .threadContinued id => ([.continued id], { s with pausedThreads := Assoc.erase id s.pausedThreads })
  | _ => ([], s)

end DebugBridge.Debugger
