import DebugBridge.Debugger.Operation

/-!
# Debugging sessions

A session joins the remembered state with a connection. Several operations may be under way, each named by whoever
began it; what is defined here are the steps between two points at which one of them waits.

Only one `setBreakpoints` talks to the server at a time. The others wait in line, and each one enters its breakpoints
and sends the whole set when its turn comes.
-/

namespace DebugBridge.Debugger

/-- An operation that waits for the server, and the number of its call. -/
structure Running where
  number : UInt64
  waiting : Waiting
  deriving DecidableEq, Repr

/-- A `setBreakpoints` that waits for its turn. -/
structure Queued where
  operation : Nat
  path : String
  breakpoints : List SourceBreakpoint
  deriving DecidableEq, Repr

structure Session where
  connection : Connection
  files : FileTree := {}
  /-- The workspace's root. -/
  root : Option String := none
  state : State := {}
  running : List (Nat × Running) := []
  /-- The `setBreakpoints` that talks to the server. -/
  syncing : Option Nat := none
  queue : List Queued := []
  deriving Repr

/-- What a step of a session does to others. -/
inductive SessionEffect where
  | link (effect : Effect)
  /-- An operation asks the server for something. -/
  | asked (operation : Nat) (request : Wire.Request.Payload)
  /-- An operation gets the server's reply, or learns that there is none. -/
  | replied (operation : Nat) (reply : Except CallError Wire.Event.Payload)
  | ended (operation : Nat) (result : Except Error Answer)
  /-- What the editor is to be told. -/
  | told (news : List News)
  deriving Repr

namespace Session

/-! ## Operations -/

/-- Takes an operation off the list, and lets go of the turn if it had it. -/
def release (s : Session) (operation : Nat) : Session :=
  { s with
    running := Assoc.erase operation s.running
    syncing := if s.syncing = some operation then none else s.syncing }

/-- Ends an operation with the server's reply. -/
def finish (s : Session) (operation : Nat) (waiting : Waiting) (reply : Except CallError Wire.Event.Payload) :
    Session × List SessionEffect :=
  let (result, state) := s.state.finish s.files s.root waiting reply
  ({ s with state }.release operation, [.replied operation reply, .ended operation result])

/-- The operation whose call has this number. -/
def owner? (s : Session) (number : UInt64) : Option (Nat × Running) :=
  s.running.find? (·.2.number = number)

/-- Takes in the effects of a step of the connection: an answered call ends its operation. -/
def absorb (s : Session) : List Effect → Session × List SessionEffect
  | [] => (s, [])
  | effect :: rest =>
    let (s, first) := match effect with
      | .answered number result =>
        match s.owner? number with
        | some (operation, running) => s.finish operation running.waiting result
        | none => (s, [.link effect])
      | _ => (s, [.link effect])
    let (s, later) := s.absorb rest
    (s, first ++ later)

/-- Lets the connection do a step. -/
def link (s : Session) (step : Connection → Connection × List Effect) : Session × List SessionEffect :=
  let (connection, effects) := step s.connection
  { s with connection }.absorb effects

/-- Sends an operation's request. Without a connection the operation ends with that. -/
def ask (s : Session) (operation : Nat) (request : Wire.Request.Payload) (waiting : Waiting) :
    Session × List SessionEffect :=
  match s.connection.issue request with
  | .error error => s.finish operation waiting (.error error)
  | .ok (number, connection) =>
    { s with connection, running := Assoc.insert operation { number, waiting } s.running }.link (·.transmit number)

/-- The first half of an operation, up to where it waits for the server. -/
def enter (s : Session) (operation : Nat) (what : Operation) : Session × List SessionEffect :=
  match s.state.start what with
  | (.answered result, state) => ({ s with state }.release operation, [.ended operation result])
  | (.asks request waiting, state) =>
    let (s, effects) := { s with state }.ask operation request waiting
    (s, .asked operation request :: effects)

/-- Begins an operation; a `setBreakpoints` waits in line while another one has its turn. -/
def start (s : Session) (operation : Nat) (what : Operation) : Session × List SessionEffect :=
  match what with
  | .setBreakpoints path breakpoints =>
    if s.syncing = none ∧ s.queue = [] then { s with syncing := some operation }.enter operation what
    else ({ s with queue := s.queue ++ [{ operation, path, breakpoints }] }, [])
  | _ => s.enter operation what

/-- Gives the turn to the first in line. -/
def takeTurn (s : Session) : Session × List SessionEffect :=
  match s.syncing, s.queue with
  | none, first :: queue =>
    { s with syncing := some first.operation, queue }.enter first.operation
      (.setBreakpoints first.path first.breakpoints)
  | _, _ => (s, [])

/-- An operation sees whether its call has ended. -/
def collect (s : Session) (operation : Nat) : Session × List SessionEffect :=
  match Assoc.find? operation s.running with
  | some running => s.link (·.collect running.number)
  | none => (s, [])

/-- An operation has waited long enough. -/
def expire (s : Session) (operation : Nat) : Session × List SessionEffect :=
  match Assoc.find? operation s.running with
  | some running => s.link (·.expire running.number)
  | none => (s, [])

/-- An operation is dropped by whoever began it. -/
def drop (s : Session) (operation : Nat) : Session :=
  let connection := match Assoc.find? operation s.running with
    | some running => s.connection.dropCall running.number
    | none => s.connection
  { s with connection, queue := s.queue.filter (·.operation ≠ operation) }.release operation

/-- The server tells something of its own accord. -/
def handleEvent (s : Session) (payload : Wire.Event.Payload) : Session × List SessionEffect :=
  let (news, state) := s.state.handleEvent payload
  ({ s with state }, [.told news])

end Session

/-! ## Runs -/

/-- The steps of a session. -/
inductive Session.Action where
  | start (operation : Nat) (what : Operation)
  | takeTurn
  | collect (operation : Nat)
  | expire (operation : Nat)
  | drop (operation : Nat)
  | handleEvent (payload : Wire.Event.Payload)
  | link (action : Connection.Action)
  deriving Repr

namespace Session

def step (s : Session) : Action → Session × List SessionEffect
  | .start operation what => s.start operation what
  | .takeTurn => s.takeTurn
  | .collect operation => s.collect operation
  | .expire operation => s.expire operation
  | .drop operation => (s.drop operation, [])
  | .handleEvent payload => s.handleEvent payload
  | .link action => s.link (·.step action)

/-- Steps in order, with all their effects. -/
def run (s : Session) : List Action → Session × List SessionEffect
  | [] => (s, [])
  | action :: actions =>
    let (s, effects) := s.step action
    let (s, later) := s.run actions
    (s, effects ++ later)

end Session

end DebugBridge.Debugger
