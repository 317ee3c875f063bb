import DebugBridge.Debugger.Move

/-!
# Sessions with a debug server

`Exchange` joins a session with the debug server at the other end of its connection. The server handles requests in the
order in which they come, replaces its breakpoints on each request to set them, and may acknowledge what it has handled
at any later time. Bytes take time in both directions. Operations are named in the order in which they begin, and it is
remembered which of them were to set breakpoints, and in which order these got their turns.
-/

namespace DebugBridge.Debugger

/-! ## The server -/

/-- The breakpoints that a request is to set. -/
def breakpointsOf? (request : Wire.Request) : Option (List Wire.Breakpoint) :=
  match request.payload with
  | some (.setBreakpoints breakpoints) => some breakpoints
  | _ => none

/-- A debug server: the bytes that have come and were not read, the requests handled so far, and the breakpoints set. -/
structure DebugServer where
  unread : Bytes := []
  handled : List Wire.Request := []
  breakpoints : List Wire.Breakpoint := []
  deriving Repr

namespace DebugServer

/-- Handles the next request, if it has come. -/
def handle (s : DebugServer) : DebugServer :=
  match Wire.next Wire.maxFrameBytes Wire.Request.decode s.unread with
  | .message request rest =>
    { unread := rest
      handled := s.handled ++ [request]
      breakpoints := (breakpointsOf? request).getD s.breakpoints }
  | _ => s

/-- What the server may tell: anything, but that breakpoints were set only if they were. -/
def MayTell (s : DebugServer) (event : Wire.Event) : Prop :=
  event.payload = some .setBreakpoints → event.number ≠ 0 →
    ∃ request ∈ s.handled, request.number = event.number ∧ (breakpointsOf? request).isSome

instance (s : DebugServer) (event : Wire.Event) : Decidable (s.MayTell event) :=
  inferInstanceAs (Decidable (_ → _ → ∃ request ∈ s.handled, _))

end DebugServer

/-! ## Both sides -/

/-- A `setBreakpoints` that got its turn. Its call has a number, unless there was no connection. -/
structure Turn where
  queued : Queued
  number : Option UInt64
  deriving DecidableEq, Repr

structure Exchange where
  session : Session
  server : DebugServer := {}
  /-- How many operations have begun. -/
  begun : Nat := 0
  /-- Those of them that were to set breakpoints. -/
  asked : List Queued := []
  /-- Those that were dropped while they waited in line. -/
  withdrawn : List Nat := []
  /-- Those that got their turns, in that order. -/
  turns : List Turn := []
  /-- All that was written to the server. -/
  wire : Bytes := []
  /-- What the server has sent and has not arrived. -/
  coming : Bytes := []
  deriving Repr

/-- What can happen at either end, or in between. -/
inductive Exchange.Action where
  | begin (what : Operation)
  | takeTurn
  | collect (operation : Nat)
  | expire (operation : Nat)
  | drop (operation : Nat)
  | handleEvent (payload : Wire.Event.Payload)
  /-- Any step of the connection but to begin a call or to take in bytes. -/
  | link (action : Connection.Action)
  /-- The server handles a request. -/
  | handle
  /-- The server sends something. -/
  | tell (event : Wire.Event)
  /-- Some of what was sent arrives. -/
  | deliver (count : Nat)
  deriving Repr

namespace Exchange

/-- A session with a connected server. -/
def start (setup : ConnectionSetup) (files : FileTree) (root : Option String) : Exchange where
  session := { connection := (({ setup : Connection }).run [.dial, .opened 0 0, .attach 0]).1, files, root }

/-- What is written. -/
def written (effects : List SessionEffect) : Bytes :=
  effects.flatMap fun
    | .link (.wrote _ bytes) => bytes
    | _ => []

/-- The session has moved. What it writes is on its way to the server. -/
def pass (e : Exchange) (moved : Session × List SessionEffect) : Exchange :=
  { e with
    session := moved.1
    wire := e.wire ++ written moved.2
    server := { e.server with unread := e.server.unread ++ written moved.2 } }

/-- The session has moved, and with that a `setBreakpoints` has got its turn. -/
def passTurn (e : Exchange) (queued : Queued) (moved : Session × List SessionEffect) : Exchange :=
  let number := (Assoc.find? queued.operation moved.1.running).map (·.number)
  { e.pass moved with turns := e.turns ++ [{ queued, number }] }

/-- An operation begins. -/
def begin (e : Exchange) (what : Operation) : Exchange × List SessionEffect :=
  let operation := e.begun
  let moved := e.session.move (.prepare operation what)
  let e := { e with begun := operation + 1 }
  match what with
  | .setBreakpoints path breakpoints =>
    let queued : Queued := { operation, path, breakpoints }
    let e := { e with asked := e.asked ++ [queued] }
    if e.session.syncing = none ∧ e.session.queue = [] then (e.passTurn queued moved, moved.2)
    else (e.pass moved, moved.2)
  | _ => (e.pass moved, moved.2)

/-- The first in line gets its turn. -/
def takeTurn (e : Exchange) : Exchange × List SessionEffect :=
  let moved := e.session.move .prepareTurn
  match e.session.syncing, e.session.queue with
  | none, first :: _ => (e.passTurn first moved, moved.2)
  | _, _ => (e, [])

/-- An operation is dropped. -/
def drop (e : Exchange) (operation : Nat) : Exchange :=
  { e with
    session := e.session.drop operation
    withdrawn := if e.session.queue.any (·.operation = operation) then operation :: e.withdrawn else e.withdrawn }

/-- The server sends something that it may tell, unless it is too large. -/
def tell (e : Exchange) (event : Wire.Event) : Exchange :=
  if e.server.MayTell event then
    match Wire.frame Wire.maxFrameBytes event.encode with
    | .ok bytes => { e with coming := e.coming ++ bytes }
    | .error _ => e
  else e

def step (e : Exchange) : Action → Exchange × List SessionEffect
  | .begin what => e.begin what
  | .takeTurn => e.takeTurn
  | .collect operation => (e.pass (e.session.collect operation), (e.session.collect operation).2)
  | .expire operation => (e.pass (e.session.expire operation), (e.session.expire operation).2)
  | .drop operation => (e.drop operation, [])
  | .handleEvent payload => (e.pass (e.session.handleEvent payload), (e.session.handleEvent payload).2)
  | .link action =>
    match action with
    | .issue _ | .arrive _ => (e, [])
    | _ => (e.pass (e.session.link (·.step action)), (e.session.link (·.step action)).2)
  | .handle => ({ e with server := e.server.handle }, [])
  | .tell event => (e.tell event, [])
  | .deliver count =>
    let moved := e.session.link (·.step (.arrive (e.coming.take count)))
    ({ e.pass moved with coming := e.coming.drop count }, moved.2)

/-- What becomes of an exchange. -/
def run (e : Exchange) (actions : List Action) : Exchange :=
  actions.foldl (fun e action => (e.step action).1) e

end Exchange

end DebugBridge.Debugger
