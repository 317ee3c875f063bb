import DebugBridge.Adapter.Server

/-!
# The adapter's loop

The loop takes the editor's messages off a stream of bytes and lets the tasks run on one thread: all complete messages
first, and then whatever can happen next, in an order that tells the editor of things in the order in which they came
about. What comes from outside is left to whoever runs the loop: `Server.errands` tells which streams are to be opened
and which waits are to be timed, and what comes of an errand, and what servers send, are given to `Loop.step`.
-/

namespace DebugBridge.Adapter

/-! ## What happens next -/

namespace Server

/-- The next step of an open stream's way into its connection. -/
def install? (connection : Connection) : Option Connection.Action :=
  connection.dials.findSome? fun (dial, stage) =>
    match stage with
    | .attaching _ => some (.attach dial)
    | .discarding => some (.discard dial)
    | _ => none

/-- A dial that waits, where the connection was closed. -/
def giveUp? (connection : Connection) : Option Connection.Action :=
  if !connection.closed then none
  else
    connection.dials.findSome? fun (dial, stage) =>
      match stage with
      | .resting _ => some (.giveUp dial)
      | _ => none

/-- What the reader does next. -/
def read? (connection : Connection) : Option Connection.Action :=
  connection.incoming.bind fun incoming =>
    if connection.closed then some .stopReading
    else if incoming.ended then some .read
    else
      match Wire.next connection.setup.maxFrameBytes Wire.Event.decode incoming.unread with
      | .wait => none
      | _ => some .read

/-- An operation whose call has ended. -/
def collect? (session : Debugger.Session) : Option Nat :=
  session.running.findSome? fun (operation, running) =>
    match Assoc.find? running.number session.connection.calls with
    | some { sent := true, outcome := some _, .. } => some operation
    | _ => none

/-- The first session in which something is to be done, with what that is. -/
def inSession? (s : Server) (what : Launched → Option α) : Option (Nat × α) :=
  s.launches.findSome? fun (session, launch) => (what launch).map fun found => (session, found)

/-- The same for the sessions' connections. -/
def inLink? (s : Server) (what : Connection → Option Connection.Action) : Option Action :=
  (s.inSession? fun launch => what launch.session.connection).map fun (session, action) => .link session action

/-- What can happen without anything from outside. -/
def next? (s : Server) : Option Action :=
  if s.broken then none
  else
    s.inLink? install?
    <|> (if s.tasks.isEmpty then none else some .begin)
    <|> (s.inSession? (collect? ·.session)).map (fun (session, operation) => .collect session operation)
    <|> s.inLink? giveUp?
    <|> (s.inSession? fun launch =>
          if launch.session.syncing.isNone && !launch.session.queue.isEmpty then some () else none).map
        (fun (session, ()) => .takeTurn session)
    <|> (s.inSession? fun launch =>
          if launch.relaying && launch.inbox.take.isSome then some () else none).map
        (fun (session, ()) => .relay session)
    <|> s.inLink? read?

/-- Does what is picked, over and over, so many steps at most. -/
def runBy (pick : Server → Option Action) : Nat → Server → Server × List ServerEffect
  | 0, s => (s, [])
  | most + 1, s =>
    match pick s with
    | none => (s, [])
    | some action =>
      let (s, effects) := s.step action
      let (s, later) := s.runBy pick most
      (s, effects ++ later)

/-- A bound on what can happen without anything from outside: a few steps for each byte, task, call, dial and
notification. -/
def patience (s : Server) : Nat :=
  s.launches.foldl (fun count (_, launch) =>
    let c := launch.session.connection
    count + 4 * ((c.incoming.map (·.unread.length)).getD 0 + launch.inbox.items.length + launch.session.running.length
      + launch.session.queue.length + c.calls.length + c.dials.length) + 8)
    (8 * s.tasks.length + 8)

/-! ## Errands -/

/-- What is waited for from outside. -/
inductive Errand where
  /-- A stream to a debug server is to be opened, for some attempt of a dial. -/
  | connect (session dial attempt : Nat) (host : String) (port : UInt16)
  /-- Time is to pass after some attempt of a dial. -/
  | rest (session dial attempt : Nat) (milliseconds : Nat)
  deriving DecidableEq, Repr

def errands (s : Server) : List Errand :=
  s.launches.flatMap fun (session, launch) =>
    let c := launch.session.connection
    c.dials.filterMap fun (dial, stage) =>
      match stage with
      | .opening attempt => some (.connect session dial attempt c.setup.host c.setup.port)
      | .resting attempt => some (.rest session dial attempt c.setup.retryDelayMs.toNat)
      | _ => none

/-- Whether the adapter has nothing left to do: an error ends it at once, and else what is under way is ended first. -/
def finished (s : Server) : Bool :=
  s.broken || (s.ending.isSome && s.tasks.isEmpty && s.asked.isEmpty
    && s.launches.all (·.2.session.connection.dials.isEmpty))

end Server

/-! ## The loop -/

structure Loop where
  server : Server := {}
  /-- What the editor sent and was not read. -/
  input : Bytes := []
  /-- Whether the editor has ended its side. -/
  inputEnded : Bool := false
  deriving Repr

namespace Loop

/-- Takes the next message off the input, if it is complete, or finds that none will come. -/
def readOne? (l : Loop) : Option (Loop × List ServerEffect) :=
  if l.server.ending.isSome then none
  else
    let found (action : Server.Action) (rest : Bytes) : Option (Loop × List ServerEffect) :=
      let (server, effects) := l.server.step action
      some ({ l with server, input := rest }, effects)
    match readMessage l.inputEnded l.input with
    | .item message rest => found (.receive message) rest
    | .failed error rest => found (.endInput (.error error)) rest
    | .finished => found (.endInput (.ok ())) l.input
    | .wait => none

/-- Takes messages off the input, so many at most. -/
def readMost : Nat → Loop → Loop × List ServerEffect
  | 0, l => (l, [])
  | most + 1, l =>
    match l.readOne? with
    | none => (l, [])
    | some (l, effects) =>
      let (l, later) := readMost most l
      (l, effects ++ later)

/-- Takes all messages off the input. Each one takes a byte at least. -/
def readAll (l : Loop) : Loop × List ServerEffect :=
  readMost (l.input.length + 1) l

/-- Reads the input and then does what is picked, so many steps at most as the server then allows. -/
def settleBy (pick : Server → Option Server.Action) (patience : Server → Nat) (l : Loop) :
    Loop × List ServerEffect :=
  let (l, first) := l.readAll
  let (server, later) := l.server.runBy pick (patience l.server)
  ({ l with server }, first ++ later)

/-- Lets everything happen that needs nothing from outside. -/
def settle (l : Loop) : Loop × List ServerEffect :=
  l.settleBy Server.next? Server.patience

/-- Takes in bytes from the editor. -/
def feed (l : Loop) (bytes : Bytes) : Loop :=
  { l with input := l.input ++ bytes }

/-- The editor ends its side. -/
def finish (l : Loop) : Loop :=
  { l with inputEnded := true }

/-- Takes in what comes from outside. -/
def step (l : Loop) (action : Server.Action) : Loop × List ServerEffect :=
  let (server, effects) := l.server.step action
  ({ l with server }, effects)

/-- The paths of the source files that a session's server tells of with more bytes. -/
def sourcePaths (l : Loop) (session : Nat) (bytes : Bytes) : List String :=
  match Assoc.find? session l.server.launches with
  | none => []
  | some launch =>
    let c := launch.session.connection
    let unread := (c.incoming.map (·.unread)).getD []
    (Wire.drain c.setup.maxFrameBytes Wire.Event.decode (unread ++ bytes)).messages.flatMap fun event =>
      match event.payload with
      | some (.listFrames frames) => frames.filterMap fun frame =>
          frame.location.map fun location => Source.located launch.session.root location.path
      | _ => []

/-! ## What comes of it -/

/-- What was sent to the editor. -/
def sent (effects : List ServerEffect) : List Outgoing :=
  effects.filterMap fun
    | .sent message => some message
    | _ => none

/-- What was logged. -/
def logged (effects : List ServerEffect) : List Log.Record :=
  effects.filterMap fun
    | .logged record => some record
    | _ => none

/-- What was done with the sessions' streams. -/
def links (effects : List ServerEffect) : List (Nat × Effect) :=
  effects.filterMap fun
    | .link session effect => some (session, effect)
    | _ => none

end Loop

end DebugBridge.Adapter
