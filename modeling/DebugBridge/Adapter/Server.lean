import DebugBridge.Adapter.Command
import DebugBridge.Adapter.Framing
import DebugBridge.Connection.Inbox
import DebugBridge.Debugger.Session
import DebugBridge.Log.Record

/-!
# The adapter

The adapter answers the editor's requests. Requests that need the debug server are answered by tasks of their own, so
that a slow server holds up nothing; a launch has a task that connects, and another one that relays what the server
tells. What is defined here are the steps between two points at which a task waits. Tasks begin in the order of the
requests that they are for.

There is at most one session that requests can go to, the one in the slot. It is there from the launch on, before it
is connected, and goes when the launch fails or the editor disconnects. What a task of an earlier session still does
goes on without it.
-/

namespace DebugBridge.Adapter

open Debugger (Session SessionEffect)

/-- A session with its launch. -/
structure Launched where
  session : Session
  inbox : Inbox
  /-- The debug server's address. -/
  target : String
  verbose : Bool
  /-- The launch's request, while it is not answered. -/
  request : Option Message
  /-- Whether what the server tells is still relayed. -/
  relaying : Bool := true
  deriving Repr

/-- A task that has not begun. -/
inductive Task where
  | connect (session : Nat)
  | operation (session operation : Nat) (what : Debugger.Operation)
  deriving Repr

/-- A request that a task is to answer. -/
structure Asked where
  session : Nat
  what : Debugger.Operation
  request : Message
  deriving Repr

structure Server where
  /-- What a launch does not say about the connection. -/
  defaults : ServerSettings := {}
  files : FileTree := {}
  /-- The number of the next message to the editor. -/
  nextSeq : Int := 1
  terminated : Bool := false
  /-- How the reading of requests ended. -/
  ending : Option (Except ReadError Unit) := none
  slot : Option Nat := none
  /-- All sessions, by the number of their launch. -/
  launches : List (Nat × Launched) := []
  launched : Nat := 0
  tasks : List Task := []
  /-- The requests under way, by the number of their operation. -/
  asked : List (Nat × Asked) := []
  operations : Nat := 0
  deriving Repr

/-- What a step does to others. -/
inductive ServerEffect where
  | sent (message : Outgoing)
  | logged (record : Log.Record)
  /-- What a session's connection does. -/
  | link (session : Nat) (effect : Effect)
  deriving Repr

namespace Server

/-! ## Messages to the editor -/

def respond (s : Server) (request : Message) (success : Bool) (body : Option Json) (message : Option String) :
    Server × List ServerEffect :=
  ({ s with nextSeq := s.nextSeq + 1 },
    [.sent (.response
      { seq := s.nextSeq, requestSeq := request.seq, command := request.command, success, message, body })])

/-- The target of the adapter's log records. -/
def logTarget : String := "starlark.dap"

/-- A record of the adapter's. -/
def log (level : Log.Level) (message : String) (fields : List (String × Log.Value)) : ServerEffect :=
  .logged { level, target := logTarget, message, fields }

/-- Answers that a request failed. -/
def fail (s : Server) (request : Message) (error : Debugger.Error) : Server × List ServerEffect :=
  let (s, effects) := s.respond request false none (some error.message)
  (s, log .debug "request failed" [("command", .plain request.command), ("error", .plain error.message)] :: effects)

def tell (s : Server) (event : String) (body : Option Json) : Server × List ServerEffect :=
  ({ s with nextSeq := s.nextSeq + 1 }, [.sent (.news { seq := s.nextSeq, event, body })])

/-- Shows a line to the user. -/
def output (s : Server) (category line : String) : Server × List ServerEffect :=
  s.tell "output" (some (.ofMembers [("category", .string category), ("output", .string (line ++ "\n"))]))

/-- Tells that debugging is over, once. -/
def terminate (s : Server) : Server × List ServerEffect :=
  if s.terminated then (s, []) else { s with terminated := true }.tell "terminated" none

def tellNews (s : Server) : List Debugger.News → Server × List ServerEffect
  | [] => (s, [])
  | news :: rest =>
    let (event, body) := newsEvent news
    let (s, first) := s.tell event (some body)
    let (s, later) := s.tellNews rest
    (s, first ++ later)

/-! ## Sessions -/

def setLaunch (s : Server) (session : Nat) (launch : Launched) : Server :=
  { s with launches := Assoc.insert session launch s.launches }

/-- The session that requests go to. -/
def current? (s : Server) : Option (Nat × Launched) :=
  s.slot.bind fun session => (Assoc.find? session s.launches).map fun launch => (session, launch)

/-- Answers a launch. A failed one empties the slot, if that still holds its session. -/
def answerLaunch (s : Server) (session : Nat) (result : Except CallError Unit) : Server × List ServerEffect :=
  match Assoc.find? session s.launches with
  | some launch =>
    match launch.request with
    | some request =>
      let s := s.setLaunch session { launch with request := none }
      match result with
      | .ok () =>
        let (s, first) := s.respond request true none none
        let (s, later) := s.tell "initialized" none
        (s, first ++ later)
      | .error error =>
        let (s, effects) := { s with slot := if s.slot = some session then none else s.slot }.respond request false
          none (some s!"failed to connect to debug server at {launch.target}: {error.message}")
        (s, log .error "launch failed" [("addr", .plain launch.target), ("error", .plain error.message)] :: effects)
    | none => (s, [])
  | none => (s, [])

/-- Answers the request that an operation was for. -/
def answerOperation (s : Server) (operation : Nat) (result : Except Debugger.Error Debugger.Answer) :
    Server × List ServerEffect :=
  match Assoc.find? operation s.asked with
  | some asked =>
    let s := { s with asked := Assoc.erase operation s.asked }
    match result with
    | .ok answer => s.respond asked.request true (body asked.what answer) none
    | .error error => s.fail asked.request error
  | none => (s, [])

/-- Takes in one effect of a session's step. -/
def absorbOne (s : Server) (session : Nat) : SessionEffect → Server × List ServerEffect
  | .link (.told notification) =>
    match Assoc.find? session s.launches with
    | some launch => (s.setLaunch session { launch with inbox := launch.inbox.push notification }, [])
    | none => (s, [])
  | .link (.dialed _ result) => s.answerLaunch session result
  | .link effect => (s, [.link session effect])
  | .asked .. | .replied .. => (s, [])
  | .ended operation result => s.answerOperation operation result
  | .told news => s.tellNews news

def absorb (s : Server) (session : Nat) : List SessionEffect → Server × List ServerEffect
  | [] => (s, [])
  | effect :: rest =>
    let (s, first) := s.absorbOne session effect
    let (s, later) := s.absorb session rest
    (s, first ++ later)

/-- Lets a session do a step. -/
def within (s : Server) (session : Nat) (step : Session → Session × List SessionEffect) :
    Server × List ServerEffect :=
  match Assoc.find? session s.launches with
  | some launch =>
    let (inner, effects) := step launch.session
    (s.setLaunch session { launch with session := inner }).absorb session effects
  | none => (s, [])

/-- Ends the session in the slot, if there is one. -/
def endSession (s : Server) : Server × List ServerEffect :=
  match s.slot with
  | some session =>
    { s with slot := none }.within session (·.link fun c =>
      let (c, first) := c.shutdown
      let (c, later) := c.leave
      (c, first ++ later))
  | none => (s, [])

/-- Whether anything still keeps a session: the slot, its launch, or an operation under way. -/
def keeps (s : Server) (session : Nat) : Bool :=
  s.slot == some session
    || (Assoc.find? session s.launches).any (·.request.isSome)
    || s.asked.any (·.2.session == session)

/-! ## Requests -/

/-- Begins a launch: from here on the slot is taken. -/
def launch (s : Server) (request : Message) : Server × List ServerEffect :=
  if s.slot.isSome then s.fail request (.invalidRequest "a debug session is already running")
  else
    match request.readArguments LaunchArguments.record with
    | .error error => s.fail request error
    | .ok arguments =>
      let setup := arguments.connectionSetup s.defaults
      let target := s!"{setup.host}:{setup.port.toNat}"
      let session := s.launched
      let launch : Launched := {
        session := { connection := { setup }, files := s.files, root := arguments.workspaceRoot }
        inbox := .new setup.eventChannelSize
        target
        verbose := arguments.verbose
        request := some request }
      let s := { s.setLaunch session launch with
        launched := session + 1, slot := some session, tasks := s.tasks ++ [.connect session] }
      let (s, effects) :=
        if arguments.verbose then s.output "console" s!"Connecting to Starlark debug server at {target}" else (s, [])
      (s, effects ++ [log .info "connecting to debug server" [("addr", .plain target)]])

/-- Leaves a request to a task, if there is a session. -/
def ask (s : Server) (request : Message) (what : Debugger.Operation) : Server × List ServerEffect :=
  match s.slot with
  | none => s.fail request .notConnected
  | some session =>
    let operation := s.operations
    ({ s with
      operations := operation + 1
      asked := Assoc.insert operation { session, what, request } s.asked
      tasks := s.tasks ++ [.operation session operation what] }, [])

/-- The scopes of a frame in the current session, if there is one. -/
def scopes (s : Server) (frame : Debugger.Reference) : List Debugger.ScopeInfo × Server :=
  match s.current? with
  | some (session, launch) =>
    let (scopes, state) := launch.session.state.scopes frame
    (scopes, s.setLaunch session { launch with session := { launch.session with state } })
  | none => ([], s)

/-- Answers a request or leaves it to a task. -/
def perform (s : Server) (request : Message) : Server × List ServerEffect :=
  match Command.of request with
  | .error error => s.fail request error
  | .ok .capabilities => s.respond request true (some capabilities) none
  | .ok .launch => s.launch request
  | .ok .threads =>
    let threads := (s.current?.map fun (_, launch) => launch.session.state.threads).getD []
    s.respond request true (some (.ofMembers [("threads", .array (threads.map (·.toJson)))])) none
  | .ok (.scopes frame) =>
    let (scopes, s) := s.scopes frame
    s.respond request true (body (.scopes frame) (.scopes scopes)) none
  | .ok (.operation what) => s.ask request what
  | .ok .disconnect =>
    let (s, first) := s.endSession
    let (s, second) := s.respond request true none none
    let (s, third) := s.terminate
    ({ s with ending := some (.ok ()) }, first ++ second ++ third)
  | .ok .unknown => s.respond request true none (some s!"unhandled request {request.command}")

/-! ## Steps -/

/-- Takes the next message of the editor's. What is no request is left alone. -/
def receive (s : Server) (message : Message) : Server × List ServerEffect :=
  if s.ending.isSome ∨ message.kind ≠ .request then (s, [])
  else
    let (s, effects) := s.perform message
    (s, log .debug "request" [("seq", .number message.seq.toInt), ("command", .plain message.command)] :: effects)

/-- The editor's messages end, or cannot be read any further. -/
def endInput (s : Server) (ending : Except ReadError Unit) : Server × List ServerEffect :=
  if s.ending.isSome then (s, [])
  else
    match ending with
    | .ok () =>
      let (s, effects) := s.endSession
      ({ s with ending := some (.ok ()) }, effects)
    | .error error => ({ s with ending := some (.error error) }, [])

/-- The first task in line begins. -/
def begin (s : Server) : Server × List ServerEffect :=
  match s.tasks with
  | [] => (s, [])
  | .connect session :: tasks => { s with tasks }.within session (·.link (·.dial))
  | .operation session operation what :: tasks =>
    { s with tasks }.within session (·.start operation what)

/-- Relays the next thing that a session's connection tells. News of the server's is for the session first, and is lost
if nothing keeps that any more. -/
def relay (s : Server) (session : Nat) : Server × List ServerEffect :=
  match Assoc.find? session s.launches with
  | none => (s, [])
  | some launch =>
    if !launch.relaying then (s, [])
    else
      match launch.inbox.take with
      | none => (s, [])
      | some (delivery, inbox) =>
        let stop := fun (s : Server) => s.setLaunch session { launch with inbox, relaying := false }
        let launch := { launch with inbox }
        let s := s.setLaunch session launch
        match delivery with
        | .lagged lost => (s, [log .warn "dropped debug server events" [("skipped", .number lost)]])
        | .notification (.connectFailed attempt error) =>
          if launch.verbose then s.output "console" s!"Connection attempt {attempt} failed: {error}" else (s, [])
        | .notification .connected =>
          if launch.verbose then s.output "console" "Connected to Starlark debug server" else (s, [])
        | .notification (.debug payload) =>
          if s.keeps session then s.within session (·.handleEvent payload) else (stop s, [])
        | .notification (.disconnected error) =>
          let s := stop s
          let (s, first) := match error with
            | some error => s.output "stderr" s!"Lost connection to debug server: {error}"
            | none => (s, [])
          let (s, later) := s.terminate
          (s, first ++ later)

end Server

/-! ## Runs -/

/-- The steps of the adapter. -/
inductive Server.Action where
  | receive (message : Message)
  | endInput (ending : Except ReadError Unit)
  | begin
  | relay (session : Nat)
  | collect (session operation : Nat)
  | takeTurn (session : Nat)
  /-- A step of a session's connection. -/
  | link (session : Nat) (action : Connection.Action)
  deriving Repr

namespace Server

/-- Takes in what is known of the files. -/
def withFiles (s : Server) (files : FileTree) : Server :=
  { s with
    files
    launches := s.launches.map fun (session, launch) =>
      (session, { launch with session := { launch.session with files } }) }

/-- Whether reading ended with an error; then nothing happens any more. -/
def broken (s : Server) : Bool :=
  match s.ending with
  | some (.error _) => true
  | _ => false

def step (s : Server) (action : Action) : Server × List ServerEffect :=
  if s.broken then (s, [])
  else
    match action with
    | .receive message => s.receive message
    | .endInput ending => s.endInput ending
    | .begin => s.begin
    | .relay session => s.relay session
    | .collect session operation => s.within session (·.collect operation)
    | .takeTurn session => s.within session (·.takeTurn)
    | .link session action => s.within session (·.link (·.step action))

/-- Steps in order, with all their effects. -/
def run (s : Server) : List Action → Server × List ServerEffect
  | [] => (s, [])
  | action :: actions =>
    let (s, effects) := s.step action
    let (s, later) := s.run actions
    (s, effects ++ later)

end Server

end DebugBridge.Adapter
