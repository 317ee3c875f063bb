import DebugBridge.Adapter.Move

/-!
# The adapter in pieces

Two of the adapter's steps are made of pieces, and other tasks have their turns in between. A relay takes a notification
from its inbox and lets the session take note of it; then it says, one message at a time, what there is to say. And the
request loop, when it leaves, takes the session from the slot and closes its connection; then it ends the stream of the
writer, answers the request if there is one, and tells that debugging is over.

Here these pieces are steps of their own. Between taking a session from the slot and closing its connection there is no
step: nobody looks at the slot there. There is none either between the two messages that answer a launch, the response
and the news that the session is initialized: its task sends one right after the other and waits for nothing in between.
-/

namespace DebugBridge.Adapter

/-- What a relay has still to say. -/
inductive Line where
  | news (news : Debugger.News)
  | output (category line : String)
  /-- Debugging is over. -/
  | terminated
  deriving DecidableEq, Repr

/-- What the request loop has still to do as it leaves. -/
inductive Leaving where
  /-- The stream of a session's writer is to be ended, before the request is answered. -/
  | hangsUp (session : Nat) (request : Option Message)
  | answers (request : Message)
  | terminates
  deriving Repr

/-- What a relay says of a connection that is gone. -/
def farewell (error : Option String) : List Line :=
  (error.map fun error => .output "stderr" s!"Lost connection to debug server: {error}").toList ++ [.terminated]

/-- A relay takes the next thing that its session's connection tells, if there is any. The lines are what it is to say
of that; news of the server's is for the session first, and the relay stops if nothing keeps that any more. -/
def Launched.hear (launch : Launched) (kept : Bool) : Option (Launched × List Line × List ServerEffect) :=
  if !launch.relaying then none
  else
    launch.inbox.take.map fun (delivery, inbox) =>
      let launch := { launch with inbox }
      match delivery with
      | .lagged lost => (launch, [], [Server.log .warn "dropped debug server events" [("skipped", .number lost)]])
      | .notification (.connectFailed attempt error) =>
        (launch, if launch.verbose then [.output "console" s!"Connection attempt {attempt} failed: {error}"] else [], [])
      | .notification .connected =>
        (launch, if launch.verbose then [.output "console" "Connected to Starlark debug server"] else [], [])
      | .notification (.debug payload) =>
        if kept then
          let (news, state) := launch.session.state.handleEvent payload
          ({ launch with session := { launch.session with state } }, news.map .news, [])
        else ({ launch with relaying := false }, [], [])
      | .notification (.disconnected error) => ({ launch with relaying := false }, farewell error, [])

namespace Server

/-- The same, in the adapter. -/
def hear (s : Server) (session : Nat) (kept : Bool) : Server × List Line × List ServerEffect :=
  match (Assoc.find? session s.launches).bind (·.hear kept) with
  | some (launch, lines, effects) => (s.setLaunch session launch, lines, effects)
  | none => (s, [], [])

/-- Says one line. -/
def say (s : Server) : Line → Server × List ServerEffect
  | .news news => s.tell (newsEvent news).1 (some (newsEvent news).2)
  | .output category line => s.output category line
  | .terminated => s.terminate

/-- Says lines in order. -/
def sayAll (s : Server) : List Line → Server × List ServerEffect
  | [] => (s, [])
  | line :: rest =>
    let (s, first) := s.say line
    let (s, later) := s.sayAll rest
    (s, first ++ later)

end Server

/-! ## Steps -/

/-- An adapter whose tasks may stand between two pieces. -/
structure Strands where
  server : Server := {}
  /-- What each session's relay has still to say. -/
  lines : List (Nat × List Line) := []
  leaving : Option Leaving := none
  deriving Repr

/-- The steps of the adapter in pieces. -/
inductive Strands.Step where
  | moves (m : Server.Move)
  /-- A session's relay says its next line, or else takes the next notification. -/
  | relays (session : Nat)
  /-- The request loop goes on leaving. -/
  | leaves
  deriving Repr

/-- The request by which the request loop begins to leave, or that there is none because the input has ended. -/
def Server.Move.departs? : Server.Move → Option (Option Message)
  | .step (.receive message) =>
    if message.kind = .request ∧ message.command = "disconnect" then some (some message) else none
  | .step (.endInput (.ok ())) => some none
  | _ => none

/-- Whether a move is made of pieces, or is one. -/
def Server.Move.inPieces : Server.Move → Bool
  | .step (.relay _) | .step (.link _ .shutdown) | .step (.link _ .leave) => true
  | m => m.departs?.isSome

namespace Strands

/-- What a session's relay has still to say. -/
def line (x : Strands) (session : Nat) : List Line :=
  (Assoc.find? session x.lines).getD []

/-- Whether anything still keeps a session, if only the request loop that ends it. -/
def keeps (x : Strands) (session : Nat) : Bool :=
  x.server.keeps session ||
    match x.leaving with
    | some (.hangsUp other _) => other == session
    | _ => false

def relay (x : Strands) (session : Nat) : Strands × List ServerEffect :=
  match x.line session with
  | line :: rest =>
    let (server, effects) := x.server.say line
    ({ x with server, lines := Assoc.insert session rest x.lines }, effects)
  | [] =>
    let (server, lines, effects) := x.server.hear session (x.keeps session)
    ({ x with server, lines := Assoc.insert session lines x.lines }, effects)

/-- The request loop begins to leave, at a request or at the end of the input. -/
def depart (x : Strands) (request : Option Message) : Strands × List ServerEffect :=
  let logged := (request.map fun request => Server.log .debug "request"
    [("seq", .number request.seq.toInt), ("command", .plain request.command)]).toList
  match x.server.slot with
  | some session =>
    let (server, effects) :=
      { x.server with slot := none, ending := some (.ok ()) }.within session (·.link (·.step .shutdown))
    ({ x with server, leaving := some (.hangsUp session request) }, logged ++ effects)
  | none => ({ x with server.ending := some (.ok ()), leaving := request.map .answers }, logged)

/-- The request loop goes on leaving. -/
def leave (x : Strands) : Strands × List ServerEffect :=
  match x.leaving with
  | none => (x, [])
  | some (.hangsUp session request) =>
    let (server, effects) := x.server.within session (·.link (·.step .leave))
    ({ x with server, leaving := request.map .answers }, effects)
  | some (.answers request) =>
    let (server, effects) := x.server.respond request true none none
    ({ x with server, leaving := some .terminates }, effects)
  | some .terminates =>
    let (server, effects) := x.server.terminate
    ({ x with server, leaving := none }, effects)

/-- One step. What is made of pieces is left to these. -/
def step (x : Strands) (step : Step) : Strands × List ServerEffect :=
  if x.server.broken then (x, [])
  else
    match step with
    | .relays session => x.relay session
    | .leaves => x.leave
    | .moves m =>
      match m.departs? with
      | some request => if x.server.ending.isSome then (x, []) else x.depart request
      | none =>
        if m.inPieces then (x, [])
        else
          let (server, effects) := x.server.move m
          ({ x with server }, effects)

/-- Steps in order, with all their effects. -/
def run (x : Strands) : List Step → Strands × List ServerEffect
  | [] => (x, [])
  | step :: steps =>
    let (x, effects) := x.step step
    let (x, later) := x.run steps
    (x, effects ++ later)

end Strands

end DebugBridge.Adapter
