import DebugBridge.Rehearsal.CannedServer

/-!
# Dialogues

A dialogue joins a connection with the canned server at its other end, and everything takes time: bytes arrive in
whatever pieces, in both directions, the server takes up requests and says what there is to say when it gets to it, and
so does the connection with reading. Queries are put one after another, each when the one before it has come to its end.
A caller may give up when the connection's calls may not wait any longer; the server answers its request all the same,
only later. The server may also say something of its own accord at any time.
-/

namespace DebugBridge.Rehearsal

/-- A query under way. -/
structure Asking where
  number : UInt64
  query : Query
  /-- When its request was handed to the writer. -/
  since : Option Nat := none
  deriving Repr

/-- How a query has ended. -/
structure Ended where
  result : Except CallError Query.Answer
  /-- How long that took, from when its request was handed to the writer. -/
  waited : Nat
  deriving Repr

/-- A connection, a canned server, and what is between them. -/
structure Dialogue where
  /-- The time in milliseconds. -/
  clock : Nat := 0
  connection : Connection
  server : CannedServer := {}
  /-- What the connection has written and has not reached the server. -/
  outward : Bytes := []
  /-- What the server has sent and has not arrived. -/
  inward : Bytes := []
  /-- The queries that were not put yet. -/
  queries : List Query
  current : Option Asking := none
  /-- How the queries before it have ended. -/
  results : List Ended := []
  deriving Repr

/-- What can happen at either end, or in between. -/
inductive Dialogue.Action where
  /-- The next query is put. -/
  | ask
  /-- Its request is handed to the writer. -/
  | transmit
  /-- So many bytes reach the server. -/
  | carry (count : Nat)
  /-- The server takes up a request. -/
  | take
  /-- The server says something that is due to a request. -/
  | say
  /-- So many bytes reach the connection. -/
  | bring (count : Nat)
  /-- The connection reads on. -/
  | read
  /-- The caller looks for its answer. -/
  | collect
  /-- The caller gives up, if it may not wait any longer. -/
  | expire
  /-- So many milliseconds pass. -/
  | wait (time : Nat)
  /-- The server tells something that nobody asked for. -/
  | emit (payload : Wire.Event.Payload)
  deriving Repr

/-- Whether something happens by itself, sooner or later: it is no news, nobody gives up, and no time passes. -/
def Dialogue.Action.byItself : Dialogue.Action → Bool
  | .emit _ | .expire | .wait _ => false
  | _ => true

namespace Dialogue

/-- Queries for a canned server, over a new connection's first stream. -/
def new (setup : ConnectionSetup) (answers : CannedAnswers) (queries : List Query) : Dialogue where
  connection := (({ setup : Connection }).run [.dial, .opened 0 0, .attach 0]).1
  server := { answers }
  queries

/-- Passes on what a step of the connection does: what is written goes out, and the query under way ends with its
answer. -/
def pass (d : Dialogue) : List Effect → Dialogue
  | [] => d
  | .wrote _ bytes :: rest => { d with outward := d.outward ++ bytes }.pass rest
  | .answered number result :: rest =>
    match d.current with
    | some asking =>
      if number = asking.number then
        let ended := { result := result.bind asking.query.answer, waited := d.clock - asking.since.getD d.clock }
        { d with current := none, results := d.results ++ [ended] }.pass rest
      else d.pass rest
    | none => d.pass rest
  | _ :: rest => d.pass rest

/-- A step of the connection. -/
def link (d : Dialogue) (action : Connection.Action) : Dialogue :=
  { d with connection := (d.connection.step action).1 }.pass (d.connection.step action).2

/-- Puts the next query, unless one is under way. Without a connection it has its result at once. -/
def ask (d : Dialogue) : Dialogue :=
  match d.current, d.queries with
  | none, query :: queries =>
    match d.connection.issue query.payload with
    | .ok (number, connection) => { d with connection, queries, current := some { number, query } }
    | .error error => { d with queries, results := d.results ++ [{ result := .error error, waited := 0 }] }
  | _, _ => d

/-- Hands the request of the query under way to the writer. From then on its answer is waited for. -/
def transmit (d : Dialogue) : Dialogue :=
  match d.current with
  | some { number, query, since := none } =>
    { d with current := some { number, query, since := some d.clock } }.link (.transmit number)
  | _ => d

/-- Bytes reach the server. -/
def carry (d : Dialogue) (count : Nat) : Dialogue :=
  { d with
    server := { d.server with unread := d.server.unread ++ d.outward.take count }
    outward := d.outward.drop count }

/-- Bytes reach the connection. -/
def bring (d : Dialogue) (count : Nat) : Dialogue :=
  { d with inward := d.inward.drop count }.link (.arrive (d.inward.take count))

def say (d : Dialogue) : Dialogue :=
  { d with server := (d.server.say d.clock).2, inward := d.inward ++ (d.server.say d.clock).1 }

def collect (d : Dialogue) : Dialogue :=
  match d.current with
  | some asking => d.link (.collect asking.number)
  | none => d

/-- The query under way is given up once it has waited as long as calls may. -/
def expire (d : Dialogue) : Dialogue :=
  match d.current, d.connection.setup.replyTimeoutMs with
  | some { number, since := some since, .. }, some timeout =>
    if since + timeout ≤ d.clock then d.link (.expire number) else d
  | _, _ => d

/-- The server tells something; what is too large is not sent. -/
def emit (d : Dialogue) (payload : Wire.Event.Payload) : Dialogue :=
  match Wire.frame Wire.maxFrameBytes ({ payload := some payload } : Wire.Event).encode with
  | .ok bytes => { d with inward := d.inward ++ bytes }
  | .error _ => d

/-- One step. -/
def step (d : Dialogue) : Action → Dialogue
  | .ask => d.ask
  | .transmit => d.transmit
  | .carry count => d.carry count
  | .take => { d with server := d.server.take d.clock }
  | .say => d.say
  | .bring count => d.bring count
  | .read => d.link .read
  | .collect => d.collect
  | .expire => d.expire
  | .wait time => { d with clock := d.clock + time }
  | .emit payload => d.emit payload

/-- Steps in order. -/
def run (d : Dialogue) (actions : List Action) : Dialogue :=
  actions.foldl step d

/-- Nothing more happens by itself, however long one waits. -/
def AtRest (d : Dialogue) : Prop :=
  ∀ (time : Nat) (action : Action), action.byItself = true →
    (d.step (.wait time)).step action = d.step (.wait time)

end Dialogue

end DebugBridge.Rehearsal
