import DebugBridge.Json.Schema

/-!
# Messages of the editor's protocol

The editor sends requests; the adapter answers with responses and tells news by events. Anything else the editor
sends is read like a request and then left alone. Outgoing messages are JSON objects whose fields have a fixed
order; as values their members are in the order of their names.
-/

namespace DebugBridge.Adapter

/-- The three kinds of messages. -/
inductive MessageKind where
  | request
  | response
  | event
  deriving DecidableEq, Repr

def MessageKind.name : MessageKind → String
  | request => "request"
  | response => "response"
  | event => "event"

/-- A message from the editor. Without arguments they are null. -/
structure Message where
  seq : Int64 := 0
  kind : MessageKind := .request
  command : String := ""
  arguments : Json := .null
  deriving Repr

namespace Message

def record : Schema.Record Message where
  name := "Request"
  start := {}
  fields := [
    .of "seq" .refused Schema.int64 fun m seq => { m with seq },
    .of "type" .refused
      (Schema.variant [("request", .request), ("response", .response), ("event", .event)])
      fun m kind => { m with kind },
    .of "command" .allowed Schema.string fun m command => { m with command },
    .of "arguments" .allowed Schema.anything fun m arguments => { m with arguments }]

def ofJson (json : Json) : Except Schema.Fault Message :=
  record.read Schema.jsonFormat json

/-- An argument by its name; null when the arguments are no object or lack it. -/
def argument? (m : Message) (name : String) : Option Json :=
  m.arguments.get? name

end Message

/-- The answer to a request. -/
structure Response where
  seq : Int
  requestSeq : Int64
  command : String
  success : Bool
  message : Option String := none
  body : Option Json := none
  deriving Repr

namespace Response

/-- The fields in their order; a text or body that is not there is left out. -/
def toJson (r : Response) : Json :=
  .object (
    [("seq", .int r.seq), ("type", .string MessageKind.response.name), ("request_seq", .int r.requestSeq.toInt),
      ("success", .bool r.success), ("command", .string r.command)]
    ++ (r.message.map fun text => ("message", Json.string text)).toList
    ++ (r.body.map fun body => ("body", body)).toList)

end Response

/-- News for the editor. -/
structure News where
  seq : Int
  event : String
  body : Option Json := none
  deriving Repr

namespace News

/-- The fields in their order; a body that is not there is left out. -/
def toJson (n : News) : Json :=
  .object (
    [("seq", .int n.seq), ("type", .string MessageKind.event.name), ("event", .string n.event)]
    ++ (n.body.map fun body => ("body", body)).toList)

end News

/-- What the adapter sends. -/
inductive Outgoing where
  | response (r : Response)
  | news (n : News)
  deriving Repr

namespace Outgoing

def seq : Outgoing → Int
  | response r => r.seq
  | news n => n.seq

/-- The message as a value, its members in the order of their names. -/
def toJson : Outgoing → Json
  | response r => sorted r.toJson
  | news n => sorted n.toJson
where
  sorted : Json → Json
    | .object members => .ofMembers members
    | other => other

end Outgoing

end DebugBridge.Adapter
