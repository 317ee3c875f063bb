import DebugBridge.Adapter.Loop
import DebugBridge.Debugger.Move

/-!
# The adapter in any order

The loop picks one order for what can happen. Here things happen in any order in which they may come from the editor,
from the servers and from the tasks, and an operation may also have to wait for the writer, as in `Session.Move`. What
the adapter owes the editor is told by the requests that were read and the responses that were sent.
-/

namespace DebugBridge.Adapter

/-- The moves of the adapter: its steps, and beginnings that stop before the writer. -/
inductive Server.Move where
  | step (action : Server.Action)
  /-- The first task in line begins; an operation waits for the writer. -/
  | prepare
  /-- The first in a session's line gets the turn and waits for the writer. -/
  | prepareTurn (session : Nat)
  deriving Repr

namespace Server

def prepare (s : Server) : Server × List ServerEffect :=
  match s.tasks with
  | [] => (s, [])
  | .connect session :: tasks => { s with tasks }.within session (·.link (·.dial))
  | .operation session operation what :: tasks =>
    { s with tasks }.within session (·.move (.prepare operation what))

/-- One move. A connection's own steps are those that no task has to do. -/
def move (s : Server) : Move → Server × List ServerEffect
  | .step action =>
    match action with
    | .link _ step => if step.byOwner then (s, []) else s.step action
    | _ => s.step action
  | .prepare => if s.broken then (s, []) else s.prepare
  | .prepareTurn session => if s.broken then (s, []) else s.within session (·.move .prepareTurn)

/-- Moves in order, with all their effects. -/
def moves (s : Server) : List Move → Server × List ServerEffect
  | [] => (s, [])
  | m :: rest =>
    let (s, effects) := s.move m
    let (s, later) := s.moves rest
    (s, effects ++ later)

/-! ## What is owed to the editor -/

/-- The requests that are read: those up to the first to disconnect, or to the end of the input. -/
def requestsRead : List Move → List Message
  | [] => []
  | .step (.receive message) :: rest =>
    if message.kind ≠ .request then requestsRead rest
    else message :: if message.command = "disconnect" then [] else requestsRead rest
  | .step (.endInput _) :: _ => []
  | _ :: rest => requestsRead rest

/-- The responses that were sent. -/
def responses (effects : List ServerEffect) : List Response :=
  effects.filterMap fun
    | .sent (.response r) => some r
    | _ => none

/-- Whether a response is for a request. -/
def Answers (r : Response) (request : Message) : Prop :=
  r.requestSeq = request.seq ∧ r.command = request.command

/-- The requests that a task has still to answer. -/
def unanswered (s : Server) : List Message :=
  s.launches.filterMap (·.2.request) ++ s.asked.map (·.2.request)

/-- Nothing can happen any more without a message from the editor or from a server: no task has anything to do, no
stream is to be opened, no time is to pass, and no request waits for the writer. -/
structure Idle (s : Server) : Prop where
  next : s.next? = none
  errands : s.errands = []
  submitted : ∀ session launch, (session, launch) ∈ s.launches →
    ∀ number call, (number, call) ∈ launch.session.connection.calls → call.sent = true

end Server

end DebugBridge.Adapter
