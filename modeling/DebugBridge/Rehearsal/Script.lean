import DebugBridge.Debugger.Session

/-!
# Scripts

A rehearsal plays a session against a server that follows a script, on a clock that only the script moves. After each
step of the script everything runs until nothing more can happen, and then what could be seen of it is noted.
-/

namespace DebugBridge.Rehearsal

/-- What an attempt to open a stream comes to. -/
inductive Opening where
  | opens
  | fails (cause : String)
  /-- It waits for a release, and then opens. -/
  | hangs
  deriving DecidableEq, Repr

/-- What a step begins. -/
inductive Call where
  | connect
  | query (query : Query)
  | operation (operation : Debugger.Operation)
  deriving Repr

/-- What a step does. -/
inductive Act where
  | call (call : Call)
  /-- The server writes. -/
  | write (bytes : Bytes)
  /-- The server ends its side. -/
  | endStream
  /-- Lets a hanging attempt go on; if none hangs, the next one that would. -/
  | release
  /-- Time passes, so much at once. -/
  | advance (time slice : Nat)
  | shutdown
  /-- The same, begun as a call. -/
  | disconnect
  /-- Drops the call that a step began. -/
  | cancel (step : Nat)
  | idle
  deriving Repr

/-- A step of a script; then the server answers the last request it got, if the step tells with what. -/
structure Step where
  act : Act
  reply : Option (Option Wire.Event.Payload) := none
  deriving Repr

/-- What a call came to. -/
inductive Finished where
  | connected (result : Except CallError Unit)
  | queried (result : Except CallError Query.Answer)
  | operated (result : Except Debugger.Error Debugger.Answer)
  | disconnected
  deriving Repr

/-- What a listener saw. -/
inductive Seen where
  | notification (notification : Notification)
  | lagged (lost : Nat)
  /-- What the session made of the server's news. -/
  | news (news : List Debugger.News)
  deriving Repr

/-- What could be seen of a step. -/
structure Observation where
  sent : List Wire.Request
  finished : List (Nat × Finished)
  seen : List Seen
  state : LinkState
  /-- Whether the server has seen the end of a stream. -/
  streamEnded : Bool
  threads : List Debugger.Thread
  deriving Repr

end DebugBridge.Rehearsal
