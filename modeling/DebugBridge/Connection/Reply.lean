import DebugBridge.Connection.Basic

/-!
# Replies

What the server's answer to each kind of request is worth: an answer of the request's own kind gives its content, one
of another kind is an error.
-/

namespace DebugBridge

namespace Reply

open Wire.Event (Payload)

/-- An answer of a kind that is not the request's. -/
def unexpected (expected : String) (actual : Payload) : Except CallError α :=
  .error (.unexpectedResponse expected actual.kind)

def frames : Payload → Except CallError (List Wire.Frame)
  | .listFrames frames => .ok frames
  | other => unexpected "listFrames" other

/-- The value of an expression; without one, a value that shows nothing. -/
def value : Payload → Except CallError Wire.Value
  | .evaluate result => .ok (result.getD {})
  | other => unexpected "evaluate" other

def children : Payload → Except CallError (List Wire.Value)
  | .getChildren children => .ok children
  | other => unexpected "getChildren" other

def breakpointsSet : Payload → Except CallError Unit
  | .setBreakpoints => .ok ()
  | other => unexpected "setBreakpoints" other

def continued : Payload → Except CallError Unit
  | .continueExecution => .ok ()
  | other => unexpected "continueExecution" other

def paused : Payload → Except CallError Unit
  | .pauseThread => .ok ()
  | other => unexpected "pauseThread" other

def started : Payload → Except CallError Unit
  | .startDebugging => .ok ()
  | other => unexpected "startDebugging" other

end Reply

/-- A call by what it asks for. -/
inductive Query where
  | listFrames (thread : Int64)
  | evaluate (thread : Int64) (statement : String)
  | getChildren (thread value : Int64)
  | setBreakpoints (breakpoints : List Wire.Breakpoint)
  | continueExecution (thread : Int64) (stepping : Wire.Stepping)
  /-- Pauses a thread; thread 0 stands for all. -/
  | pauseThread (thread : Int64)
  | startDebugging
  /-- A request whose answer is given as it is. -/
  | send (payload : Wire.Request.Payload)
  deriving Repr

/-- What it gives. -/
inductive Query.Answer where
  | done
  | frames (frames : List Wire.Frame)
  | value (value : Wire.Value)
  | children (children : List Wire.Value)
  | payload (payload : Wire.Event.Payload)
  deriving DecidableEq, Repr

namespace Query

/-- The request that is sent. -/
def payload : Query → Wire.Request.Payload
  | listFrames thread => .listFrames thread
  | evaluate thread statement => .evaluate thread statement
  | getChildren thread value => .getChildren thread value
  | setBreakpoints breakpoints => .setBreakpoints breakpoints
  | continueExecution thread stepping => .continueExecution thread stepping.toInt32
  | pauseThread thread => .pauseThread thread
  | startDebugging => .startDebugging
  | send payload => payload

/-- What the server's answer is worth. -/
def answer (query : Query) (reply : Wire.Event.Payload) : Except CallError Answer :=
  match query with
  | listFrames _ => (Reply.frames reply).map .frames
  | evaluate .. => (Reply.value reply).map .value
  | getChildren .. => (Reply.children reply).map .children
  | setBreakpoints _ => (Reply.breakpointsSet reply).map fun _ => .done
  | continueExecution .. => (Reply.continued reply).map fun _ => .done
  | pauseThread _ => (Reply.paused reply).map fun _ => .done
  | startDebugging => (Reply.started reply).map fun _ => .done
  | send _ => .ok (.payload reply)

end Query

end DebugBridge
