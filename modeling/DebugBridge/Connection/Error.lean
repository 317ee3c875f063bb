import DebugBridge.Wire.Frame

/-!
# States and errors of a connection

Where a connection to the debug server stands, what is told about it, and why a call on it ends without an answer.
-/

namespace DebugBridge

/-- Where a connection stands. In the last two it is over. -/
inductive LinkState where
  | connecting
  | connected
  /-- Shut down, or ended by the server. -/
  | closed
  /-- Given up while connecting, or broken. -/
  | failed
  deriving DecidableEq, Repr

def LinkState.name : LinkState → String
  | connecting => "Connecting"
  | connected => "Connected"
  | closed => "Closed"
  | failed => "Failed"

/-- Why a call ends without an answer. -/
inductive CallError where
  /-- The stream took no more bytes. -/
  | io (cause : String)
  | protocol (error : Wire.FrameError)
  | connectFailed (attempts : Nat) (cause : String)
  | notConnected
  | invalidState (state : LinkState)
  | connectionClosed
  | timeout
  /-- The server answered with an error. -/
  | remote (text : String)
  | unexpectedResponse (expected actual : String)
  deriving DecidableEq, Repr

def CallError.message : CallError → String
  | io cause => cause
  | protocol error => s!"wire protocol error: {error.message}"
  | connectFailed attempts cause => s!"failed to connect to debug server after {attempts} attempt(s): {cause}"
  | notConnected => "debug client is not connected"
  | invalidState state => s!"debug client cannot connect from state {state.name}"
  | connectionClosed => "debug server connection closed"
  | timeout => "timed out waiting for debug server reply"
  | remote text => text
  | unexpectedResponse expected actual => s!"expected {expected} response, got {actual}"

/-- What is told to everyone who listens to a connection. -/
inductive Notification where
  | connectFailed (attempt : Nat) (error : String)
  | connected
  /-- A message of the server's own accord. -/
  | debug (payload : Wire.Event.Payload)
  /-- The connection is gone; with an error if it broke. -/
  | disconnected (error : Option String)
  deriving DecidableEq, Repr

end DebugBridge
