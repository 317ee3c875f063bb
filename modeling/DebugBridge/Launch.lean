import DebugBridge.Settings
import DebugBridge.Wire.Frame

/-!
# Launching

What the editor asks for when it launches or attaches, and how the connection to the debug server is set up from that.
What the editor leaves out comes from the settings.
-/

namespace DebugBridge

/-- How a connection is made and kept. -/
structure ConnectionSetup where
  host : String := "localhost"
  port : UInt16 := 7300
  /-- Attempts before the connection is given up; none counts as one. -/
  connectAttempts : UInt32 := 5
  retryDelayMs : UInt64 := 1000
  /-- How long a call waits for its reply; without it, for ever. -/
  replyTimeoutMs : Option Nat := none
  /-- How many notifications are kept for a slow reader. -/
  eventChannelSize : Nat := 256
  maxFrameBytes : Nat := Wire.maxFrameBytes
  deriving DecidableEq, Repr

/-- The arguments of a launch or attach request. -/
structure LaunchArguments where
  host : Option String := none
  port : Option UInt16 := none
  workingDirectory : Option String := none
  root : Option String := none
  verbose : Bool := false
  deriving DecidableEq, Repr

namespace LaunchArguments

open Schema in
def record : Record LaunchArguments where
  name := "LaunchArguments"
  start := {}
  fields := [
    .of "host" .allowedByName (optional string) fun a host => { a with host },
    .of "port" .allowedByName (optional uint16) fun a port => { a with port },
    .of "cwd" .allowedByName (optional path) fun a workingDirectory => { a with workingDirectory },
    .of "workspaceRoot" .allowedByName (optional path) fun a root => { a with root },
    .of "verbose" .allowed bool fun a verbose => { a with verbose }]

def ofJson (json : Json) : Except Schema.Fault LaunchArguments :=
  record.read Schema.jsonFormat json

/-- The directory that relative source paths are seen from. -/
def workspaceRoot (arguments : LaunchArguments) : Option String :=
  arguments.root <|> arguments.workingDirectory

/-- The connection that is asked for. -/
def connectionSetup (arguments : LaunchArguments) (defaults : ServerSettings) : ConnectionSetup where
  host := arguments.host.getD defaults.host
  port := arguments.port.getD defaults.port
  connectAttempts := defaults.connectAttempts
  retryDelayMs := defaults.retryDelayMs

end LaunchArguments

end DebugBridge
