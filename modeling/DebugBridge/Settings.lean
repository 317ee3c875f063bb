import DebugBridge.Json.Schema
import DebugBridge.Toml.Document
import DebugBridge.Workspace.FileTree

/-!
# Settings

The bridge's settings come from a TOML document with a section on its log and one on the debug server. Every key may
be left out and then has its default; a key that is not known is refused.
-/

namespace DebugBridge

/-- What is logged, in which form, and where to. `level` is a level's name or a list of filter directives. -/
structure LogSettings where
  level : String := "info"
  json : Bool := false
  stderr : Bool := true
  file : Option String := none
  deriving DecidableEq, Repr

/-- Where the debug server listens and how often to try. -/
structure ServerSettings where
  host : String := "localhost"
  port : UInt16 := 7300
  connectAttempts : UInt32 := 5
  retryDelayMs : UInt64 := 1000
  deriving DecidableEq, Repr

structure Settings where
  log : LogSettings := {}
  server : ServerSettings := {}
  deriving DecidableEq, Repr

namespace Settings

open Schema

/-! ## The form of a document -/

/-- How a document's floats look in an error: never with an exponent. -/
def tomlFormat : Format where
  floats := { positional := fun _ => true, nan := "NaN", infinity := "inf" }
  surplusAllowed := true

def logRecord : Record LogSettings where
  name := "LoggingConfig"
  start := {}
  closed := true
  fields := [
    .of "level" .allowed string fun s level => { s with level },
    .of "json" .allowed bool fun s json => { s with json },
    .of "stderr" .allowed bool fun s stderr => { s with stderr },
    .of "file" .allowed (optional path) fun s file => { s with file }]

def serverRecord : Record ServerSettings where
  name := "DebugServerConfig"
  start := {}
  closed := true
  fields := [
    .of "host" .allowed string fun s host => { s with host },
    .of "port" .allowed uint16 fun s port => { s with port },
    .of "connect_attempts" .allowed uint32 fun s connectAttempts => { s with connectAttempts },
    .of "retry_delay_ms" .allowed uint64 fun s retryDelayMs => { s with retryDelayMs }]

def record : Record Settings where
  name := "BridgeConfig"
  start := {}
  closed := true
  fields := [
    .of "logging" .allowed logRecord.read fun s log => { s with log },
    .of "debug_server" .allowed serverRecord.read fun s server => { s with server }]

/-! ## Loading -/

/-- Why there are no settings. -/
inductive LoadError where
  | unreadable (path : String) (fault : FileTree.Fault)
  /-- The text is no TOML document. -/
  | notToml
  | refused (fault : Fault)
  deriving DecidableEq, Repr

def LoadError.message : LoadError → String
  | unreadable path fault => s!"failed to read config file {path}: {fault.message}"
  | notToml => "invalid config"
  | refused fault => s!"invalid config: {fault.message}"

/-- The settings that a text gives. -/
def ofText (text : String) : Except LoadError Settings :=
  match Toml.parse text with
  | none => .error .notToml
  | some document => (record.read tomlFormat document).mapError .refused

/-- The settings in a file. -/
def load (files : FileTree) (path : String) : Except LoadError Settings :=
  match files.readText path with
  | .ok text => ofText text
  | .error fault => .error (.unreadable path fault)

end Settings

end DebugBridge
