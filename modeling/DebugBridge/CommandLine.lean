import DebugBridge.Adapter.Loop

/-!
# The command line

The adapter as a program: it reads requests from its input, writes answers to its output, and logs to its error stream,
to a file, or to both. A bad argument ends it with code 2, an input that cannot be read with code 1.
-/

namespace DebugBridge.CommandLine

/-- The program's name and version. -/
def name : String := "starlark-dap"
def version : String := "0.1.0"

/-! ## Arguments -/

/-- What the arguments ask for. -/
structure Options where
  config : Option String := none
  verbose : Bool := false
  deriving DecidableEq, Repr

/-- What is done with a list of arguments. -/
inductive Request where
  | serve (options : Options)
  | showVersion
  | showHelp (long : Bool)
  | refuse
  deriving DecidableEq, Repr

/-- An argument that is an option, and no value of one. -/
def isOption (argument : String) : Bool :=
  argument.startsWith "-" && argument != "-"

/-- The text after a beginning. -/
def after? (start text : String) : Option String :=
  let start := start.toList
  if start.isPrefixOf text.toList then some (String.ofList (text.toList.drop start.length)) else none

/-- Sets the settings' path, once; it must not be empty. -/
def Options.setConfig (o : Options) (path : String) : Option Options :=
  if o.config.isSome || path.isEmpty then none else some { o with config := some path }

/-- Reads arguments from the left. The first one that is wrong, or asks for something other than to serve, decides. -/
def readArguments (options : Options) : List String → Request
  | [] => .serve options
  | ["--"] => .serve options
  | "--version" :: _ => .showVersion
  | "--help" :: _ => .showHelp true
  | "--verbose" :: rest => if options.verbose then .refuse else readArguments { options with verbose := true } rest
  | "--config" :: path :: rest =>
    if isOption path then .refuse
    else
      match options.setConfig path with
      | some options => readArguments options rest
      | none => .refuse
  | argument :: rest =>
    match after? "--config=" argument with
    | some path =>
      match options.setConfig path with
      | some options => readArguments options rest
      | none => .refuse
    | none =>
      if (after? "-V" argument).isSome then .showVersion
      else if (after? "-h" argument).isSome then .showHelp false
      else .refuse

/-- What the program is asked to do. The settings' path may also come from the environment. -/
def readCommand (arguments : List String) (environmentConfig : Option String) : Request :=
  match readArguments {} arguments with
  | .serve options =>
    match options.config, environmentConfig with
    | none, some path =>
      match options.setConfig path with
      | some options => .serve options
      | none => .refuse
    | _, _ => .serve options
  | other => other

/-- The version, as it is shown. -/
def versionLine : String :=
  name ++ " " ++ version ++ "\n"

/-- What is said to arguments that are refused. -/
def usage (arguments : List String) : String :=
  let given := " ".intercalate arguments
  s!"error: unexpected arguments in {given}\n\nUsage: {name} [OPTIONS]\n\nFor more information, try '--help'.\n"

/-- The short help, one line an option, and the long one. -/
def help (long : Bool) (environmentConfig : Option String) : String :=
  String.join (lines.map (· ++ "\n"))
where
  lines : List String :=
  let environment := "[env: STARLARK_DAP_CONFIG=" ++ environmentConfig.getD "" ++ "]"
  if long then [
    "Debug adapter bridging DAP clients to a Starlark debug server.",
    "",
    "Speaks DAP over stdio; logs go to stderr and/or the configured log file.",
    "",
    "Usage: " ++ name ++ " [OPTIONS]",
    "",
    "Options:",
    "      --config <CONFIG>",
    "          Path to a TOML config file",
    "          ",
    "          " ++ environment,
    "",
    "      --verbose",
    "          Log at `debug` level regardless of the configured level",
    "",
    "  -h, --help",
    "          Print help (see a summary with '-h')",
    "",
    "  -V, --version",
    "          Print version"]
  else [
    "Debug adapter bridging DAP clients to a Starlark debug server",
    "",
    "Usage: " ++ name ++ " [OPTIONS]",
    "",
    "Options:",
    "      --config <CONFIG>  Path to a TOML config file " ++ environment,
    "      --verbose          Log at `debug` level regardless of the configured level",
    "  -h, --help             Print help (see more with '--help')",
    "  -V, --version          Print version"]

/-! ## Logging -/

/-- A line on the error stream or in the log file. -/
inductive Line where
  | text (text : String)
  | record (record : Log.Record)
  deriving DecidableEq, Repr

/-- The line's text. A record is an object where the settings ask for that, and may have a time. -/
def Line.render (json : Bool) (time : Option String) : Line → String
  | text line => line
  | record r =>
    if json then (Utf8.decode? (r.toJson time).encode).getD ""
    else
      match time with
      | some time => time ++ " " ++ r.line
      | none => r.line

/-- Where log records go. -/
structure Logger where
  filter : Log.Filter
  json : Bool
  stderr : Bool
  /-- The place of the log file, if it could be opened. -/
  file : Option (List String)
  deriving Repr

namespace Logger

/-- Sets logging up; the log file is made if it is not there. What went wrong with it is told as a record. -/
def prepare (settings : LogSettings) (environment : Option String) (files : FileTree) :
    Logger × FileTree × List Log.Record :=
  let logger : Logger := {
    filter := Log.filter settings.level environment, json := settings.json, stderr := settings.stderr, file := none }
  match settings.file with
  | none => (logger, files, [])
  | some path =>
    match files.writable path with
    | .ok place =>
      let files := if (files.get? place).isSome then files else files.insert place (.file [])
      ({ logger with file := some place }, files, [])
    | .error fault =>
      (logger, files, [{
        level := .warn, target := "starlark.config", message := "failed to open log file; file logging disabled"
        fields := [("path", .plain path), ("error", .plain fault.message)] }])

/-- The records that are written. -/
def passing (logger : Logger) (records : List Log.Record) : List Line :=
  (records.filter (·.passes logger.filter)).map .record

end Logger

/-! ## Running -/

/-- What the program finds when it starts. -/
structure Invocation where
  arguments : List String
  /-- The environment's path to the settings, and its log directives. -/
  config : Option String := none
  logDirectives : Option String := none
  files : FileTree := {}
  deriving Repr

/-- The program while it serves. -/
structure Program where
  loop : Adapter.Loop
  logger : Logger
  files : FileTree
  deriving Repr

/-- What is written at some point. -/
structure Written where
  output : Bytes := []
  errors : List Line := []
  /-- Lines for the log file. -/
  logFile : List Line := []
  deriving Repr

def Written.append (a b : Written) : Written :=
  { output := a.output ++ b.output, errors := a.errors ++ b.errors, logFile := a.logFile ++ b.logFile }

instance : Append Written := ⟨Written.append⟩

namespace Program

/-- What a program writes of its records and messages. -/
def write (logger : Logger) (records : List Log.Record) (messages : List Adapter.Outgoing) : Written :=
  let lines := logger.passing records
  { output := messages.flatMap fun message => Adapter.writeValue message.toJson
    errors := if logger.stderr then lines else []
    logFile := if logger.file.isSome then lines else [] }

/-- The settings. Where they cannot be loaded this is told, and the defaults are in force. -/
def settings (files : FileTree) (options : Options) : Settings × List Line :=
  let (settings, complaint) : Settings × List Line :=
    match options.config with
    | none => ({}, [])
    | some path =>
      match Settings.load files path with
      | .ok settings => (settings, [])
      | .error error =>
        ({}, [.text s!"{name}: failed to load config from {path}: {error.message}; continuing with defaults"])
  ({ settings with log := if options.verbose then settings.log.verbose else settings.log }, complaint)

/-- Starts serving. -/
def start (invocation : Invocation) (options : Options) : Program × Written :=
  let (settings, complaint) := settings invocation.files options
  let (logger, files, records) := Logger.prepare settings.log invocation.logDirectives invocation.files
  let greeting : Log.Record := {
    level := .info, target := Adapter.Server.logTarget, message := name ++ " starting"
    fields := [("version", .quoted version)] }
  ({ loop := { server := { defaults := settings.server, files } }, logger, files },
    { errors := complaint } ++ write logger (records ++ [greeting]) [])

/-- What a program writes when this happens. -/
def report (p : Program) (effects : List Adapter.ServerEffect) : Written :=
  write p.logger (Adapter.Loop.logged effects) (Adapter.Loop.sent effects)

/-- The code that a program ends with, and what it says last. -/
def conclude (p : Program) : Nat × List Line :=
  match p.loop.server.ending with
  | some (.error error) =>
    (1, .text s!"Error: {error.message}" ::
      if error.hasCause then [.text "", .text "Caused by:", .text s!"    {error.detail}"] else [])
  | _ => (0, [])

/-- The log file after more lines. -/
def logged (p : Program) (lines : List Line) : FileTree :=
  match p.logger.file with
  | some place =>
    let before := match p.files.get? place with
      | some (.file content) => content
      | _ => []
    let added := lines.flatMap fun line => Utf8.encode (line.render p.logger.json none ++ "\n")
    p.files.insert place (.file (before ++ added))
  | none => p.files

end Program

/-- How a run of the program ended. -/
structure Outcome where
  code : Nat
  output : Bytes
  errors : List Line
  /-- How records are written. -/
  json : Bool
  files : FileTree
  deriving Repr

/-- What is said at the end where nothing is served. -/
def Outcome.saying (code : Nat) (text : String) (files : FileTree) : Outcome :=
  { code, output := Utf8.encode text, errors := [], json := false, files }

/-- Runs the program on an input that is there from the start; `settle` lets everything happen. -/
def run (settle : Adapter.Loop → Adapter.Loop × List Adapter.ServerEffect) (invocation : Invocation)
    (input : Bytes) : Outcome :=
  match readCommand invocation.arguments invocation.config with
  | .refuse => .saying 2 "" invocation.files
  | .showVersion => .saying 0 versionLine invocation.files
  | .showHelp long => .saying 0 (help long invocation.config) invocation.files
  | .serve options =>
    let (p, first) := Program.start invocation options
    let (loop, effects) := settle (p.loop.feed input).finish
    let p := { p with loop }
    let written := first ++ p.report effects
    let (code, last) := p.conclude
    { code, output := written.output, errors := written.errors ++ last, json := p.logger.json
      files := p.logged written.logFile }

end DebugBridge.CommandLine
