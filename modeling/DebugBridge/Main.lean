import DebugBridge.CommandLine
import Std.Async.DNS
import Std.Async.TCP
import Std.Async.Timer
import Std.Sync.CancellationToken
import Std.Sync.Channel
import Std.Time.Format

/-!
# The program

`main` runs the adapter between its input and output and the debug servers' streams. It decides nothing: whatever
happens outside goes to the loop, and what the loop says is written, sent or begun. Standard input, streams and timers
run beside each other and put what happens into one channel, from which it is taken in turn.
-/

namespace DebugBridge.Main

open Adapter (Server Loop ServerEffect)
open CommandLine (Program Written Line)
open Std.Async
open Std.Async.TCP.Socket (Client)
open Std.Net (IPAddr SocketAddress)

/-! ## Errors of the system -/

/-- The number and the text of an error of the system's. -/
def systemError? : IO.Error → Option (UInt32 × String)
  | .otherError code text | .resourceBusy code text | .resourceVanished code text | .unsupportedOperation code text
  | .hardwareFault code text | .unsatisfiedConstraints code text | .illegalOperation code text
  | .protocolError code text | .timeExpired code text | .interrupted _ code text | .noFileOrDirectory _ code text
  | .invalidArgument _ code text | .permissionDenied _ code text | .resourceExhausted _ code text
  | .inappropriateType _ code text | .noSuchThing _ code text | .alreadyExists _ code text => some (code, text)
  | .unexpectedEof | .userError _ => none

/-- An error as it is shown: its text and its number. Network errors have their numbers negated. -/
def errorText (error : IO.Error) : String :=
  match systemError? error with
  | some (code, text) =>
    let number := if code < 0x80000000 then code else 0 - code
    s!"{text.capitalize} (os error {number.toNat})"
  | none => toString error

/-! ## The disk -/

/-- What the disk has on the way along a path, added to what is known of it. -/
def survey (files : FileTree) (path : String) : IO FileTree := do
  let parts := Path.parts path
  let mut files := files
  for count in List.range parts.length do
    let start := "/".intercalate (parts.take (count + 1))
    match ← EIO.toBaseIO (IO.FS.realPath start) with
    | .ok real =>
      let isDirectory := (← EIO.toBaseIO (IO.FS.realPath (start ++ "/."))).isOk
      files := files.learn start real.toString (if isDirectory then .directory else .file [])
    | .error _ => pure ()
  return files

/-- The same, with the content of the file that the path leads to. -/
def surveyFile (files : FileTree) (path : String) : IO FileTree := do
  let files ← survey files path
  match ← EIO.toBaseIO (IO.FS.readBinFile path) with
  | .ok content => return files.writeFile path content.toList
  | .error _ => return files

/-- What is known of the disk at first: the working directory. -/
def home : IO FileTree := do
  let here := (← IO.currentDir).toString
  let files := ({} : FileTree).makeDirectories here
  return { files with home := some ((Path.parts here).filter (!Path.isIdle ·)) }

/-! ## The network -/

/-- What happens while the program serves. -/
inductive Happening where
  /-- The editor sent bytes; none means that it has ended its side. -/
  | input (bytes : ByteArray)
  /-- An attempt opened a stream. -/
  | opened (session dial : Nat) (stream : Client)
  /-- A server sent bytes. -/
  | arrived (session : Nat) (bytes : Bytes)
  | step (action : Server.Action)

instance : Inhabited Happening := ⟨.input .empty⟩

/-- Where everything that happens is put, and what tells that nothing more is waited for. -/
structure Queue where
  happenings : Std.Channel Happening
  stop : Std.CancellationToken

/-- Puts what has happened. -/
def Queue.put (queue : Queue) (happening : Happening) : BaseIO Unit :=
  discard (queue.happenings.send happening)

/-- Waits for something, unless nothing more is waited for. -/
def Queue.await (queue : Queue) (selector : Selector α) : Async (Option α) :=
  Selectable.one #[.case selector (pure ∘ some), .case queue.stop.selector fun () => pure none]

/-- Opens a stream to the first address of a host that takes it. -/
def openStream (host : String) (port : UInt16) : Async (Except String Client) := do
  let addresses ← try
      Except.ok <$> DNS.getAddrInfo host (toString port.toNat)
    catch error => pure (.error s!"failed to lookup address information: {errorText error}")
  match addresses with
  | .error text => return .error text
  | .ok addresses =>
    let mut result := .error "could not resolve to any address"
    for address in addresses do
      let place : SocketAddress := match address with
        | .v4 addr => .v4 ⟨addr, port⟩
        | .v6 addr => .v6 ⟨addr, port⟩
      result ← try
          let stream ← Client.mk
          stream.connect place
          stream.noDelay
          pure (.ok stream)
        catch error => pure (.error (errorText error))
      if result.isOk then break
    return result

/-- Runs an errand of a server's. -/
def run (queue : Queue) : Server.Errand → Async Unit
  | .connect session dial _ host port => do
    match ← openStream host port with
    | .ok stream => queue.put (.opened session dial stream)
    | .error cause => queue.put (.step (.link session (.refused dial cause)))
  | .rest session dial _ milliseconds => do
    if (← queue.await (← Selector.sleep (Std.Time.Millisecond.Offset.ofNat milliseconds))).isSome then
      queue.put (.step (.link session (.retry dial)))

/-- Puts what comes in on a stream, up to its end. -/
def listen (queue : Queue) (session : Nat) (stream : Client) : Async Unit := do
  repeat
    let received ← try
        Except.ok <$> queue.await (stream.recvSelector 65536)
      catch error => pure (.error (errorText error))
    match received with
    | .ok (some (some bytes)) => queue.put (.arrived session bytes.toList)
    | .ok (some none) =>
      queue.put (.step (.link session .arriveEnd))
      break
    | .ok none => break
    | .error cause =>
      queue.put (.step (.link session (.readFailed cause)))
      break

/-- Puts what the editor sends, up to its end. Reading waits until all the bytes that it was asked for are there, so it
is never asked for more than one message. -/
def readInput (queue : Queue) (input : IO.FS.Stream) : IO Unit := do
  let mut unread : Bytes := []
  repeat
    let bytes ← input.read (USize.ofNat (Adapter.wanted unread))
    queue.put (.input bytes)
    if bytes.isEmpty then break
    unread := Adapter.afterBody (unread ++ bytes.toList)

/-- Begins something that goes on beside the rest. -/
def begin (task : Async Unit) : IO (AsyncTask Unit) :=
  task.asTask

/-! ## Serving -/

/-- The program at work. -/
structure Work where
  program : Program
  queue : Queue
  logFile : Option IO.FS.Handle
  streams : List ((Nat × StreamId) × Client) := []
  /-- How many streams were opened. -/
  opened : Nat := 0
  /-- The errands that were begun and are not done. -/
  errands : List Server.Errand := []
  /-- What goes on beside the rest, until nothing more is waited for. -/
  tasks : List (AsyncTask Unit) := []

/-- The time, as it stands in a log. -/
def timestamp : IO String := do
  return (Std.Time.DateTime.ofTimestampWithZone (← Std.Time.Timestamp.now) .UTC).format
    "uuuu-MM-dd'T'HH:mm:ss.SSSSSS'Z'"

/-- Writes what is to be written. -/
def write (program : Program) (logFile : Option IO.FS.Handle) (written : Written) : IO Unit := do
  let render (line : Line) : IO String := return line.render program.logger.json (some (← timestamp))
  unless written.output.isEmpty do
    let output ← IO.getStdout
    output.write ⟨written.output.toArray⟩
    output.flush
  for line in written.errors do
    IO.eprintln (← render line)
  for line in written.logFile do
    for file in logFile do
      file.putStrLn (← render line)
      file.flush

namespace Work

/-- Does with a session's streams what its connection says. -/
def follow (work : Work) (session : Nat) : Effect → IO Unit
  | .wrote stream bytes => onStream stream (·.send ⟨bytes.toArray⟩)
  | .hungUp stream => onStream stream (·.shutdown)
  | _ => pure ()
where
  onStream (stream : StreamId) (act : Client → Async Unit) : IO Unit := do
    for client in work.streams.lookup (session, stream) do
      discard (begin (act client))

/-- Lets the loop go on, and does what it says. -/
def advance (work : Work) (step : Loop → Loop × List ServerEffect) : IO Work := do
  let (loop, first) := step work.program.loop
  let (loop, later) := loop.settle
  let effects := first ++ later
  let work := { work with program := { work.program with loop } }
  write work.program work.logFile (work.program.report effects)
  for (session, effect) in Loop.links effects do
    work.follow session effect
  let errands := loop.server.errands
  let tasks ← (errands.filter (!work.errands.contains ·)).mapM fun errand => begin (run work.queue errand)
  return { work with errands, tasks := tasks ++ work.tasks }

/-- Looks at the disk for the source files that a server tells of. -/
def lookUp (work : Work) (session : Nat) (bytes : Bytes) : IO Work := do
  let loop := work.program.loop
  let paths := loop.sourcePaths session bytes
  if paths.isEmpty then return work
  let mut files := loop.server.files
  for path in paths do
    files ← survey files path
  return { work with program := { work.program with loop := { loop with server := loop.server.withFiles files } } }

/-- Takes in what has happened. -/
def take (work : Work) : Happening → IO Work
  | .input bytes => work.advance fun loop => (if bytes.isEmpty then loop.finish else loop.feed bytes.toList, [])
  | .step action => work.advance (·.step action)
  | .arrived session bytes => do (← work.lookUp session bytes).advance (·.step (.link session (.arrive bytes)))
  | .opened session dial stream => do
    let number := work.opened
    let work := { work with opened := number + 1, streams := ((session, number), stream) :: work.streams }
    let work ← work.advance (·.step (.link session (.opened dial number)))
    return { work with tasks := (← begin (listen work.queue session stream)) :: work.tasks }

end Work

/-- Serves until the editor is gone, and gives the exit code. -/
def serve (options : CommandLine.Options) (arguments : List String) : IO UInt32 := do
  let mut files ← home
  for path in options.config do
    files ← surveyFile files path
  for path in (Program.settings files options).1.log.file do
    files ← survey files path
  let logDirectives ← IO.getEnv "RUST_LOG"
  let (program, written) := Program.start { arguments, logDirectives, files } options
  let logFile ← program.logger.file.mapM fun place => IO.FS.Handle.mk ("/" ++ "/".intercalate place) .append
  write program logFile written
  let queue : Queue := { happenings := ← Std.Channel.new, stop := ← Std.CancellationToken.new }
  let input ← IO.getStdin
  discard (IO.asTask (readInput queue input) .dedicated)
  let mut work : Work := { program, queue, logFile }
  while !work.program.loop.server.finished do
    work ← work.take (← IO.wait (← queue.happenings.recv))
  queue.stop.cancel
  for task in work.tasks do
    discard (EIO.toBaseIO task.block)
  let (code, last) := work.program.conclude
  write program none { errors := last }
  return UInt32.ofNat code

end DebugBridge.Main

open DebugBridge CommandLine in
/-- Runs the program with its arguments. -/
def main (arguments : List String) : IO UInt32 := do
  let config ← IO.getEnv "STARLARK_DAP_CONFIG"
  match readCommand arguments config with
  | .refuse =>
    IO.eprint (usage arguments)
    return 2
  | .showVersion =>
    IO.print versionLine
    return 0
  | .showHelp long =>
    IO.print (help long config)
    return 0
  | .serve options => Main.serve options arguments
