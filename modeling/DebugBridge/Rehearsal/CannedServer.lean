import DebugBridge.Assoc
import DebugBridge.Connection.Reply

/-!
# A debug server with fixed answers

A canned server answers every request from a table and keeps what it was asked. Some requests make it tell news right
after the answer: threads that stop or go on. It may hold the frames of a thread back for a while, and then every request
behind has to wait as well.
-/

namespace DebugBridge.Rehearsal

/-- What a canned server says to a statement. -/
inductive CannedEvaluation where
  | value (value : Wire.Value)
  | error (message : String)
  deriving DecidableEq, Repr

/-- The table. Where a key stands twice, the first entry counts. -/
structure CannedAnswers where
  frames : List (Int64 × List Wire.Frame) := []
  children : List (Int64 × List Wire.Value) := []
  evaluations : List (String × CannedEvaluation) := []
  /-- A thread that stops when debugging starts. -/
  initialPause : Option Wire.PausedThread := none
  /-- Whether a thread that goes on is news. -/
  tellsContinued : Bool := true
  /-- Whether a thread that was to step stops again. -/
  pausesAfterStep : Bool := true
  /-- The thread that stops when all are to. -/
  defaultThread : Int64 := 1
  /-- How many milliseconds the frames of a thread are held back. -/
  framesDelayMs : Option Nat := none
  deriving Repr

namespace CannedAnswers

/-- A thread that has stopped, at the place of its first frame. -/
def paused (answers : CannedAnswers) (thread : Int64) (reason : Wire.PauseReason) : Wire.PausedThread where
  id := thread
  name := s!"thread-{thread.toInt}"
  reason := reason.toInt32
  location := (Assoc.find? thread answers.frames).bind fun frames => frames.head?.bind (·.location)

/-- The answer to a request. -/
def reply (answers : CannedAnswers) : Wire.Request.Payload → Wire.Event.Payload
  | .listFrames thread => .listFrames ((Assoc.find? thread answers.frames).getD [])
  | .startDebugging => .startDebugging
  | .pauseThread _ => .pauseThread
  | .continueExecution .. => .continueExecution
  | .evaluate _ statement =>
    match Assoc.find? statement answers.evaluations with
    | some (.value value) => .evaluate (some value)
    | some (.error message) => .error message
    | none => .error s!"name '{statement}' is not defined"
  | .setBreakpoints _ => .setBreakpoints
  | .getChildren _ value => .getChildren ((Assoc.find? value answers.children).getD [])

/-- The news that a request makes. -/
def news (answers : CannedAnswers) : Wire.Request.Payload → List Wire.Event.Payload
  | .startDebugging => (answers.initialPause.map fun thread => .threadPaused (some thread)).toList
  | .pauseThread thread =>
    let thread := if thread = 0 then answers.defaultThread else thread
    [.threadPaused (some (answers.paused thread .pauseRequest))]
  | .continueExecution thread stepping =>
    (if answers.tellsContinued then [.threadContinued thread] else [])
    ++ (if answers.pausesAfterStep ∧ Wire.Stepping.ofInt32 stepping ≠ .none then
        [.threadPaused (some (answers.paused thread .stepping))]
      else [])
  | _ => []

/-- All that is said to a request: the answer, and then the news. -/
def events (answers : CannedAnswers) (request : Wire.Request) : List Wire.Event :=
  match request.payload with
  | none => [{ number := request.number, payload := some (.error "request without payload") }]
  | some payload =>
    { number := request.number, payload := some (answers.reply payload) } ::
      (answers.news payload).map fun payload => { payload := some payload }

/-- How long a request has to wait for its answer, from when it is taken up. -/
def delay (answers : CannedAnswers) : Wire.Request.Payload → Nat
  | .listFrames _ => answers.framesDelayMs.getD 0
  | _ => 0

end CannedAnswers

/-! ## The server -/

structure CannedServer where
  answers : CannedAnswers := {}
  /-- Every request so far. -/
  requests : List Wire.Request := []
  breakpoints : List Wire.Breakpoint := []
  unread : Bytes := []
  /-- What it has still to say to the last request. -/
  saying : List Wire.Event := []
  /-- The time before which it says nothing of that. -/
  resumes : Nat := 0
  /-- Whether it has given up its client: a request could not be read, or an answer is too large to be sent. -/
  gone : Bool := false
  deriving Repr

namespace CannedServer

/-- Keeps a request. -/
def keep (server : CannedServer) (request : Wire.Request) : CannedServer :=
  { server with
    requests := server.requests ++ [request]
    breakpoints := match request.payload with
      | some (.setBreakpoints breakpoints) => breakpoints
      | _ => server.breakpoints }

/-- Takes up the next request, if one is complete and nothing is left to be said to the one before. -/
def take (server : CannedServer) (clock : Nat) : CannedServer :=
  if server.gone || !server.saying.isEmpty then server
  else
    match Wire.next Wire.maxFrameBytes Wire.Request.decode server.unread with
    | .wait => server
    | .refused _ rest => { server with unread := rest, gone := true }
    | .message request rest =>
      { server.keep request with
        unread := rest
        saying := server.answers.events request
        resumes := clock + request.payload.elim 0 server.answers.delay }

/-- Says the next thing that there is to say, if it is time. -/
def say (server : CannedServer) (clock : Nat) : Bytes × CannedServer :=
  if clock < server.resumes then ([], server)
  else
    match server.saying with
    | [] => ([], server)
    | event :: rest =>
      match Wire.frame Wire.maxFrameBytes event.encode with
      | .ok bytes => (bytes, { server with saying := rest })
      | .error _ => ([], { server with saying := [], gone := true })

end CannedServer

end DebugBridge.Rehearsal
