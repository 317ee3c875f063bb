import DebugBridge.Assoc
import DebugBridge.Connection.Error
import DebugBridge.Launch

/-!
# Connections

A connection to the debug server carries numbered calls and passes on what the server tells of its own accord. What
is defined here is what happens between two points at which somebody waits: each function is one such step, and
gives the connection after it with its effects, in order. A step that cannot happen where the connection stands
does nothing.

Several dials (attempts to connect), calls and shutdowns may be under way at once. A call takes its number and its
place among the pending calls first, hands its request to the writer next, and then waits. The first message that
carries a pending number ends the waiting; closing the connection ends it for all.
-/

namespace DebugBridge

/-- A byte stream to the server, by its number. -/
abbrev StreamId := Nat

/-- A call under way. -/
structure Call where
  payload : Wire.Request.Payload
  /-- Whether the request was handed to the writer. -/
  sent : Bool := false
  /-- What the waiting ends with, once that is known. -/
  outcome : Option (Except CallError Wire.Event) := none
  deriving Repr

/-- Where an attempt to connect stands. -/
inductive Dial where
  /-- Its stream is being opened. -/
  | opening (attempt : Nat)
  /-- It waits before the next attempt. -/
  | resting (attempt : Nat)
  /-- Its stream is open and waits to be installed. -/
  | attaching (stream : StreamId)
  /-- Its stream was installed too late and is taken back. -/
  | discarding
  deriving DecidableEq, Repr

/-- The receiving side: what has come and was not read, and whether the server has ended its side. -/
structure Incoming where
  stream : StreamId
  unread : Bytes := []
  ended : Bool := false
  deriving DecidableEq, Repr

structure Connection where
  setup : ConnectionSetup := {}
  state : LinkState := .connecting
  /-- Whether the connection was closed, for whatever reason. -/
  closed : Bool := false
  nextNumber : UInt64 := 1
  /-- The numbers that a message may still end the waiting for, ascending. -/
  pending : List UInt64 := []
  calls : List (UInt64 × Call) := []
  /-- The stream that requests are written to. -/
  writer : Option StreamId := none
  incoming : Option Incoming := none
  dialed : Nat := 0
  dials : List (Nat × Dial) := []
  /-- Shutdowns that have still to end the writer's stream. -/
  leaving : Nat := 0
  deriving Repr

/-- What a step does to others. -/
inductive Effect where
  | wrote (stream : StreamId) (bytes : Bytes)
  | told (notification : Notification)
  | answered (number : UInt64) (result : Except CallError Wire.Event.Payload)
  | dialed (dial : Nat) (result : Except CallError Unit)
  /-- Our side of a stream was ended. -/
  | hungUp (stream : StreamId)
  deriving Repr

namespace Connection

/-! ## Closing -/

/-- Closes the connection, once: every pending call is to end, and that the connection is gone is told. -/
def close (c : Connection) (error : Option String) : Connection × List Effect :=
  if c.closed then (c, [])
  else
    let c := { c with
      closed := true
      state := if error.isSome then .failed else .closed
      calls := c.calls.map fun (number, call) =>
        (number, if number ∈ c.pending then { call with outcome := some (.error .connectionClosed) } else call)
      pending := [] }
    (c, [.told (.disconnected error)])

/-- The first half of a shutdown. -/
def shutdown (c : Connection) : Connection × List Effect :=
  let (c, effects) := c.close none
  ({ c with leaving := c.leaving + 1 }, effects)

/-- Takes the writer away and ends its stream. -/
def takeWriter (c : Connection) : Connection × List Effect :=
  ({ c with writer := none }, (c.writer.map Effect.hungUp).toList)

/-- The second half of a shutdown. -/
def leave (c : Connection) : Connection × List Effect :=
  if c.leaving = 0 then (c, [])
  else
    let (c, effects) := c.takeWriter
    ({ c with leaving := c.leaving - 1 }, effects)

/-! ## Dialling -/

def setDial (c : Connection) (dial : Nat) (stage : Dial) : Connection :=
  { c with dials := Assoc.insert dial stage c.dials }

/-- Ends a dial. -/
def endDial (c : Connection) (dial : Nat) (result : Except CallError Unit) : Connection × List Effect :=
  ({ c with dials := Assoc.erase dial c.dials }, [.dialed dial result])

/-- How often a dial tries. -/
def attempts (c : Connection) : Nat :=
  max 1 c.setup.connectAttempts.toNat

/-- Begins an attempt, unless the connection was closed. -/
def attempt (c : Connection) (dial number : Nat) : Connection × List Effect :=
  if c.closed then c.endDial dial (.error .connectionClosed)
  else (c.setDial dial (.opening number), [])

/-- Begins a dial, which only a connection that was never connected allows. The dials are numbered from 0. -/
def dial (c : Connection) : Connection × List Effect :=
  let number := c.dialed
  let c := { c with dialed := number + 1 }
  if c.state ≠ .connecting then (c, [.dialed number (.error (.invalidState c.state))])
  else c.attempt number 1

/-- An attempt could not open a stream. The last one makes the connection fail. -/
def refused (c : Connection) (dial : Nat) (cause : String) : Connection × List Effect :=
  match Assoc.find? dial c.dials with
  | some (.opening attempt) =>
    let news := Effect.told (.connectFailed attempt cause)
    if attempt < c.attempts then (c.setDial dial (.resting attempt), [news])
    else
      let (c, effects) := { c with state := .failed }.endDial dial (.error (.connectFailed c.attempts cause))
      (c, news :: effects)
  | _ => (c, [])

/-- The wait before the next attempt is over. -/
def retry (c : Connection) (dial : Nat) : Connection × List Effect :=
  match Assoc.find? dial c.dials with
  | some (.resting attempt) => c.attempt dial (attempt + 1)
  | _ => (c, [])

/-- A dial that waits notices that the connection was closed. -/
def giveUp (c : Connection) (dial : Nat) : Connection × List Effect :=
  match Assoc.find? dial c.dials with
  | some (.resting _) => if c.closed then c.endDial dial (.error .connectionClosed) else (c, [])
  | _ => (c, [])

/-- An attempt opened a stream. -/
def opened (c : Connection) (dial : Nat) (stream : StreamId) : Connection × List Effect :=
  match Assoc.find? dial c.dials with
  | some (.opening _) => (c.setDial dial (.attaching stream), [])
  | _ => (c, [])

/-- Installs an open stream: first its writing side, then, if the connection still waits for one, the reading side.
A stream that comes too late has become the writer all the same, until `discard`. -/
def attach (c : Connection) (dial : Nat) : Connection × List Effect :=
  match Assoc.find? dial c.dials with
  | some (.attaching stream) =>
    let c := { c with writer := some stream }
    if c.closed ∨ c.state ≠ .connecting then (c.setDial dial .discarding, [])
    else
      let (c, effects) :=
        { c with state := .connected, incoming := some { stream } }.endDial dial (.ok ())
      (c, .told .connected :: effects)
  | _ => (c, [])

/-- Takes back the writer after a stream came too late. -/
def discard (c : Connection) (dial : Nat) : Connection × List Effect :=
  match Assoc.find? dial c.dials with
  | some .discarding =>
    let (c, taken) := c.takeWriter
    let (c, effects) := c.endDial dial (.error .connectionClosed)
    (c, taken ++ effects)
  | _ => (c, [])

/-! ## Calling -/

/-- Forgets a number: no message ends its call any more. -/
def forget (c : Connection) (number : UInt64) : Connection :=
  { c with pending := c.pending.erase number }

/-- Ends a call. -/
def endCall (c : Connection) (number : UInt64) (result : Except CallError Wire.Event.Payload) :
    Connection × List Effect :=
  ({ c with calls := Assoc.erase number c.calls }, [.answered number result])

/-- Begins a call: it takes the next number and is pending from then on. Without a connection there is no call. -/
def issue (c : Connection) (payload : Wire.Request.Payload) : Except CallError (UInt64 × Connection) :=
  if c.state ≠ .connected then .error .notConnected
  else
    let number := c.nextNumber
    .ok (number, { c with
      nextNumber := number + 1
      pending := c.pending ++ [number]
      calls := Assoc.insert number { payload } c.calls })

/-- Hands a call's request to the writer. Without a writer, or with a request that is too large, the call ends; nothing
is written then, but its number is used up. -/
def transmit (c : Connection) (number : UInt64) : Connection × List Effect :=
  match Assoc.find? number c.calls with
  | some call =>
    if call.sent then (c, [])
    else
      match c.writer with
      | none => (c.forget number).endCall number (.error .notConnected)
      | some stream =>
        match Wire.frame c.setup.maxFrameBytes { number, payload := some call.payload : Wire.Request }.encode with
        | .error error => (c.forget number).endCall number (.error (.protocol error))
        | .ok bytes =>
          ({ c with calls := Assoc.insert number { call with sent := true } c.calls }, [.wrote stream bytes])
  | none => (c, [])

/-- The writer's stream does not take a call's request. -/
def transmitFailed (c : Connection) (number : UInt64) (cause : String) : Connection × List Effect :=
  match Assoc.find? number c.calls with
  | some call =>
    if call.sent ∨ c.writer = none then (c, []) else (c.forget number).endCall number (.error (.io cause))
  | none => (c, [])

/-- What a call's message makes of it: an error of the server's is the call's error. -/
def result (payload : Wire.Request.Payload) : Except CallError Wire.Event → Except CallError Wire.Event.Payload
  | .error error => .error error
  | .ok { payload := some (.error text), .. } => .error (.remote text)
  | .ok { payload := some answer, .. } => .ok answer
  | .ok { payload := none, .. } => .error (.unexpectedResponse payload.kind "empty")

/-- A call that waits sees what its waiting ended with. -/
def collect (c : Connection) (number : UInt64) : Connection × List Effect :=
  match Assoc.find? number c.calls with
  | some { payload, sent := true, outcome := some outcome } => c.endCall number (result payload outcome)
  | _ => (c, [])

/-- A call has waited long enough. -/
def expire (c : Connection) (number : UInt64) : Connection × List Effect :=
  match Assoc.find? number c.calls with
  | some { sent := true, outcome := none, .. } => (c.forget number).endCall number (.error .timeout)
  | _ => (c, [])

/-- A call is dropped by whoever made it. Its number stays pending. -/
def dropCall (c : Connection) (number : UInt64) : Connection :=
  { c with calls := Assoc.erase number c.calls }

/-- A dial is dropped by whoever made it. -/
def dropDial (c : Connection) (dial : Nat) : Connection :=
  { c with dials := Assoc.erase dial c.dials }

/-! ## Receiving -/

/-- Passes on one message. Number 0 is news for all who listen, if there is any; another number ends the waiting of
the call that carries it, or is nobody's. -/
def dispatch (c : Connection) (event : Wire.Event) : Connection × List Effect :=
  if event.number = 0 then
    (c, (event.payload.map fun payload => Effect.told (.debug payload)).toList)
  else if event.number ∈ c.pending then
    let c := c.forget event.number
    match Assoc.find? event.number c.calls with
    | some call => ({ c with calls := Assoc.insert event.number { call with outcome := some (.ok event) } c.calls }, [])
    | none => (c, [])
  else (c, [])

/-- Bytes come from the server. -/
def arrive (c : Connection) (bytes : Bytes) : Connection × List Effect :=
  match c.incoming with
  | some incoming =>
    if incoming.ended then (c, [])
    else ({ c with incoming := some { incoming with unread := incoming.unread ++ bytes } }, [])
  | none => (c, [])

/-- The server ends its side. -/
def arriveEnd (c : Connection) : Connection × List Effect :=
  match c.incoming with
  | some incoming => ({ c with incoming := some { incoming with ended := true } }, [])
  | none => (c, [])

/-- Reads on: passes on the next message, or ends the connection at a frame that is refused or where the stream
ends, which it should do between two frames. -/
def read (c : Connection) : Connection × List Effect :=
  match c.incoming with
  | none => (c, [])
  | some incoming =>
    match Wire.next c.setup.maxFrameBytes Wire.Event.decode incoming.unread with
    | .message event rest =>
      { c with incoming := some { incoming with unread := rest } }.dispatch event
    | .refused error _ => { c with incoming := none }.close (some (CallError.protocol error).message)
    | .wait =>
      if !incoming.ended then (c, [])
      else { c with incoming := none }.close
        (if incoming.unread = [] then none else some "bytes remaining on stream")

/-- Reading from the stream fails. -/
def readFailed (c : Connection) (cause : String) : Connection × List Effect :=
  match c.incoming with
  | some _ => { c with incoming := none }.close (some cause)
  | none => (c, [])

/-- The reader notices that the connection was closed, and stops. -/
def stopReading (c : Connection) : Connection × List Effect :=
  if c.closed then ({ c with incoming := none }, []) else (c, [])

/-- Whether the connection still has a hand on a stream. -/
def holds (c : Connection) (stream : StreamId) : Bool :=
  c.writer == some stream || c.incoming.any (·.stream == stream)
    || c.dials.any fun (_, dial) => dial == .attaching stream

end Connection

/-! ## Runs -/

/-- The steps of a connection. -/
inductive Connection.Action where
  | dial
  | opened (dial : Nat) (stream : StreamId)
  | refused (dial : Nat) (cause : String)
  | retry (dial : Nat)
  | giveUp (dial : Nat)
  | attach (dial : Nat)
  | discard (dial : Nat)
  | dropDial (dial : Nat)
  | issue (payload : Wire.Request.Payload)
  | transmit (number : UInt64)
  | transmitFailed (number : UInt64) (cause : String)
  | collect (number : UInt64)
  | expire (number : UInt64)
  | dropCall (number : UInt64)
  | arrive (bytes : Bytes)
  | arriveEnd
  | read
  | readFailed (cause : String)
  | stopReading
  | shutdown
  | leave
  deriving Repr

/-- Whether a step begins or drops a dial or a call. Only the task does so that is there for it. -/
def Connection.Action.byOwner : Connection.Action → Bool
  | .dial | .dropDial _ | .issue _ | .dropCall _ => true
  | _ => false

namespace Connection

/-- One step. A call that cannot begin leaves no trace. -/
def step (c : Connection) : Action → Connection × List Effect
  | .dial => c.dial
  | .opened dial stream => c.opened dial stream
  | .refused dial cause => c.refused dial cause
  | .retry dial => c.retry dial
  | .giveUp dial => c.giveUp dial
  | .attach dial => c.attach dial
  | .discard dial => c.discard dial
  | .dropDial dial => (c.dropDial dial, [])
  | .issue payload =>
    match c.issue payload with
    | .ok (_, c) => (c, [])
    | .error _ => (c, [])
  | .transmit number => c.transmit number
  | .transmitFailed number cause => c.transmitFailed number cause
  | .collect number => c.collect number
  | .expire number => c.expire number
  | .dropCall number => (c.dropCall number, [])
  | .arrive bytes => c.arrive bytes
  | .arriveEnd => c.arriveEnd
  | .read => c.read
  | .readFailed cause => c.readFailed cause
  | .stopReading => c.stopReading
  | .shutdown => c.shutdown
  | .leave => c.leave

/-- Steps in order, with all their effects. -/
def run (c : Connection) : List Action → Connection × List Effect
  | [] => (c, [])
  | action :: actions =>
    let (c, effects) := c.step action
    let (c, later) := c.run actions
    (c, effects ++ later)

end Connection

end DebugBridge
