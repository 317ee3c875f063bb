import DebugBridge.Connection.Inbox
import DebugBridge.Rehearsal.Script

/-!
# Playing scripts

The world of a rehearsal is a session, the script's server, and what waits for something: calls for their replies,
dials for their streams or for the clock. `World.advance?` picks one thing that can happen by itself; `World.settle`
lets everything happen.
-/

namespace DebugBridge.Rehearsal

open Debugger (Session SessionEffect)

/-- What a timer is for. -/
inductive Alarm where
  | retry (dial : Nat)
  | expiry (number : UInt64)
  deriving DecidableEq, Repr

/-- What a step began. -/
inductive Caller where
  | dial (dial : Nat)
  | query (number : UInt64) (query : Query)
  | operation
  | disconnect
  deriving Repr

structure World where
  session : Session
  inbox : Inbox
  clock : Nat := 0
  alarms : List (Alarm × Nat) := []
  /-- What the attempts of the first dial come to; a dial takes the whole list. -/
  openings : List Opening := []
  dialOpenings : List (Nat × List Opening) := []
  /-- The dials whose attempts hang, the longest first. -/
  hanging : List Nat := []
  /-- A release for the next attempt that would hang. -/
  released : Bool := false
  callers : List (Nat × Caller) := []
  streams : Nat := 0
  /-- The stream that the server looks at, and the newest one. -/
  peer : Option StreamId := none
  newest : Option StreamId := none
  streamEnded : Bool := false
  written : List (StreamId × Bytes) := []
  finished : List (Nat × Finished) := []
  deriving Repr

namespace World

/-! ## Effects -/

/-- The step that began what fits. -/
def stepOf? (w : World) (fits : Caller → Bool) : Option (Nat × Caller) :=
  w.callers.find? (fits ·.2)

/-- Notes what a step's call came to. -/
def finish (w : World) (step : Nat) (result : Finished) : World :=
  { w with callers := Assoc.erase step w.callers, finished := Assoc.insert step result w.finished }

/-- Notes one effect. -/
def note (w : World) : SessionEffect → World
  | .link (.wrote stream bytes) => { w with written := w.written ++ [(stream, bytes)] }
  | .link (.told notification) => { w with inbox := w.inbox.push notification }
  | .link (.answered number result) =>
    match w.stepOf? fun | .query other _ => other == number | _ => false with
    | some (step, .query _ query) => w.finish step (.queried (result.bind query.answer))
    | _ => w
  | .link (.dialed dial result) =>
    match w.stepOf? fun | .dial other => other == dial | _ => false with
    | some (step, _) => w.finish step (.connected result)
    | none => w
  | .link (.hungUp stream) =>
    if w.newest = some stream ∨ w.peer = some stream then { w with streamEnded := true } else w
  | .ended step result => w.finish step (.operated result)
  | .asked .. | .replied .. | .told _ => w

/-- The session after a step, with its effects noted. -/
def after (w : World) (outcome : Session × List SessionEffect) : World :=
  outcome.2.foldl note { w with session := outcome.1 }

/-- Lets the connection do a step. -/
def link (w : World) (step : Connection → Connection × List Effect) : World :=
  w.after (w.session.link step)

/-! ## What happens by itself -/

/-- The next attempt of a dial opens its stream, fails or hangs. -/
def openStream (w : World) (dial : Nat) : World :=
  let (opening, rest) := match Assoc.find? dial w.dialOpenings with
    | some (first :: rest) => (first, rest)
    | _ => (.opens, [])
  let w := { w with dialOpenings := Assoc.insert dial rest w.dialOpenings }
  match opening with
  | .fails cause => w.link (·.refused dial cause)
  | .opens => opens w
  | .hangs => if w.released then opens { w with released := false } else { w with hanging := w.hanging ++ [dial] }
where
  opens (w : World) : World :=
    let stream := w.streams
    { w with streams := stream + 1, newest := some stream }.link (·.opened dial stream)

/-- What an alarm does. -/
def ring (w : World) : Alarm → World
  | .retry dial => w.link (·.retry dial)
  | .expiry number =>
    match w.session.owner? number with
    | some (operation, _) => w.after (w.session.expire operation)
    | none => w.link (·.expire number)

/-- What a dial does next by itself. -/
def advanceDial? (w : World) (dial : Nat) : Dial → Option World
  | .opening _ => if dial ∈ w.hanging then none else some (w.openStream dial)
  | .attaching _ => some (w.link (·.attach dial))
  | .discarding => some (w.link (·.discard dial))
  | .resting _ =>
    if w.session.connection.closed then some (w.link (·.giveUp dial))
    else
      match w.alarms.lookup (.retry dial) with
      | some _ => none
      | none => some { w with
          alarms := (.retry dial, w.clock + w.session.connection.setup.retryDelayMs.toNat) :: w.alarms }

/-- A call whose waiting is over sees what it ended with. -/
def wakeCall? (w : World) (number : UInt64) (call : DebugBridge.Call) : Option World :=
  if call.sent && call.outcome.isSome then
    match w.session.owner? number with
    | some (operation, _) => some (w.after (w.session.collect operation))
    | none => some (w.link (·.collect number))
  else none

/-- A call that waits has its alarm set, if calls may not wait for ever. -/
def watchCall? (w : World) (number : UInt64) (call : DebugBridge.Call) : Option World :=
  match w.session.connection.setup.replyTimeoutMs, w.alarms.lookup (.expiry number) with
  | some timeout, none =>
    if call.sent then some { w with alarms := (.expiry number, w.clock + timeout) :: w.alarms } else none
  | _, _ => none

/-- What the reader does next by itself. -/
def advanceReader? (w : World) : Option World :=
  let c := w.session.connection
  match c.incoming with
  | none => none
  | some incoming =>
    if c.closed then some (w.link (·.stopReading))
    else if incoming.ended then some (w.link (·.read))
    else
      match Wire.next c.setup.maxFrameBytes Wire.Event.decode incoming.unread with
      | .wait => none
      | _ => some (w.link (·.read))

/-- An alarm whose time has come. -/
def advanceAlarm? (w : World) : Option World :=
  match w.alarms.find? (·.2 ≤ w.clock) with
  | some (alarm, _) => some ({ w with alarms := w.alarms.filter (·.1 != alarm) }.ring alarm)
  | none => none

/-- The next `setBreakpoints` in line gets its turn. -/
def advanceQueue? (w : World) : Option World :=
  if w.session.syncing.isNone && !w.session.queue.isEmpty then some (w.after w.session.takeTurn) else none

/-- A shutdown ends the writer's stream. -/
def advanceLeaving? (w : World) : Option World :=
  if w.session.connection.leaving ≠ 0 then some (w.link (·.leave)) else none

/-- One thing that happens by itself. Calls see their answers in the order in which these come. -/
def advance? (w : World) : Option World :=
  let c := w.session.connection
  (c.calls.findSome? fun (number, call) => w.wakeCall? number call)
    <|> w.advanceReader?
    <|> w.advanceLeaving?
    <|> (c.dials.findSome? fun (dial, stage) => w.advanceDial? dial stage)
    <|> (c.calls.findSome? fun (number, call) => w.watchCall? number call)
    <|> w.advanceAlarm?
    <|> w.advanceQueue?

/-- Lets things happen by themselves, so many at most. -/
def settleWithin : Nat → World → World
  | 0, w => w
  | most + 1, w =>
    match w.advance? with
    | some w => settleWithin most w
    | none => w

/-- How many things may happen by themselves: more than there are bytes to read, calls and attempts. -/
def patience (w : World) : Nat :=
  let c := w.session.connection
  (c.incoming.map (·.unread.length)).getD 0 + 8 * c.calls.length + 8 * w.session.queue.length
    + 4 * (c.dials.length + 1) * (c.attempts + 2) + 64

/-- Lets everything happen that does. -/
def settle (w : World) : World :=
  settleWithin w.patience w

/-! ## Steps of the script -/

/-- Begins a call. -/
def begin (w : World) (step : Nat) : Call → World
  | .connect =>
    let dial := w.session.connection.dialed
    { w with
      callers := w.callers ++ [(step, Caller.dial dial)]
      dialOpenings := Assoc.insert dial w.openings w.dialOpenings
      openings := [] }.link (·.dial)
  | .query query =>
    match w.session.connection.issue query.payload with
    | .error error => w.finish step (.queried (.error error))
    | .ok (number, connection) =>
      { w with
        session := { w.session with connection }
        callers := w.callers ++ [(step, Caller.query number query)] }.link (·.transmit number)
  | .operation operation =>
    { w with callers := w.callers ++ [(step, Caller.operation)] }.after (w.session.start step operation)

/-- Drops what a step began. -/
def cancel (w : World) (step : Nat) : World :=
  match w.callers.lookup step with
  | some caller =>
    let w := { w with callers := Assoc.erase step w.callers }
    match caller with
    | .dial dial => { w with hanging := w.hanging.filter (· ≠ dial) }.link fun c => (c.dropDial dial, [])
    | .query number _ => w.link fun c => (c.dropCall number, [])
    | .operation => { w with session := w.session.drop step }
    | .disconnect => w
  | none => w

/-- The server writes to the stream it looks at. -/
def write (w : World) (bytes : Bytes) : World :=
  if w.peer.isSome ∧ w.session.connection.incoming.map (·.stream) = w.peer then w.link (·.arrive bytes) else w

/-- Lets time pass in slices. -/
def pass (slice : Nat) : Nat → World → World
  | 0, w => w
  | slices + 1, w => pass slice slices { w with clock := w.clock + slice }.settle

/-- Does what a step says. -/
def perform (w : World) (step : Nat) : Act → World
  | .call call => w.begin step call
  | .write bytes => w.write bytes
  | .endStream =>
    if w.peer.isSome ∧ w.session.connection.incoming.map (·.stream) = w.peer then w.link (·.arriveEnd) else w
  | .release =>
    match w.hanging with
    | dial :: hanging =>
      openStream.opens dial { w with hanging }
    | [] => { w with released := true }
  | .advance time slice =>
    let w := w.settle
    let w := pass slice (time / slice) w
    if time % slice = 0 then w else { w with clock := w.clock + time % slice }
  | .shutdown => w.link (·.shutdown)
  | .disconnect => (w.link (·.shutdown)).settle.finish step .disconnected
  | .cancel step => w.cancel step
  | .idle => w

/-- The requests that the server got on the stream it looks at. -/
def received (w : World) : List Wire.Request :=
  let bytes := w.written.flatMap fun (stream, bytes) => if w.peer = some stream then bytes else []
  (Wire.drain (Nat.pow 2 62) Wire.Request.decode bytes).messages

/-- Empties the inbox, as a listener sees it. -/
def listen : Nat → Inbox → List Seen × Inbox
  | 0, inbox => ([], inbox)
  | most + 1, inbox =>
    match inbox.take with
    | none => ([], inbox)
    | some (delivery, inbox) =>
      let (seen, inbox) := listen most inbox
      match delivery with
      | .notification notification => (.notification notification :: seen, inbox)
      | .lagged lost => (.lagged lost :: seen, inbox)

/-- Hands the server's news to the session. -/
def inform (w : World) : List Seen → List Seen × World
  | [] => ([], w)
  | .notification (.debug payload) :: rest =>
    let (session, effects) := w.session.handleEvent payload
    let news := effects.flatMap fun | .told news => news | _ => []
    let (seen, w) := { w with session }.inform rest
    (.news news :: seen, w)
  | other :: rest =>
    let (seen, w) := w.inform rest
    (other :: seen, w)

/-- The server turns to the newest stream and lets go of the one before. -/
def turn (w : World) : World :=
  match w.newest with
  | none => w
  | some stream =>
    let incoming := w.session.connection.incoming
    let w := if incoming.isSome ∧ incoming.map (·.stream) = w.peer then w.link (·.arriveEnd) else w
    { w with peer := some stream, newest := none }

/-- Plays one step. `informs` tells whether the session gets the server's news. -/
def play (informs : Bool) (w : World) (number : Nat) (step : Step) : Observation × World :=
  let w := ({ w with written := [], finished := [] }.perform number step.act).settle.turn
  let w := match step.reply, w.received.getLast? with
    | some payload, some request =>
      match Wire.frame (Nat.pow 2 62) { number := request.number, payload : Wire.Event }.encode with
      | .ok bytes => (w.write bytes).settle
      | .error _ => w
    | _, _ => w
  let (seen, inbox) := listen (w.inbox.items.length + 2) w.inbox
  let w := { w with inbox }
  let (seen, w) := if informs then w.inform seen else (seen, w)
  let w := match w.peer with
    | some stream => { w with streamEnded := w.streamEnded || !w.session.connection.holds stream }
    | none => w
  ({ sent := w.received, finished := w.finished, seen, state := w.session.connection.state
     streamEnded := w.streamEnded, threads := w.session.state.threads }, w)

/-- Plays a script from its step `number` on. -/
def playAll (informs : Bool) (w : World) (number : Nat) : List Step → List Observation
  | [] => []
  | step :: steps =>
    let (observation, w) := w.play informs number step
    observation :: w.playAll informs (number + 1) steps

end World

/-- A world before its script. -/
def World.new (setup : ConnectionSetup) (openings : List Opening) (root : Option String) (files : FileTree) : World where
  session := { connection := { setup }, root, files }
  inbox := .new setup.eventChannelSize
  openings

/-- Plays a script on a connection. -/
def connection (setup : ConnectionSetup) (openings : List Opening) (steps : List Step) : List Observation :=
  (World.new setup openings none {}).playAll false 0 steps

/-- Plays a script on a session, which is connected first unless it should not be; the server turns to that stream
only in the first step. -/
def session (setup : ConnectionSetup) (connected : Bool) (root : Option String) (steps : List Step) :
    List Observation :=
  let w := World.new setup [] root {}
  let w := if connected then { (w.begin 0 .connect).settle with inbox := w.inbox } else w
  w.playAll true 0 steps

end DebugBridge.Rehearsal
