import DebugBridge.Proofs.Connection.Closing
import DebugBridge.Proofs.Connection.News
import DebugBridge.Proofs.Connection.Notices
import DebugBridge.Proofs.Connection.Writers
import DebugBridge.Proofs.Wire.LongestPrefix

/-!
# A stream to its end

A connected client reads its stream while chunks come, calls begin and end, and other dials go on. Whatever the order,
it passes on the messages of the frames that the stream begins with, and then it is gone: without an error if these
frames are the whole stream, and broken otherwise. So the chunks do not matter, and nothing behind a bad frame is passed
on: `streams_are_read_to_their_end`.
-/

namespace DebugBridge.Connection

/-- What the server sends in a run, its chunks put together. -/
def delivered (actions : List Action) : Bytes :=
  actions.flatMap fun
    | .arrive bytes => bytes
    | _ => []

@[simp] theorem delivered_append (first second : List Action) :
    delivered (first ++ second) = delivered first ++ delivered second :=
  List.flatMap_append

section

variable {c : Connection}

/-! ## As long as the connection is open -/

/-- A connection that reads goes on reading as long as it is open. -/
theorem reads_while_open {action : Action} (hstate : c.state ≠ .connecting) (hreading : c.incoming ≠ none)
    (hopen : (c.step action).1.closed = false) : (c.step action).1.incoming ≠ none := by
  have hmove := step_dialMove c action
  generalize (c.step action).1 = c', (c.step action).2 = effects at hmove hopen
  cases hmove with
  | aside apart dials silent =>
    intro hnone
    have hsame := apart.stream hopen
    rw [hnone, Option.map_none, eq_comm, Option.map_eq_none_iff] at hsame
    exact hreading hsame
  | installs found wasOpen waits => exact absurd waits hstate
  | _ => exact hreading

/-- No step begins to wait for a stream. -/
theorem not_connecting_step (hstate : c.state ≠ .connecting) (action : Action) :
    (c.step action).1.state ≠ .connecting :=
  fun hafter => hstate (connecting_of_step hafter)

theorem not_connecting_run (hstate : c.state ≠ .connecting) (actions : List Action) :
    (c.run actions).1.state ≠ .connecting := by
  induction actions generalizing c with
  | nil => exact hstate
  | cons action actions ih => exact ih (not_connecting_step hstate action)

/-- A connection that has stopped reading receives nothing any more. -/
theorem received_of_stopped (hstate : c.state ≠ .connecting) (hstopped : c.incoming = none) (actions : List Action) :
    received (c.history actions) = [] := by
  induction actions generalizing c with
  | nil => rfl
  | cons action actions ih =>
    have hnow : received (c.moments action) = [] := by
      by_cases hread : action = .read
      · simp [hread, moments, intake, hstopped, received]
      · exact received_eq_nil hread
    have hlater : (c.step action).1.incoming = none := by
      rcases step_reads c action with hreads | ⟨hwaits, -⟩
      · cases hreads with
        | stops stopped silent => exact stopped
        | keeps same silent => exact same.trans hstopped
        | takes found next left => rw [hstopped] at found; cases found
        | comes bytes found goesOn joined => rw [hstopped] at found; cases found
        | ends found marked => rw [hstopped] at found; cases found
      · exact absurd hwaits hstate
    rw [history, received_append, hnow, ih (not_connecting_step hstate action) hlater, List.nil_append]

/-- What a reader takes in is what the server sends, until the stream has ended. -/
theorem accepted_of_going {incoming : Incoming} (hincoming : c.incoming = some incoming) (hgoesOn : incoming.ended = false)
    (action : Action) : c.accepted action = delivered [action] := by
  cases action with
  | arrive bytes => simp [accepted, delivered, hincoming, hgoesOn]
  | _ => rfl

theorem accepted_of_ended {incoming : Incoming} (hincoming : c.incoming = some incoming) (hended : incoming.ended = true)
    (action : Action) : c.accepted action = [] := by
  cases action with
  | arrive bytes => simp [accepted, hincoming, hended]
  | _ => rfl

/-- At the end of its stream a reader takes a message, or closes the connection. -/
theorem message_of_open {action : Action} {incoming : Incoming} (hincoming : c.incoming = some incoming)
    (hended : incoming.ended = true) (hreads : action.isReading = true) (hopen : (c.step action).1.closed = false) :
    ∃ event, .received event ∈ c.intake action := by
  have hshut : ∀ error, ({ c with incoming := none }.close error).1.closed ≠ false := by
    intro error
    rw [close_closed]
    decide
  cases action with
  | read =>
    simp only [step, read, hincoming] at hopen
    split at hopen
    · next event rest hnext => exact ⟨event, by simp [intake, hincoming, hnext]⟩
    · exact absurd hopen (hshut _)
    · simp only [hended, Bool.not_true, Bool.false_eq_true, if_false] at hopen
      exact absurd hopen (hshut _)
  | readFailed cause =>
    simp only [step, readFailed, hincoming] at hopen
    exact absurd hopen (hshut _)
  | _ => cases hreads

/-- As long as the connection stays open, the reader keeps its stream, and has no more than came; once that has ended,
every reading takes a message from it. -/
theorem step_of_open {action : Action} {incoming : Incoming} (hstate : c.state ≠ .connecting)
    (hincoming : c.incoming = some incoming) (hopen : (c.step action).1.closed = false) :
    ∃ later, (c.step action).1.incoming = some later ∧
      (incoming.ended = true → later.ended = true ∧
        later.unread.length + action.isReading.toNat ≤ incoming.unread.length) ∧
      (incoming.ended = false → action ≠ .arriveEnd → later.ended = false ∧
        later.unread.length ≤ incoming.unread.length + (delivered [action]).length) := by
  have hgoes := reads_while_open hstate (by simp [hincoming]) hopen
  rcases step_reads c action with hreads | ⟨hwaits, -⟩
  · cases hreads with
    | stops stopped silent => exact absurd stopped hgoes
    | keeps same silent =>
      refine ⟨incoming, same.trans hincoming, fun hended => ⟨hended, ?_⟩,
        fun hgoesOn _ => ⟨hgoesOn, Nat.le_add_right _ _⟩⟩
      cases hread : action.isReading with
      | false => exact Nat.le_refl _
      | true =>
        obtain ⟨event, hreceived⟩ := message_of_open hincoming hended hread hopen
        exact absurd hreceived (silent event)
    | @takes found event rest hfound next left =>
      obtain rfl : found = incoming := Option.some.inj (hfound.symm.trans hincoming)
      have hshorter := Wire.length_lt_of_next next
      exact ⟨_, left, fun hended => ⟨hended, hshorter⟩, fun hgoesOn _ => ⟨hgoesOn, Nat.le_add_right_of_le (Nat.le_of_lt hshorter)⟩⟩
    | @comes found bytes hfound goesOn joined =>
      obtain rfl : found = incoming := Option.some.inj (hfound.symm.trans hincoming)
      refine ⟨_, joined, fun hended => ?_, fun hgoesOn _ => ⟨hgoesOn, ?_⟩⟩
      · rw [goesOn] at hended
        cases hended
      · simp [delivered]
    | @ends found hfound marked =>
      obtain rfl : found = incoming := Option.some.inj (hfound.symm.trans hincoming)
      exact ⟨_, marked, fun _ => ⟨rfl, Nat.le_refl _⟩, fun _ hother => absurd rfl hother⟩
  · exact absurd hwaits hstate

/-! ## The whole stream -/

/-- The step by which a connection is closed. -/
theorem exists_closing (hopen : c.closed = false) {actions : List Action} (hclosed : (c.run actions).1.closed = true) :
    ∃ first action last, actions = first ++ action :: last ∧ (c.run first).1.closed = false ∧
      ((c.run first).1.step action).1.closed = true := by
  induction actions generalizing c with
  | nil =>
    rw [show (c.run []).1.closed = c.closed from rfl, hopen] at hclosed
    cases hclosed
  | cons action actions ih =>
    cases hnow : (c.step action).1.closed with
    | true => exact ⟨[], action, actions, rfl, hopen, hnow⟩
    | false =>
      obtain ⟨first, last, later, rfl, hbefore, hafter⟩ := ih hnow hclosed
      exact ⟨action :: first, last, later, rfl, hbefore, hafter⟩

theorem open_of_run {actions : List Action} (hopen : (c.run actions).1.closed = false) : c.closed = false := by
  cases hclosed : c.closed with
  | false => rfl
  | true =>
    rw [closed_of_run hclosed actions] at hopen
    cases hopen

/-- While a stream goes on, the reader takes in all of it. -/
theorem inbound_of_going {incoming : Incoming} {actions : List Action} (hstate : c.state ≠ .connecting)
    (hincoming : c.incoming = some incoming) (hgoesOn : incoming.ended = false) (hends : .arriveEnd ∉ actions)
    (hopen : (c.run actions).1.closed = false) :
    c.inbound actions = delivered actions ∧ ∃ later, (c.run actions).1.incoming = some later ∧ later.ended = false ∧
      later.unread.length ≤ incoming.unread.length + (delivered actions).length := by
  induction actions generalizing c incoming with
  | nil => exact ⟨rfl, incoming, hincoming, hgoesOn, Nat.le_add_right _ _⟩
  | cons action actions ih =>
    obtain ⟨hfirst, hrest⟩ : action ≠ .arriveEnd ∧ .arriveEnd ∉ actions := by
      simpa [eq_comm] using hends
    obtain ⟨next, hnext, -, hstill⟩ := step_of_open hstate hincoming (open_of_run hopen)
    obtain ⟨hgoesOn', hmore⟩ := hstill hgoesOn hfirst
    obtain ⟨hinbound, later, hlater, hends', hlength⟩ :=
      ih (not_connecting_step hstate action) hnext hgoesOn' hrest hopen
    have hwhole : delivered (action :: actions) = delivered [action] ++ delivered actions :=
      delivered_append [action] actions
    refine ⟨?_, later, hlater, hends', ?_⟩
    · rw [inbound, hinbound, accepted_of_going hincoming hgoesOn, hwhole]
    · rw [hwhole, List.length_append]
      omega

/-- After its end nothing is taken in, and each reading takes a message, so there are only so many. -/
theorem inbound_of_ended {incoming : Incoming} {actions : List Action} (hstate : c.state ≠ .connecting)
    (hincoming : c.incoming = some incoming) (hended : incoming.ended = true)
    (hopen : (c.run actions).1.closed = false) :
    c.inbound actions = [] ∧ (∃ later, (c.run actions).1.incoming = some later) ∧
      actions.countP (·.isReading) ≤ incoming.unread.length := by
  induction actions generalizing c incoming with
  | nil => exact ⟨rfl, ⟨incoming, hincoming⟩, Nat.zero_le _⟩
  | cons action actions ih =>
    obtain ⟨later, hlater, hstill, -⟩ := step_of_open hstate hincoming (open_of_run hopen)
    obtain ⟨hended', hshorter⟩ := hstill hended
    obtain ⟨hinbound, hreads, hcount⟩ := ih (not_connecting_step hstate action) hlater hended' hopen
    refine ⟨?_, hreads, ?_⟩
    · rw [inbound, hinbound, accepted_of_ended hincoming hended, List.append_nil]
    · have hone : (if action.isReading = true then 1 else 0) = action.isReading.toNat := by
        cases action.isReading <;> rfl
      rw [List.countP_cons, hone]
      omega

theorem inbound_append (c : Connection) (first second : List Action) :
    c.inbound (first ++ second) = c.inbound first ++ (c.run first).1.inbound second := by
  induction first generalizing c with
  | nil => rfl
  | cons action first ih =>
    rw [List.cons_append, inbound, inbound, ih, List.append_assoc]
    rfl

/-- What the reader has taken in while the connection was open: a part of the stream, and all of it if that has ended. -/
theorem inbound_of_open {incoming : Incoming} {during after first last : List Action} (hstate : c.state ≠ .connecting)
    (hincoming : c.incoming = some incoming) (hgoesOn : incoming.ended = false) (hends : .arriveEnd ∉ during)
    (hsplit : during ++ .arriveEnd :: after = first ++ .read :: last) (hopen : (c.run first).1.closed = false) :
    ∃ later more, (c.run first).1.incoming = some later ∧ delivered during = c.inbound first ++ more ∧
      (later.ended = true → more = []) := by
  rcases List.append_eq_append_iff.1 hsplit.symm with ⟨rest, rfl, -⟩ | ⟨rest, rfl, hrest⟩
  · -- The stream had not ended yet.
    have hnot : .arriveEnd ∉ first := fun hmem => hends (List.mem_append_left _ hmem)
    obtain ⟨hinbound, later, hlater, hstill, -⟩ := inbound_of_going hstate hincoming hgoesOn hnot hopen
    refine ⟨later, delivered rest, hlater, by rw [delivered_append, hinbound], fun hended => ?_⟩
    rw [hstill] at hended
    cases hended
  · cases rest with
    | nil => simp at hrest
    | cons action rest =>
      obtain ⟨rfl, hafter⟩ := List.cons.inj hrest
      rw [run_append] at hopen
      obtain ⟨hinbound, middle, hmiddle, hstill, -⟩ := inbound_of_going hstate hincoming hgoesOn hends (open_of_run hopen)
      have hstate' := not_connecting_run hstate during
      have hended : ((c.run during).1.step .arriveEnd).1.incoming = some { middle with ended := true } := by
        simp [step, arriveEnd, hmiddle]
      obtain ⟨hnone, ⟨later, hlater⟩, -⟩ :=
        inbound_of_ended (not_connecting_step hstate' .arriveEnd) hended rfl hopen
      refine ⟨later, [], by rw [run_append]; exact hlater, ?_, fun _ => rfl⟩
      rw [inbound_append, inbound, hnone, hinbound]
      simp [accepted]

/-- Once a stream has ended, the connection is closed after so many readings. -/
theorem closed_of_ended {incoming : Incoming} {during after : List Action} (hstate : c.state ≠ .connecting)
    (hincoming : c.incoming = some incoming) (hgoesOn : incoming.ended = false) (hends : .arriveEnd ∉ during)
    (hreads : incoming.unread.length + (delivered during).length < after.countP (·.isReading)) :
    (c.run (during ++ .arriveEnd :: after)).1.closed = true := by
  cases hclosed : (c.run (during ++ .arriveEnd :: after)).1.closed with
  | true => rfl
  | false =>
    rw [run_append] at hclosed
    have hopen : (c.run during).1.closed = false := open_of_run hclosed
    obtain ⟨-, middle, hmiddle, -, hlength⟩ := inbound_of_going hstate hincoming hgoesOn hends hopen
    have hended : ((c.run during).1.step .arriveEnd).1.incoming = some { middle with ended := true } := by
      simp [step, arriveEnd, hmiddle]
    have hstate' := not_connecting_step (not_connecting_run hstate during) .arriveEnd
    obtain ⟨-, -, hcount⟩ := inbound_of_ended hstate' hended rfl hclosed
    dsimp only at hcount
    omega

theorem dispatch_closed (c : Connection) (event : Wire.Event) : (c.dispatch event).1.closed = c.closed := by
  unfold dispatch forget
  split
  · rfl
  · split
    · dsimp only
      split <;> rfl
    · rfl

/-- Only a reading closes the connection, where nobody shuts it down and no stream fails. -/
theorem read_of_closes {action : Action} (hopen : c.closed = false) (hcloses : (c.step action).1.closed = true)
    (hshutdown : action ≠ .shutdown) (hfails : ∀ cause, action ≠ .readFailed cause) : action = .read := by
  have htells := step_tells c action
  have hchanges : (c.step action).1.closed ≠ c.closed := by simp [hopen, hcloses]
  generalize (c.step action).1 = c', notices (c.step action).2 = told at htells hchanges hcloses
  cases htells with
  | nothing closed | attemptFailed attempt cause dialing closed | news payload reading closed =>
    exact absurd closed hchanges
  | connected dialing wasOpen waited closed state => exact absurd (closed.trans hopen.symm) hchanges
  | gone error wasOpen closed cause =>
    rcases cause with rfl | ⟨hread, -⟩
    · exact absurd rfl hshutdown
    · cases action with
      | read => rfl
      | readFailed cause => exact absurd rfl (hfails cause)
      | _ => cases hread

/-- How reading ends: with no message to take, and with an error unless all of the stream was read. -/
theorem closing_read {incoming : Incoming} (hopen : c.closed = false) (hincoming : c.incoming = some incoming)
    (hclosed : (c.step .read).1.closed = true) :
    ∃ error, (∀ event rest, Wire.next c.setup.maxFrameBytes Wire.Event.decode incoming.unread ≠ .message event rest) ∧
      (Wire.next c.setup.maxFrameBytes Wire.Event.decode incoming.unread = .wait → incoming.ended = true ∧
        (error = none ↔ incoming.unread = [])) ∧
      (Wire.next c.setup.maxFrameBytes Wire.Event.decode incoming.unread ≠ .wait → error ≠ none) ∧
      c.intake .read = [] ∧ (c.step .read).2 = [.told (.disconnected error)] ∧ (c.step .read).1.incoming = none ∧
      (c.step .read).1.state = if error.isSome then .failed else .closed := by
  simp only [step, read, hincoming, intake] at hclosed ⊢
  cases hnext : Wire.next c.setup.maxFrameBytes Wire.Event.decode incoming.unread with
  | message event rest =>
    rw [hnext, dispatch_closed, hopen] at hclosed
    cases hclosed
  | refused error rest =>
    refine ⟨some (CallError.protocol error).message, by simp, by simp, by simp, rfl, ?_⟩
    simp [close, hopen]
  | wait =>
    simp only [hnext] at hclosed
    cases hended : incoming.ended with
    | false =>
      simp [hended, hopen] at hclosed
    | true =>
      refine ⟨if incoming.unread = [] then none else some "bytes remaining on stream", by simp, ?_, by simp, rfl, ?_⟩
      · intro _
        refine ⟨rfl, ?_⟩
        split <;> simp [*]
      · simp [close, hopen]

end

/-- A stream that is delivered to a connected client, in whatever chunks, and then ends, is read to its end. Calls, dials
and whatever else may come between the chunks and between the readings; there are as many readings as it takes, and the
client is not shut down, nor does its stream fail.

* The messages that are passed on are those of the longest beginning of the stream that consists of frames, in order.
* Then the reader finds that the stream is over, which it tells, and this is the only time that the end is told.
* It tells no error exactly if the whole stream consists of frames. The connection is closed then, and failed otherwise,
  and stays so unless a dial runs out of attempts. -/
theorem streams_are_read_to_their_end (setup : ConnectionSetup) (before during after : List Action) (stream : StreamId)
    (hconnected : (run { setup } before).1.state = .connected)
    (hstream : (run { setup } before).1.incoming = some { stream })
    (hshutdown : .shutdown ∉ during ++ after) (hfails : ∀ cause, .readFailed cause ∉ during ++ after)
    (hends : .arriveEnd ∉ during) (hreads : (delivered during).length < after.countP (·.isReading)) :
    let c := (run { setup } before).1
    let actions := during ++ .arriveEnd :: after
    ∃ start messages first last error,
      Wire.LongestFrames setup.maxFrameBytes Wire.Event.decode (delivered during) start messages ∧
      actions = first ++ .read :: last ∧
      (received (c.history first) = messages ∧ received (c.history actions) = messages ∧
        ∀ (c : Connection) (action : Action) (event : Wire.Event), .received event ∈ c.moments action →
          ∃ incoming, c.step action = { c with incoming }.dispatch event) ∧
      (((c.run first).1.step .read).2 = [.told (.disconnected error)] ∧ farewells (c.run actions).2 = 1) ∧
      (error = none ↔ start = delivered during) ∧
      let gone := ((c.run first).1.step .read).1
      (gone.state = if error.isSome then .failed else .closed) ∧
        (¬ RanOut gone last → (c.run actions).1.state = gone.state) := by
  intro c actions
  have hstate : c.state ≠ .connecting := by simp [c, hconnected]
  have hopen : c.closed = false := (ledger setup before).1.isOpen hconnected
  have hsetup : c.setup = setup := run_setup { setup } before
  have hclosed : (c.run actions).1.closed = true := closed_of_ended hstate hstream rfl hends (by simpa using hreads)
  -- The step that closes the connection is one of the reader's.
  obtain ⟨first, action, last, hsplit, hbefore, hafter⟩ := exists_closing hopen hclosed
  have hmem : action ∈ during ++ .arriveEnd :: after := by
    rw [show during ++ .arriveEnd :: after = first ++ action :: last from hsplit]
    simp
  have hothers : ∀ {other : Action}, other ≠ .arriveEnd → other ∈ during ++ .arriveEnd :: after →
      other ∈ during ++ after := by
    intro other hother hmem
    simpa [hother] using hmem
  have haction : action = .read := read_of_closes hbefore hafter
    (fun heq => hshutdown (heq ▸ hothers (by simp [heq]) hmem))
    fun cause heq => hfails cause (heq ▸ hothers (by simp [heq]) hmem)
  subst haction
  obtain ⟨incoming, more, hincoming, hwhole, hall⟩ := inbound_of_open hstate hstream rfl hends hsplit hbefore
  obtain ⟨error, hnone, hwait, hrefused, hintake, htold, hstopped, hgone⟩ := closing_read hbefore hincoming hafter
  have hreading : Reading c [] [] := ⟨fun hwaits => absurd hwaits hstate, fun other hother => by
    rw [hstream, Option.some.injEq] at hother
    subst hother
    rfl, List.nil_prefix⟩
  have hgoing := (hreading.run first).going incoming hincoming
  rw [run_setup, hsetup, List.nil_append, List.nil_append] at hgoing
  rw [run_setup, hsetup] at hnone hwait hrefused
  have hnoError : error = none ↔
      Wire.next setup.maxFrameBytes Wire.Event.decode incoming.unread = .wait ∧ incoming.unread = [] := by
    by_cases hnext : Wire.next setup.maxFrameBytes Wire.Event.decode incoming.unread = .wait
    · simp [hnext, (hwait hnext).2]
    · simp [hnext, hrefused hnext]
  -- What was drained of the whole stream is what has been received, and the verdict on what was left.
  have hdrained := Wire.drain_of_end hgoing hnone fun hnext => hall (hwait hnext).1
  rw [← hwhole, ← hnoError] at hdrained
  obtain ⟨start, hlongest, hstart⟩ := Wire.drain_longest setup.maxFrameBytes Wire.Event.decode (delivered during)
  rw [hdrained.1] at hlongest
  rw [hdrained.2] at hstart
  have hlater : ((c.run first).1.step .read).1.state ≠ .connecting :=
    not_connecting_step (not_connecting_run hstate first) .read
  refine ⟨start, _, first, last, error, hlongest, hsplit, ⟨rfl, ?_, ?_⟩, ⟨htold, ?_⟩, hstart.symm, hgone, ?_⟩
  · rw [hsplit, history_append, received_append, history, received_append, received_of_stopped hlater hstopped]
    simp [moments, hintake, received]
  · intro c action event hreceived
    exact step_of_received hreceived
  · have hcount := farewells_run c actions
    rw [hopen, hclosed] at hcount
    simpa using hcount
  · intro hgoesOn
    rw [hsplit, run_append]
    exact state_run_of_closed hafter hgoesOn

/-- A message in two pieces with a call between them, and then a frame of which a byte is missing. -/
theorem streams_are_read_to_their_end_cut :
    let c := (run {} [.dial, .opened 0 0, .attach 0]).1
    let during := [.arrive [2, 8], .issue .startDebugging, .arrive [5, 2, 15]]
    let actions := during ++ .arriveEnd :: List.replicate 6 .read
    (c.state = .connected ∧ c.incoming = some { stream := 0 } ∧ (delivered during).length < 6) ∧
      received (c.history actions) = [{ number := 5 }] ∧ farewells (c.run actions).2 = 1 ∧
      ∃ start, Wire.LongestFrames c.setup.maxFrameBytes Wire.Event.decode [2, 8, 5, 2, 15] start [{ number := 5 }] := by
  intro c during actions
  have hconnected : c.state = .connected := by decide
  have hstream : c.incoming = some { stream := 0 } := by decide
  obtain ⟨start, messages, -, -, -, hlongest, -, ⟨-, hreceived, -⟩, ⟨-, hfarewell⟩, -⟩ :=
    streams_are_read_to_their_end {} [.dial, .opened 0 0, .attach 0] during (List.replicate 6 .read) 0 hconnected hstream
      (by simp [during]) (by simp [during]) (by simp [during]) (by decide)
  have hmessages : received (c.history actions) = [{ number := 5 }] := by decide +kernel
  obtain rfl : messages = [{ number := 5 }] := hreceived.symm.trans hmessages
  exact ⟨⟨hconnected, hstream, by decide⟩, hmessages, hfarewell, start, hlongest⟩

end DebugBridge.Connection
