import DebugBridge.Proofs.Connection.Notices
import DebugBridge.Proofs.Connection.Writers

/-!
# How a connection is lost

A connection with one dial reads from a stream only where that dial has ended, so until it is shut down it is closed by
its stream, and then nothing is left that could tell more. That it is gone is the last thing it tells: `Ended.step`.
-/

namespace DebugBridge.Connection

/-- Whether a connection has come about, or will not any more. -/
def Decided (c : Connection) : Prop :=
  c.state = .connected ∨ c.closed = true

/-- A connection that is dialled for no more, and is there or closed. -/
def Anchored (c : Connection) : Prop :=
  Settled c ∧ Decided c

/-- A connection that reads is dialled for no more, and is there or closed. -/
def Grounded (c : Connection) : Prop :=
  c.incoming ≠ none → Anchored c

/-- A closed connection that neither reads nor is dialled for. -/
structure Ended (c : Connection) : Prop where
  closed : c.closed = true
  unread : c.incoming = none
  undialed : c.dials = []

/-- A connection that was not shut down: if it is closed, nothing is left of it. -/
def Unshut (c : Connection) : Prop :=
  c.closed = true → Ended c

section

variable {c : Connection} {action : Action}

theorem Grounded.fresh (setup : ConnectionSetup) : Grounded { setup } := fun h => absurd rfl h

theorem Unshut.fresh (setup : ConnectionSetup) : Unshut { setup } := fun h => by cases h

theorem Ended.find?_eq_none (hended : Ended c) (dial : Nat) : Assoc.find? dial c.dials = none := by
  rw [hended.undialed]
  rfl

/-- A stream is read only if it was read before, or is installed where the dial waits for it. -/
theorem incoming_of_step (hafter : (c.step action).1.incoming ≠ none) :
    c.incoming ≠ none ∨
      (∃ dial, action = .attach dial) ∧ c.state = .connecting ∧ (c.step action).1.state = .connected := by
  rcases step_reads c action with hreads | ⟨hwaits, hconnected, dial, stream, haction, -⟩
  · refine .inl ?_
    cases hreads with
    | stops stopped silent => exact absurd stopped hafter
    | keeps same silent => exact same ▸ hafter
    | takes found next left => simp [found]
    | comes bytes found goesOn joined => simp [found]
    | ends found marked => simp [found]
  · exact .inr ⟨⟨dial, haction⟩, hwaits, hconnected⟩

/-- Who is there stays so until it is closed, once the dial is over. -/
theorem Decided.step (hdecided : Decided c) (hnone : c.dials = []) (action : Action) : Decided (c.step action).1 := by
  rcases hdecided with hconnected | hclosed
  · cases step_stateStep c action with
    | stays state closed => exact .inl (state.trans hconnected)
    | connects waited wasOpen state closed => exact .inl state
    | closes wasOpen closed ended => exact .inr closed
    | runsOut ran state closed =>
      obtain ⟨dial, cause, attempt, -, hfound, -⟩ := ran
      exact absurd hnone (dials_ne_nil hfound)
  · exact .inr ((step_callStep c action).closed_of_closed hclosed)

theorem Anchored.step (hanchored : Anchored c) (action : Action) : Anchored (c.step action).1 :=
  ⟨hanchored.1.stays action, hanchored.2.step hanchored.1.dials action⟩

theorem Grounded.step (hgrounded : Grounded c) (hone : OneDial c) (action : Action) : Grounded (c.step action).1 := by
  intro hafter
  rcases incoming_of_step hafter with hbefore | ⟨⟨dial, rfl⟩, hwaits, hconnected⟩
  · exact (hgrounded hbefore).step action
  · refine ⟨⟨by simp [hconnected], ?_⟩, .inl hconnected⟩
    -- The dial that has installed its stream was the only one.
    simp only [Connection.step, attach] at hconnected ⊢
    split at hconnected
    · next hfound =>
      split at hconnected
      · exact absurd (hwaits.symm.trans hconnected) (by decide)
      · next hnew =>
        rw [if_neg hnew]
        simp [endDial, hone.eq_of_find? hfound, Assoc.erase]
    · rw [hconnected] at hwaits
      cases hwaits

/-- Nothing more comes of an ended connection: it tells nothing. -/
theorem Ended.step (hended : Ended c) (action : Action) :
    Ended (c.step action).1 ∧ notices (c.step action).2 = [] := by
  have hclosed := (step_callStep c action).closed_of_closed hended.closed
  have hnot : c.closed ≠ false := by simp [hended.closed]
  have hunread : (c.step action).1.incoming = none := by
    refine Decidable.byContradiction fun hafter => ?_
    rcases incoming_of_step hafter with hbefore | ⟨⟨dial, rfl⟩, hwaits, hconnected⟩
    · exact hbefore hended.unread
    · simp only [Connection.step, attach, hended.find?_eq_none, hwaits] at hconnected
      cases hconnected
  constructor
  · refine ⟨hclosed, hunread, ?_⟩
    have hmove := step_dialMove c action
    have hfind := hended.find?_eq_none
    generalize (c.step action).1 = c', (c.step action).2 = effects at hmove
    cases hmove with
    | aside apart dials silent => exact dials.trans hended.undialed
    | leaves left silent => exact hended.undialed
    | begins waits wasOpen => exact absurd wasOpen hnot
    | refusedAtOnce kept error =>
      rcases kept with rfl | rfl
      · exact hended.undialed
      · simp [hended.undialed, Assoc.erase]
    | installs found wasOpen waits => exact absurd wasOpen hnot
    | dropped dial => simp [hended.undialed, Assoc.erase]
    | goesOn found | late found | takesBack found | givesUp found =>
      rw [hfind] at found
      cases found
  · have htells := step_tells c action
    generalize (c.step action).1 = c', notices (c.step action).2 = told at htells
    cases htells with
    | nothing closed => rfl
    | attemptFailed attempt cause dialing closed => exact absurd hended.undialed dialing
    | connected dialing wasOpen waited closed state => exact absurd wasOpen hnot
    | news payload reading closed => exact absurd hended.unread reading
    | gone error wasOpen closed cause => exact absurd wasOpen hnot

/-- Unless it is shut down, a connection is closed by the stream that it reads from. -/
theorem Unshut.step (hunshut : Unshut c) (hgrounded : Grounded c) (hother : action ≠ .shutdown) :
    Unshut (c.step action).1 := by
  intro hafter
  cases hclosed : c.closed with
  | true => exact ((hunshut hclosed).step action).1
  | false =>
    have htells := step_tells c action
    have hstays := fun hreading => (hgrounded hreading).1.stays action
    generalize (c.step action).1 = c', notices (c.step action).2 = told at htells hafter hstays
    have hopen : c'.closed ≠ c.closed := by simp [hafter, hclosed]
    cases htells with
    | nothing closed | attemptFailed attempt cause dialing closed | news payload reading closed =>
      exact absurd closed hopen
    | connected dialing wasOpen waited closed state => exact absurd (closed.trans hclosed.symm) hopen
    | gone error wasOpen closed cause =>
      obtain ⟨-, hreading, hstopped⟩ := cause.resolve_left hother
      exact ⟨hafter, hstopped, (hstays hreading).dials⟩

theorem closed_of_step_shutdown (c : Connection) : (c.step .shutdown).1.closed = true := by
  simp only [Connection.step, shutdown, close]
  split
  · next hclosed => exact hclosed
  · rfl

/-- A connection that is not shut down is lost by its reader, and was open before. -/
theorem lost_by_reader (hother : action ≠ .shutdown) {error : Option String}
    (htold : .told (.disconnected error) ∈ (c.step action).2) : action.isReading = true ∧ c.closed = false ∧
      (c.step action).1.closed = true ∧ notices (c.step action).2 = [.disconnected error] := by
  have htells := step_tells c action
  have hmem := mem_notices.2 htold
  generalize (c.step action).1 = c', notices (c.step action).2 = told at htells hmem
  cases htells with
  | gone error' wasOpen closed cause =>
    obtain rfl : error = error' := by simpa using hmem
    exact ⟨(cause.resolve_left hother).1, wasOpen, closed, rfl⟩
  | _ => simp at hmem

/-! ## Steps that are no shutdown -/

/-- As far as its dial and its stream go, a connection stays as it is. -/
structure Still (c c' : Connection) : Prop where
  setup : c'.setup = c.setup
  closed : c'.closed = c.closed
  state : c'.state = c.state
  incoming : c'.incoming = c.incoming
  dials : c'.dials = c.dials

/-- What a connection does that is not shut down, and what it tells. -/
inductive Onward (c : Connection) : Connection → List Notification → Prop
  | still {c' : Connection} (same : Still c c') : Onward c c' []
  | acts (action : Action) (other : action ≠ .shutdown) : Onward c (c.step action).1 (notices (c.step action).2)

variable {c' c'' : Connection} {told : List Notification}

theorem Still.refl (c : Connection) : Still c c :=
  ⟨rfl, rfl, rfl, rfl, rfl⟩

theorem Still.trans (hfirst : Still c c') (hsecond : Still c' c'') : Still c c'' :=
  ⟨hsecond.setup.trans hfirst.setup, hsecond.closed.trans hfirst.closed, hsecond.state.trans hfirst.state, hsecond.incoming.trans hfirst.incoming,
    hsecond.dials.trans hfirst.dials⟩

theorem transmit_still (c : Connection) (number : UInt64) :
    Still c (c.transmit number).1 ∧ notices (c.transmit number).2 = [] := by
  have hsame : OfCalls c (c.step (.transmit number)) := step_ofCalls c rfl
  exact ⟨⟨hsame.setup, hsame.closed, hsame.state, hsame.incoming, hsame.dials⟩, hsame.notices_eq_nil⟩

theorem Onward.setup (honward : Onward c c' told) : c'.setup = c.setup := by
  cases honward with
  | still same => exact same.setup
  | acts action other => exact (step_callStep c action).setup_eq

theorem Onward.tells (honward : Onward c c' told) : ∃ action, action ≠ .shutdown ∧ Tells c action c' told := by
  cases honward with
  | still same => exact ⟨.leave, by simp, .nothing same.closed⟩
  | acts action other => exact ⟨action, other, step_tells c action⟩

theorem Onward.anchored (honward : Onward c c' told) (hanchored : Anchored c) : Anchored c' := by
  cases honward with
  | still same =>
    exact ⟨⟨same.state ▸ hanchored.1.state, same.dials.trans hanchored.1.dials⟩,
      hanchored.2.imp same.state.trans same.closed.trans⟩
  | acts action other => exact hanchored.step action

theorem Onward.grounded (honward : Onward c c' told) (hgrounded : Grounded c) (hone : OneDial c) : Grounded c' := by
  cases honward with
  | still same => exact fun hreading => (Onward.still same).anchored (hgrounded (same.incoming ▸ hreading))
  | acts action other => exact hgrounded.step hone action

theorem Onward.ended (honward : Onward c c' told) (hended : Ended c) : Ended c' ∧ told = [] := by
  cases honward with
  | still same =>
    exact ⟨⟨same.closed.trans hended.closed, same.incoming.trans hended.unread, same.dials.trans hended.undialed⟩, rfl⟩
  | acts action other => exact hended.step action

theorem Onward.unshut (honward : Onward c c' told) (hunshut : Unshut c) (hgrounded : Grounded c) : Unshut c' := by
  cases honward with
  | still same => exact fun hclosed => ((Onward.still same).ended (hunshut (same.closed ▸ hclosed))).1
  | acts action other => exact hunshut.step hgrounded other

theorem Onward.closed (honward : Onward c c' told) (hclosed : c.closed = true) : c'.closed = true := by
  cases honward with
  | still same => exact same.closed.trans hclosed
  | acts action other => exact (step_callStep c action).closed_of_closed hclosed

/-- A connection that is closed tells that it is gone, and had been there. -/
theorem Onward.loses (honward : Onward c c' told) (hgrounded : Grounded c) (hopen : c.closed = false)
    (hclosed : c'.closed = true) : c.state = .connected ∧ ∃ error, told = [.disconnected error] := by
  obtain ⟨action, hother, htells⟩ := honward.tells
  have hopen' : c'.closed ≠ c.closed := by simp [hclosed, hopen]
  cases htells with
  | nothing closed | attemptFailed attempt cause dialing closed | news payload reading closed =>
    exact absurd closed hopen'
  | connected dialing wasOpen waited closed state => exact absurd (closed.trans hopen.symm) hopen'
  | gone error wasOpen closed cause =>
    obtain ⟨-, hreading, -⟩ := cause.resolve_left hother
    refine ⟨(hgrounded hreading).2.resolve_right ?_, error, rfl⟩
    simp [hopen]

/-- One thing is told at most. -/
theorem Onward.told_cases (honward : Onward c c' told) : told = [] ∨ ∃ notification, told = [notification] := by
  obtain ⟨action, hother, htells⟩ := honward.tells
  cases htells with
  | nothing closed => exact .inl rfl
  | attemptFailed | connected | news | gone => exact .inr ⟨_, rfl⟩

/-- Whoever is told that the connection is gone finds it closed. -/
theorem Onward.closed_of_farewell (honward : Onward c c' told) {notification : Notification}
    (hmem : notification ∈ told) (hfarewell : notification.isFarewell = true) : c'.closed = true := by
  obtain ⟨action, hother, htells⟩ := honward.tells
  cases htells with
  | gone error wasOpen closed cause => exact closed
  | nothing | attemptFailed | connected | news =>
    simp only [List.mem_singleton, List.not_mem_nil] at hmem
    all_goals
      subst hmem
      cases hfarewell

/-- News is told by a connection that is there, or was. -/
theorem Onward.anchored_of_news (honward : Onward c c' told) (hgrounded : Grounded c) {payload : Wire.Event.Payload}
    (hnews : .debug payload ∈ told) : Anchored c := by
  obtain ⟨action, hother, htells⟩ := honward.tells
  cases htells with
  | news payload reading closed => exact hgrounded reading
  | _ => simp at hnews

end

end DebugBridge.Connection
