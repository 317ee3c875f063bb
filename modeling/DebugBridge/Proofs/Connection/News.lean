import DebugBridge.Proofs.Connection.Ledger
import DebugBridge.Proofs.Connection.Notices
import DebugBridge.Proofs.Connection.States
import DebugBridge.Proofs.Wire.Chunking

/-!
# News

What the server says of its own accord comes under number 0 and is told to all who listen; a reply comes under the
number of its call and is nobody else's business. The number alone decides between the two. So the news that is told is
the content of the messages numbered 0, each once and in the order of their bytes, whatever calls are under way.
-/

namespace DebugBridge

/-- What a message is told as, if it is news: one that carries a number is a reply, and an empty one says nothing. -/
def Wire.Event.news? (event : Wire.Event) : Option Wire.Event.Payload :=
  if event.number = 0 then event.payload else none

/-- The server's news that an effect tells, if it tells any. -/
def Effect.news? : Effect → Option Wire.Event.Payload
  | .told (.debug payload) => some payload
  | _ => none

/-- The server's news that a notification tells, if it does. -/
def Notification.news? : Notification → Option Wire.Event.Payload
  | .debug payload => some payload
  | _ => none

namespace Connection

/-- The server's news that is told, in order. -/
def newsTold (effects : List Effect) : List Wire.Event.Payload :=
  effects.filterMap Effect.news?

/-- The messages that were read off the stream, in order. -/
def received (h : List Moment) : List Wire.Event :=
  h.filterMap fun
    | .received event => some event
    | _ => none

/-- The bytes that a step takes in from the server: they wait to be read, if anyone reads. -/
def accepted (c : Connection) : Action → Bytes
  | .arrive bytes =>
    match c.incoming with
    | some incoming => if incoming.ended then [] else bytes
    | none => []
  | _ => []

/-- All bytes that a run takes in from the server. -/
def inbound (c : Connection) : List Action → Bytes
  | [] => []
  | action :: actions => c.accepted action ++ (c.step action).1.inbound actions

theorem filterMap_notices (effects : List Effect) :
    (notices effects).filterMap Notification.news? = newsTold effects := by
  unfold notices newsTold
  rw [List.filterMap_filterMap]
  refine List.filterMap_congr fun effect _ => ?_
  cases effect with
  | told notification => cases notification <;> rfl
  | _ => rfl

@[simp] theorem newsTold_append (effects more : List Effect) :
    newsTold (effects ++ more) = newsTold effects ++ newsTold more :=
  List.filterMap_append

@[simp] theorem received_append (h more : List Moment) : received (h ++ more) = received h ++ received more :=
  List.filterMap_append

@[simp] theorem received_did (effects : List Effect) : received (effects.map .did) = [] := by
  simp [received]

theorem mem_received {h : List Moment} {event : Wire.Event} : event ∈ received h ↔ .received event ∈ h := by
  unfold received
  rw [List.mem_filterMap]
  constructor
  · rintro ⟨m, hm, heq⟩
    cases m with
    | received other =>
      cases heq
      exact hm
    | _ => cases heq
  · intro hreceived
    exact ⟨_, hreceived, rfl⟩

/-! ## What a step tells -/

section

variable {c : Connection}

@[simp] theorem newsTold_close (c : Connection) (error : Option String) : newsTold (c.close error).2 = [] := by
  unfold close
  split <;> rfl

/-- A message is told if it is news. -/
@[simp] theorem newsTold_dispatch (c : Connection) (event : Wire.Event) :
    newsTold (c.dispatch event).2 = event.news?.toList := by
  unfold dispatch Wire.Event.news?
  split
  · cases event.payload <;> rfl
  · split
    · dsimp only
      split <;> rfl
    · rfl

/-- Only reading on tells news of the server's. -/
theorem newsTold_eq_nil {action : Action} (hother : action ≠ .read) : newsTold (c.step action).2 = [] := by
  have htells := step_tells c action
  rw [← filterMap_notices]
  generalize (c.step action).1 = c', notices (c.step action).2 = told at htells
  cases htells with
  | news payload reading closed => exact absurd rfl hother
  | _ => rfl

theorem received_eq_nil {action : Action} (hother : action ≠ .read) : received (c.moments action) = [] := by
  rw [List.eq_nil_iff_forall_not_mem]
  intro event hevent
  exact hother (received_mem_moments (mem_received.1 hevent)).1

/-- A step tells the news among the messages it reads, which is at most one. -/
theorem newsTold_step (c : Connection) (action : Action) :
    newsTold (c.step action).2 = (received (c.moments action)).filterMap Wire.Event.news? := by
  by_cases hread : action = .read
  · subst hread
    rw [moments, received_append, received_did, List.append_nil]
    cases hincoming : c.incoming with
    | none => simp [step, read, intake, hincoming, newsTold, received]
    | some incoming =>
      cases hnext : Wire.next c.setup.maxFrameBytes Wire.Event.decode incoming.unread with
      | message event rest =>
        simp only [step, read, intake, hincoming, hnext, newsTold_dispatch]
        cases hnews : event.news? <;> simp [received, hnews]
      | refused error rest => simp [step, read, intake, hincoming, hnext, received]
      | wait =>
        simp only [step, read, intake, hincoming, hnext, received]
        split
        · rfl
        · exact newsTold_close _ _
  · rw [newsTold_eq_nil hread, received_eq_nil hread]
    rfl

theorem newsTold_run (c : Connection) (actions : List Action) :
    newsTold (c.run actions).2 = (received (c.history actions)).filterMap Wire.Event.news? := by
  induction actions generalizing c with
  | nil => rfl
  | cons action actions ih =>
    rw [run_cons, newsTold_append, newsTold_step, ih, history, received_append, List.filterMap_append]

end

/-! ## What is read -/

/-- Where reading stands. A connection that waits for its stream has taken nothing in. While it reads, what was read
and what can still be read make up what came; and what was read came first, also once it has stopped. -/
structure Reading (c : Connection) (bytes : Bytes) (events : List Wire.Event) : Prop where
  early : c.state = .connecting → c.incoming = none ∧ bytes = [] ∧ events = []
  going : ∀ incoming, c.incoming = some incoming →
    Wire.drain c.setup.maxFrameBytes Wire.Event.decode bytes
      = (Wire.drain c.setup.maxFrameBytes Wire.Event.decode incoming.unread).after events
  first : events <+: (Wire.drain c.setup.maxFrameBytes Wire.Event.decode bytes).messages

section

variable {c : Connection} {bytes : Bytes} {events : List Wire.Event}

theorem step_setup (c : Connection) (action : Action) : (c.step action).1.setup = c.setup :=
  (step_callStep c action).setup_eq

/-- No step begins to wait again. -/
theorem connecting_of_step {action : Action} (hstate : (c.step action).1.state = .connecting) :
    c.state = .connecting := by
  cases step_stateStep c action with
  | stays state closed => rw [← state, hstate]
  | connects waited wasOpen state closed => exact waited
  | closes wasOpen closed ended =>
    rw [hstate] at ended
    cases ended
  | runsOut ran state closed =>
    rw [hstate] at state
    cases state

theorem Reading.start (setup : ConnectionSetup) : Reading { setup } [] [] where
  early := fun _ => ⟨rfl, rfl, rfl⟩
  going := by
    intro incoming hincoming
    cases hincoming
  first := List.nil_prefix

/-- Bytes that are taken in wait behind those that wait already. -/
theorem Reading.arrive (hreading : Reading c bytes events) (more : Bytes) :
    Reading (c.arrive more).1 (bytes ++ c.accepted (.arrive more)) events := by
  unfold Connection.arrive accepted
  cases hincoming : c.incoming with
  | none =>
    rw [List.append_nil]
    exact hreading
  | some incoming =>
    dsimp only
    split
    · rw [List.append_nil]
      exact hreading
    · have hwhole := Wire.drain_append_of_after (hreading.going incoming hincoming) more
      constructor
      · intro hstate
        rw [(hreading.early hstate).1] at hincoming
        cases hincoming
      · intro joined hjoined
        cases hjoined
        exact hwhole
      · rw [hwhole]
        exact List.prefix_append _ _

theorem Reading.step (hreading : Reading c bytes events) (action : Action) :
    Reading (c.step action).1 (bytes ++ c.accepted action) (events ++ received (c.moments action)) := by
  by_cases harrive : ∃ more, action = .arrive more
  · obtain ⟨more, rfl⟩ := harrive
    rw [received_eq_nil (by simp), List.append_nil]
    exact hreading.arrive more
  have haccepted : c.accepted action = [] := by
    cases action with
    | arrive more => exact absurd ⟨more, rfl⟩ harrive
    | _ => rfl
  rw [haccepted, List.append_nil]
  have hsetup := step_setup c action
  have hbefore : (c.step action).1.state = .connecting → c.incoming = none ∧ bytes = [] ∧ events = [] :=
    fun hstate => hreading.early (connecting_of_step hstate)
  -- A step that reads no message, and after which no other stream is read, changes nothing.
  have hsilent : received (c.moments action) = [] →
      (∀ incoming, (c.step action).1.incoming = some incoming → ∃ before, c.incoming = some before ∧
        before.unread = incoming.unread) →
      Reading (c.step action).1 bytes (events ++ received (c.moments action)) := by
    intro hnone hfrom
    rw [hnone, List.append_nil]
    constructor
    · intro hstate
      refine ⟨?_, (hbefore hstate).2⟩
      rw [Option.eq_none_iff_forall_ne_some]
      intro incoming hincoming
      obtain ⟨before, hfound, -⟩ := hfrom incoming hincoming
      rw [(hbefore hstate).1] at hfound
      cases hfound
    · intro incoming hincoming
      obtain ⟨before, hfound, hunread⟩ := hfrom incoming hincoming
      rw [hsetup, ← hunread]
      exact hreading.going before hfound
    · rw [hsetup]
      exact hreading.first
  rcases step_reads c action with hreads | ⟨hwaits, hconnected, dial, stream, rfl, hinstalled⟩
  · cases hreads with
    | stops stopped silent =>
      refine hsilent (by simp [moments, silent, received]) fun incoming hincoming => ?_
      rw [stopped] at hincoming
      cases hincoming
    | keeps same silent =>
      refine hsilent ?_ fun incoming hincoming => ⟨incoming, same ▸ hincoming, rfl⟩
      rw [moments, received_append, received_did, List.append_nil, List.eq_nil_iff_forall_not_mem]
      exact fun event hevent => silent event (mem_received.1 hevent)
    | @takes incoming event rest found next left =>
      have hreceived : received (c.moments .read) = [event] := by
        simp [moments, intake, found, next, received]
      have hwhole : Wire.drain c.setup.maxFrameBytes Wire.Event.decode bytes
          = (Wire.drain c.setup.maxFrameBytes Wire.Event.decode rest).after (events ++ [event]) := by
        rw [hreading.going incoming found, Wire.drain_of_message next]
        simp only [Wire.Drained.after, List.append_assoc]
      rw [hreceived]
      constructor
      · intro hstate
        rw [(hbefore hstate).1] at found
        cases found
      · intro after hafter
        rw [left] at hafter
        cases hafter
        rw [hsetup]
        exact hwhole
      · rw [hsetup, hwhole]
        exact List.prefix_append _ _
    | comes more found goesOn joined => exact absurd ⟨more, rfl⟩ harrive
    | ends found marked =>
      refine hsilent (received_eq_nil (by simp)) fun incoming hincoming => ?_
      rw [marked] at hincoming
      cases hincoming
      exact ⟨_, found, rfl⟩
  · -- The stream is new: nothing has come over it.
    obtain ⟨-, rfl, rfl⟩ := hreading.early hwaits
    rw [received_eq_nil (by simp)]
    constructor
    · intro hstate
      rw [hconnected] at hstate
      cases hstate
    · intro incoming hincoming
      rw [hinstalled] at hincoming
      cases hincoming
      rfl
    · exact List.nil_prefix

theorem Reading.run (hreading : Reading c bytes events) (actions : List Action) :
    Reading (c.run actions).1 (bytes ++ c.inbound actions) (events ++ received (c.history actions)) := by
  induction actions generalizing c bytes events with
  | nil =>
    rw [inbound, history, List.append_nil, show received [] = [] from rfl, List.append_nil]
    exact hreading
  | cons action actions ih =>
    rw [inbound, history, received_append, ← List.append_assoc, ← List.append_assoc]
    exact ih (hreading.step action)

end

/-- In every run the news that is told is that of the messages which were read: their contents under number 0, each once,
in order. What was read is what the bytes that came begin with, and all of it once no more can be read.

And whatever is pending, be it a number 0 or none at all, a message under number 0 does nothing but be told, while one
under another number tells nobody anything: its call learns of it, and that is all. -/
theorem news_is_told_once_in_order (setup : ConnectionSetup) (actions : List Action) :
    let c := (({ setup } : Connection).run actions).1
    let events := received (({ setup } : Connection).history actions)
    let inbound := Wire.drain setup.maxFrameBytes Wire.Event.decode (({ setup } : Connection).inbound actions)
    newsTold (({ setup } : Connection).run actions).2 = events.filterMap Wire.Event.news? ∧
    (events <+: inbound.messages ∧
      ∀ incoming, c.incoming = some incoming →
        Wire.next setup.maxFrameBytes Wire.Event.decode incoming.unread = .wait → inbound.messages = events) ∧
    ∀ (c : Connection) (action : Action) (event : Wire.Event), .received event ∈ c.moments action →
      (event.number = 0 → ∃ incoming,
        c.step action = ({ c with incoming }, (event.payload.map fun payload => .told (.debug payload)).toList)) ∧
      (event.number ≠ 0 → (c.step action).2 = []) := by
  intro c events inbound
  have hreading := (Reading.start setup).run actions
  rw [List.nil_append, List.nil_append] at hreading
  have hsetup : c.setup = setup := run_setup { setup } actions
  refine ⟨newsTold_run _ actions, ⟨?_, ?_⟩, ?_⟩
  · have hfirst := hreading.first
    rw [hsetup] at hfirst
    exact hfirst
  · intro incoming hincoming hwait
    have hgoing := hreading.going incoming hincoming
    rw [hsetup, Wire.drain_of_wait hwait] at hgoing
    have hall : inbound.messages = events ++ [] := congrArg Wire.Drained.messages hgoing
    rw [hall, List.append_nil]
  · intro c action event hreceived
    obtain ⟨incoming, hstep⟩ := step_of_received hreceived
    rw [hstep, dispatch]
    constructor
    · intro hnews
      exact ⟨incoming, if_pos hnews⟩
    · intro hreply
      rw [if_neg hreply]
      split
      · dsimp only
        split <;> rfl
      · rfl

end Connection

end DebugBridge
