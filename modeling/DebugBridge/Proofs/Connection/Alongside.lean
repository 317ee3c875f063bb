import Mathlib.Data.List.Forall2
import DebugBridge.Proofs.Connection.Renumbering

/-!
# Two runs alongside each other

Of two runs the second leaves out some calls of the first: it takes all the other steps, with the numbers that its calls
have. The server may cut what it sends differently, as long as what is read comes to the same. Where the calls that are
left out never get as far as being sent, the two connections stay beside each other, and what they do to others is the
same but for the numbers.
-/

namespace DebugBridge

/-- Whether an effect does not end a call that is left out. -/
def Effect.spares (gone : List UInt64) : Effect → Bool
  | .answered number _ => number ∉ gone
  | _ => true

namespace Connection

/-! ## The steps of both -/

/-- The number of the call that a step is about. -/
def concerned? (c : Connection) : Action → Option UInt64
  | .issue _ => if c.state = .connected then some c.nextNumber else none
  | .transmit number | .transmitFailed number _ | .collect number | .expire number | .dropCall number => some number
  | _ => none

/-- Whether a step is about no call that is left out. -/
def Keeps (gone : List UInt64) (c : Connection) (action : Action) : Prop :=
  ∀ number ∈ c.concerned? action, number ∉ gone

instance (gone : List UInt64) (c : Connection) (action : Action) : Decidable (Keeps gone c action) :=
  (Option.decidableForallMem (c.concerned? action) : Decidable (∀ number ∈ c.concerned? action, number ∉ gone))

/-- A step with the number that its call has where some are left out. -/
def Action.renumbered (gone : List UInt64) : Action → Action
  | .transmit number => .transmit (renumber gone number)
  | .transmitFailed number cause => .transmitFailed (renumber gone number) cause
  | .collect number => .collect (renumber gone number)
  | .expire number => .expire (renumber gone number)
  | .dropCall number => .dropCall (renumber gone number)
  | action => action

/-- Two messages do the same: both are news, or end the waiting of the same call, or of none that is not left out. -/
structure Counterpart (gone : List UInt64) (c : Connection) (event event' : Wire.Event) : Prop where
  payload : event'.payload = event.payload
  news : event'.number = 0 ↔ event.number = 0
  call : ∀ number ∈ c.pending, number ∉ gone → (event'.number = renumber gone number ↔ event.number = number)

-- Only the pending numbers are gone through: there are too many others to look at each.
instance (gone : List UInt64) (c : Connection) (event event' : Wire.Event) :
    Decidable (Counterpart gone c event event') :=
  decidable_of_iff (event'.payload = event.payload ∧ (event'.number = 0 ↔ event.number = 0) ∧
      (c.pending.all fun number =>
        decide (number ∉ gone → (event'.number = renumber gone number ↔ event.number = number))) = true) <| by
    rw [List.all_eq_true]
    simp only [decide_eq_true_eq]
    exact ⟨fun ⟨payload, news, call⟩ => ⟨payload, news, call⟩, fun same => ⟨same.payload, same.news, same.call⟩⟩

/-- What stands at the front of two streams comes to the same: counterparts, a frame that is refused for the same
reason, or nothing yet, and where the streams have ended, bytes are left of both or of none. -/
inductive FrontsAlike (gone : List UInt64) (c : Connection) (incoming incoming' : Incoming) :
    Wire.Taken Wire.Event → Wire.Taken Wire.Event → Prop
  | message {event event' : Wire.Event} (rest rest' : Bytes) (same : Counterpart gone c event event') :
      FrontsAlike gone c incoming incoming' (.message event rest) (.message event' rest')
  | refused (error : Wire.FrameError) (rest rest' : Bytes) :
      FrontsAlike gone c incoming incoming' (.refused error rest) (.refused error rest')
  | wait (left : incoming.ended = true → (incoming'.unread = [] ↔ incoming.unread = [])) :
      FrontsAlike gone c incoming incoming' .wait .wait

/-- What is read next comes to the same in both. -/
def ReadsAlike (gone : List UInt64) (c d : Connection) : Prop :=
  ∀ incoming ∈ c.incoming, ∀ incoming' ∈ d.incoming, FrontsAlike gone c incoming incoming'
    (Wire.next c.setup.maxFrameBytes Wire.Event.decode incoming.unread)
    (Wire.next d.setup.maxFrameBytes Wire.Event.decode incoming'.unread)

/-- The message that comes is the one at the front. -/
theorem next_of_coming {c : Connection} {incoming : Incoming} (hincoming : c.incoming = some incoming)
    {event : Wire.Event} (hcoming : c.coming = [event]) :
    ∃ rest, Wire.next c.setup.maxFrameBytes Wire.Event.decode incoming.unread = .message event rest := by
  simp only [coming, intake, hincoming] at hcoming
  cases hnext : Wire.next c.setup.maxFrameBytes Wire.Event.decode incoming.unread with
  | message other rest =>
    simp only [hnext, List.filterMap_cons, List.filterMap_nil, List.cons.injEq, and_true] at hcoming
    exact ⟨rest, by rw [hcoming]⟩
  | _ => simp [hnext] at hcoming

/-- Where messages come that are counterparts, both read alike. -/
theorem readsAlike_of_coming {gone : List UInt64} {c d : Connection} (event event' : Wire.Event)
    (hcoming : c.coming = [event]) (hcoming' : d.coming = [event']) (hsame : Counterpart gone c event event') :
    ReadsAlike gone c d := by
  intro incoming hincoming incoming' hincoming'
  obtain ⟨rest, hnext⟩ := next_of_coming hincoming hcoming
  obtain ⟨rest', hnext'⟩ := next_of_coming hincoming' hcoming'
  rw [hnext, hnext']
  exact .message rest rest' hsame

/-- The actions of two runs, of which the second leaves out the calls of some numbers. -/
inductive Alongside (gone : List UInt64) : Connection → Connection → List Action → List Action → Prop
  | done (c d : Connection) : Alongside gone c d [] []
  /-- A step of a call that is left out is not taken in the second. -/
  | alone {c d : Connection} {action : Action} {actions others : List Action} (number : UInt64)
      (about : c.concerned? action = some number) (left : number ∈ gone)
      (later : Alongside gone (c.step action).1 d actions others) : Alongside gone c d (action :: actions) others
  /-- Bytes come when they come. -/
  | arrived {c d : Connection} {actions others : List Action} (bytes : Bytes)
      (later : Alongside gone (c.step (.arrive bytes)).1 d actions others) :
      Alongside gone c d (.arrive bytes :: actions) others
  | arrivedThere {c d : Connection} {actions others : List Action} (bytes : Bytes)
      (later : Alongside gone c (d.step (.arrive bytes)).1 actions others) :
      Alongside gone c d actions (.arrive bytes :: others)
  /-- All other steps are taken in both. -/
  | both {c d : Connection} {action : Action} {actions others : List Action}
      (kept : Keeps gone c action) (alike : action = .read → ReadsAlike gone c d)
      (later : Alongside gone (c.step action).1 (d.step (action.renumbered gone)).1 actions others) :
      Alongside gone c d (action :: actions) (action.renumbered gone :: others)

/-! ## What is done to others -/

/-- Two effects are the same but for the number of the call, which is not one that is left out. -/
inductive Twin (gone : List UInt64) (limit : Nat) : Effect → Effect → Prop
  /-- The frames of one request. -/
  | wrote {number : UInt64} {payload : Wire.Request.Payload} {bytes bytes' : Bytes} (stream : StreamId)
      (kept : number ∉ gone)
      (framed : Wire.frame limit { number, payload := some payload : Wire.Request }.encode = .ok bytes)
      (framed' : Wire.frame limit { number := renumber gone number, payload := some payload : Wire.Request }.encode
        = .ok bytes') : Twin gone limit (.wrote stream bytes) (.wrote stream bytes')
  /-- The end of one call. -/
  | answered {number : UInt64} (kept : number ∉ gone) (result : Except CallError Wire.Event.Payload) :
      Twin gone limit (.answered number result) (.answered (renumber gone number) result)
  /-- What is about no call. -/
  | silent {effect : Effect} (silent : Silent effect) : Twin gone limit effect effect

/-- Two steps, or what two runs come to: the connections are beside each other, and the effects the same. -/
structure Match (gone : List UInt64) (count limit : Nat) (after other : Connection × List Effect) : Prop where
  beside : Beside gone count after.1 other.1
  twins : List.Forall₂ (Twin gone limit) after.2 other.2

/-! ## Steps that are about no call -/

theorem attempt_carrying (c d : Connection) (dial number : Nat) :
    (c.carrying d).attempt dial number = ((c.attempt dial number).1.carrying d, (c.attempt dial number).2) := by
  unfold attempt
  rw [carrying_closed]
  split <;> rfl

theorem dial_carrying (c d : Connection) : (c.carrying d).dial = (c.dial.1.carrying d, c.dial.2) := by
  have hattempt := attempt_carrying { c with dialed := c.dialed + 1 } d c.dialed 1
  unfold dial
  dsimp only
  rw [carrying_state]
  split
  · rfl
  · exact hattempt

theorem opened_carrying (dial : Nat) (stream : StreamId) (c d : Connection) :
    (c.carrying d).opened dial stream = ((c.opened dial stream).1.carrying d, (c.opened dial stream).2) := by
  unfold opened
  rw [carrying_dials]
  split <;> rfl

theorem refused_carrying (dial : Nat) (cause : String) (c d : Connection) :
    (c.carrying d).refused dial cause = ((c.refused dial cause).1.carrying d, (c.refused dial cause).2) := by
  unfold refused
  rw [carrying_dials, carrying_attempts]
  split
  · dsimp only
    split <;> rfl
  · rfl

theorem retry_carrying (dial : Nat) (c d : Connection) :
    (c.carrying d).retry dial = ((c.retry dial).1.carrying d, (c.retry dial).2) := by
  unfold retry
  rw [carrying_dials]
  split
  · exact attempt_carrying c d dial _
  · rfl

theorem giveUp_carrying (dial : Nat) (c d : Connection) :
    (c.carrying d).giveUp dial = ((c.giveUp dial).1.carrying d, (c.giveUp dial).2) := by
  unfold giveUp
  rw [carrying_dials, carrying_closed]
  split
  · split <;> rfl
  · rfl

theorem discard_carrying (dial : Nat) (c d : Connection) :
    (c.carrying d).discard dial = ((c.discard dial).1.carrying d, (c.discard dial).2) := by
  unfold discard
  rw [carrying_dials]
  split <;> rfl

theorem leave_carrying (c d : Connection) : (c.carrying d).leave = (c.leave.1.carrying d, c.leave.2) := by
  unfold leave
  rw [carrying_leaving]
  split <;> rfl

theorem effects_arrive (c : Connection) (bytes : Bytes) : (c.arrive bytes).2 = [] := by
  unfold arrive
  split
  · split <;> rfl
  · rfl

section

variable {gone : List UInt64} {count limit : Nat} {c d : Connection}

theorem twins_of_silent {effects : List Effect} (hsilent : ∀ effect ∈ effects, Silent effect) :
    List.Forall₂ (Twin gone limit) effects effects :=
  List.forall₂_same.2 fun effect hmem => .silent (hsilent effect hmem)

namespace Beside

/-- A step that is no concern of the calls and looks at no stream is the same in both. -/
theorem quiet (hbeside : Beside gone count c d) (step : Connection → Connection × List Effect)
    (hstep : ∀ c d, step (c.carrying d) = ((step c).1.carrying d, (step c).2)) (hquiet : Quiet c (step c)) :
    Match gone count limit (step c) (step d) := by
  obtain ⟨hafter, heffects⟩ := hbeside.carried step hstep
  refine ⟨hafter, ?_⟩
  rw [heffects]
  exact twins_of_silent hquiet.silent

/-- A stream that is installed is the same in both. -/
theorem attach (hbeside : Beside gone count c d) (dial : Nat) :
    Match gone count limit (c.attach dial) (d.attach dial) := by
  have hsame : Assoc.find? dial d.dials = Assoc.find? dial c.dials := by rw [hbeside.dials_eq]
  have hlate : (d.closed = true ∨ d.state ≠ .connecting) ↔ (c.closed = true ∨ c.state ≠ .connecting) := by
    rw [hbeside.closed_eq, hbeside.state_eq]
  unfold Connection.attach
  generalize Assoc.find? dial d.dials = found' at hsame ⊢
  subst hsame
  split
  · next stream _ =>
    simp only [hlate]
    split
    · exact ⟨(hbeside.carried (fun c => ({ c with writer := some stream }.setDial dial .discarding, []))
        fun _ _ => rfl).1, .nil⟩
    · have hinstalled := hbeside.withIncoming (some { stream }) (some { stream }) rfl
      exact ⟨(hinstalled.carried
        (fun c => { c with writer := some stream, state := .connected }.endDial dial (.ok ())) fun _ _ => rfl).1,
        twins_of_silent (by simp [endDial, Silent])⟩
  · exact ⟨hbeside, .nil⟩

/-! ## Closing and reading -/

theorem matchClose (hbeside : Beside gone count c d) (error : Option String) :
    Match gone count limit (c.close error) (d.close error) := by
  obtain ⟨hafter, heffects⟩ := hbeside.close error
  refine ⟨hafter, ?_⟩
  rw [heffects]
  exact twins_of_silent (close_silent c error)

theorem shutdown (hbeside : Beside gone count c d) : Match gone count limit c.shutdown d.shutdown := by
  have hclose : Match gone count limit _ _ := hbeside.matchClose none
  exact ⟨(hclose.beside.carried (fun c => ({ c with leaving := c.leaving + 1 }, [])) fun _ _ => rfl).1,
    hclose.twins⟩

/-- Both have a stream, or none. -/
theorem incoming_none_iff (hbeside : Beside gone count c d) : d.incoming = none ↔ c.incoming = none := by
  have hfront := hbeside.incoming
  cases hc : c.incoming <;> cases hd : d.incoming <;> simp [hc, hd] at hfront ⊢

theorem exists_incoming (hbeside : Beside gone count c d) {incoming : Incoming}
    (hincoming : c.incoming = some incoming) : ∃ incoming', d.incoming = some incoming' ∧ incoming'.stream = incoming.stream ∧
      incoming'.ended = incoming.ended := by
  have hfront := hbeside.incoming
  rw [hincoming, Option.map_some, Option.map_eq_some_iff] at hfront
  obtain ⟨incoming', hincoming', heq⟩ := hfront
  exact ⟨incoming', hincoming', congrArg Prod.fst heq, congrArg Prod.snd heq⟩

theorem readFailed (hbeside : Beside gone count c d) (cause : String) :
    Match gone count limit (c.readFailed cause) (d.readFailed cause) := by
  have hclose : Match gone count limit _ _ := (hbeside.withIncoming none none rfl).matchClose (some cause)
  unfold Connection.readFailed
  cases hincoming : c.incoming with
  | none =>
    rw [hbeside.incoming_none_iff.2 hincoming]
    exact ⟨hbeside, .nil⟩
  | some incoming =>
    obtain ⟨incoming', hincoming', -⟩ := hbeside.exists_incoming hincoming
    rw [hincoming']
    exact hclose

theorem stopReading (hbeside : Beside gone count c d) : Match gone count limit c.stopReading d.stopReading := by
  unfold Connection.stopReading
  by_cases hclosed : c.closed = true
  · rw [if_pos hclosed, if_pos (hbeside.closed_eq.trans hclosed)]
    exact ⟨hbeside.withIncoming _ _ rfl, .nil⟩
  · rw [if_neg hclosed, if_neg (hbeside.closed_eq ▸ hclosed)]
    exact ⟨hbeside, .nil⟩

theorem arriveEnd (hbeside : Beside gone count c d) : Match gone count limit c.arriveEnd d.arriveEnd := by
  unfold Connection.arriveEnd
  cases hincoming : c.incoming with
  | none =>
    rw [hbeside.incoming_none_iff.2 hincoming]
    exact ⟨hbeside, .nil⟩
  | some incoming =>
    obtain ⟨incoming', hincoming', hstream, -⟩ := hbeside.exists_incoming hincoming
    rw [hincoming']
    exact ⟨hbeside.withIncoming _ _ (by simp [Incoming.front, hstream]), .nil⟩

/-- Bytes that come change nothing but what is unread. -/
theorem arrive (hbeside : Beside gone count c d) (bytes : Bytes) : Beside gone count (c.arrive bytes).1 d := by
  unfold Connection.arrive
  split
  · next incoming hincoming =>
    split
    · exact hbeside
    · exact hbeside.withIncoming _ d.incoming (by rw [hbeside.incoming, hincoming]; rfl)
  · exact hbeside

theorem arriveThere (hbeside : Beside gone count c d) (bytes : Bytes) : Beside gone count c (d.arrive bytes).1 := by
  unfold Connection.arrive
  split
  · next incoming' hincoming' =>
    split
    · exact hbeside
    · exact hbeside.withIncoming c.incoming _ (by rw [← hbeside.incoming, hincoming']; rfl)
  · exact hbeside

/-- What ends the waiting of a call that is left out does nothing to the other connection. -/
theorem dispatchGone (hbeside : Beside gone count c d) {event : Wire.Event} (hnonzero : event.number ≠ 0)
    (hgone : event.number ∈ gone) : Match gone count limit (c.dispatch event) (d, []) := by
  have hforgot := hbeside.forget_gone hgone
  unfold Connection.dispatch
  rw [if_neg hnonzero]
  split
  · dsimp only
    split
    · exact ⟨hforgot.put_gone hgone _, .nil⟩
    · exact ⟨hforgot, .nil⟩
  · exact ⟨hbeside, .nil⟩

theorem dispatchKept (hbeside : Beside gone count c d) {event event' : Wire.Event} (hnonzero : event.number ≠ 0)
    (hnonzero' : event'.number ≠ 0) (hkept : event.number ∉ gone) (hpending : event.number ∈ c.pending)
    (hnumber : event'.number = renumber gone event.number) (hpayload : event'.payload = event.payload) :
    Match gone count limit (c.dispatch event) (d.dispatch event') := by
  have hpending' := (hbeside.mem_pending hkept).2 hpending
  have hforgot := hbeside.forget hkept
  unfold Connection.dispatch
  rw [if_neg hnonzero, if_neg hnonzero', if_pos hpending, hnumber, if_pos hpending']
  cases hfound : Assoc.find? event.number c.calls with
  | none =>
    simp only [Connection.forget, hfound, hbeside.missing hkept hfound]
    exact ⟨hforgot, .nil⟩
  | some call =>
    obtain ⟨outcome, hfound', -⟩ := hbeside.found hkept hfound
    simp only [Connection.forget, hfound, hfound']
    exact ⟨hforgot.put hkept _ _ (by simp [Call.gist, Except.map, hpayload]), .nil⟩

/-- A message and its counterpart end the waiting of the same call. -/
theorem dispatch (hbeside : Beside gone count c d) {event event' : Wire.Event}
    (hsame : Counterpart gone c event event') : Match gone count limit (c.dispatch event) (d.dispatch event') := by
  by_cases hnews : event.number = 0
  · unfold Connection.dispatch
    rw [if_pos hnews, if_pos (hsame.news.2 hnews), hsame.payload]
    exact ⟨hbeside, twins_of_silent (by cases event.payload <;> simp [Silent])⟩
  have hnews' : event'.number ≠ 0 := fun hzero => hnews (hsame.news.1 hzero)
  by_cases hkept : event.number ∈ c.pending ∧ event.number ∉ gone
  · exact hbeside.dispatchKept hnews hnews' hkept.2 hkept.1 ((hsame.call _ hkept.1 hkept.2).2 rfl) hsame.payload
  -- In the other connection the message is nobody's.
  have hnobody : d.dispatch event' = (d, []) := by
    unfold Connection.dispatch
    rw [if_neg hnews', if_neg]
    rw [hbeside.pending]
    intro hmem
    obtain ⟨number, hnumber, heq⟩ := List.mem_map.1 hmem
    obtain ⟨hpending, hnot⟩ := List.mem_filter.1 hnumber
    have hnot : number ∉ gone := by simpa using hnot
    have hself := (hsame.call number hpending hnot).1 heq.symm
    exact hkept ⟨hself ▸ hpending, hself ▸ hnot⟩
  rw [hnobody]
  by_cases hgone : event.number ∈ gone
  · exact hbeside.dispatchGone hnews hgone
  · have hstray : event.number ∉ c.pending := fun hpending => hkept ⟨hpending, hgone⟩
    unfold Connection.dispatch
    rw [if_neg hnews, if_neg hstray]
    exact ⟨hbeside, .nil⟩

/-- Both read on. -/
theorem read (hbeside : Beside gone count c d) (halike : ReadsAlike gone c d) :
    Match gone count limit c.read d.read := by
  unfold Connection.read
  cases hincoming : c.incoming with
  | none =>
    rw [hbeside.incoming_none_iff.2 hincoming]
    exact ⟨hbeside, .nil⟩
  | some incoming =>
    obtain ⟨incoming', hincoming', hstream, hended⟩ := hbeside.exists_incoming hincoming
    have hfront := halike incoming hincoming incoming' hincoming'
    have hclose (error : Option String) : Match gone count limit _ _ :=
      (hbeside.withIncoming none none rfl).matchClose error
    rw [hincoming']
    dsimp only
    generalize Wire.next c.setup.maxFrameBytes Wire.Event.decode incoming.unread = taken at hfront ⊢
    generalize Wire.next d.setup.maxFrameBytes Wire.Event.decode incoming'.unread = taken' at hfront ⊢
    cases hfront with
    | message rest rest' same =>
      have hleft := hbeside.withIncoming (some { incoming with unread := rest })
        (some { incoming' with unread := rest' }) (by simp [Incoming.front, hstream, hended])
      exact hleft.dispatch ⟨same.payload, same.news, same.call⟩
    | refused error rest rest' => exact hclose _
    | wait left =>
      cases hopen : incoming.ended with
      | false =>
        simp only [hended.trans hopen, Bool.not_false, if_true]
        exact ⟨hbeside, .nil⟩
      | true =>
        simp only [hended.trans hopen, Bool.not_true, Bool.false_eq_true, if_false, left hopen]
        exact hclose _

end Beside

end

end Connection

end DebugBridge
