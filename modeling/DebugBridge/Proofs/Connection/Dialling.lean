import DebugBridge.Proofs.Connection.News
import DebugBridge.Proofs.Connection.Shutdown

/-!
# One dial from its beginning to its end

A dial tries to open a stream until it succeeds, so many times at most, and rests between two attempts. Here the only dial
of a connection is followed through any run in which the connection is not shut down, whatever else happens meanwhile.
`Dialling` says where it may stand, with the turns it has taken, what it has told and how it has ended. Each step keeps it
so.
-/

namespace DebugBridge

/-- Whether a notification tells of a dial. -/
def Notification.ofDial : Notification → Bool
  | .connectFailed .. | .connected => true
  | _ => false

namespace Connection

/-! ## The turns of a dial -/

/-- What a dial goes through. -/
inductive Turn where
  /-- An attempt has failed. -/
  | failed (cause : String)
  /-- The rest before the next attempt is over. -/
  | rested
  /-- An attempt has opened a stream. -/
  | opened
  /-- The stream is installed. -/
  | attached
  deriving DecidableEq, Repr

/-- The turn that a step is for a dial which stands there. -/
def Turn.of? (dial : Nat) : Action → Dial → Option Turn
  | .refused other cause, .opening _ => if other = dial then some (.failed cause) else none
  | .retry other, .resting _ => if other = dial then some .rested else none
  | .opened other _, .opening _ => if other = dial then some .opened else none
  | .attach other, .attaching _ => if other = dial then some .attached else none
  | _, _ => none

/-- The turn that a step is for a dial. -/
def turn? (c : Connection) (dial : Nat) (action : Action) : Option Turn :=
  (Assoc.find? dial c.dials).bind (Turn.of? dial action)

/-- The turns that a dial takes in a run. -/
def turns (c : Connection) (dial : Nat) : List Action → List Turn
  | [] => []
  | action :: actions => (c.turn? dial action).toList ++ (c.step action).1.turns dial actions

/-- What is told of a dial. -/
def announced (effects : List Effect) : List Notification :=
  (notices effects).filter (·.ofDial)

/-- Attempts that fail, each with the rest after it. -/
def rounds (causes : List String) : List Turn :=
  causes.flatMap fun cause => [.failed cause, .rested]

/-- What is told of attempts that fail: their numbers, from 1 on, each with its own cause. -/
def failures (causes : List String) : List Notification :=
  causes.mapIdx fun index cause => .connectFailed (index + 1) cause

@[simp] theorem announced_append (effects more : List Effect) :
    announced (effects ++ more) = announced effects ++ announced more := by
  simp [announced]

theorem rounds_concat (causes : List String) (cause : String) :
    rounds (causes ++ [cause]) = rounds causes ++ [.failed cause] ++ [.rested] := by
  simp [rounds]

theorem failures_concat (causes : List String) (cause : String) :
    failures (causes ++ [cause]) = failures causes ++ [.connectFailed (causes.length + 1) cause] := by
  simp [failures, List.mapIdx_append]

/-! ## Where a dial stands -/

/-- A connection that is open and has no stream, and stands there. -/
structure Bare (c : Connection) (state : LinkState) : Prop where
  state : c.state = state
  isOpen : c.closed = false
  streamless : c.incoming = none

/-- Where the only dial of a connection stands when it may try so often, with the turns it has taken, what was told of it,
and how it has ended. -/
inductive Dialling (limit dial : Nat) (c : Connection) :
    List Turn → List Notification → List (Except CallError Unit) → Prop
  /-- An attempt is under way, after some that have failed. -/
  | opening {causes : List String} (few : causes.length < limit)
      (stage : c.dials = [(dial, .opening (causes.length + 1))]) (bare : Bare c .connecting) :
      Dialling limit dial c (rounds causes) (failures causes) []
  /-- An attempt has failed, and it is not the last one. -/
  | resting {causes : List String} {cause : String} (few : causes.length + 1 < limit)
      (stage : c.dials = [(dial, .resting (causes.length + 1))]) (bare : Bare c .connecting) :
      Dialling limit dial c (rounds causes ++ [.failed cause]) (failures (causes ++ [cause])) []
  /-- An attempt has succeeded. -/
  | attaching {causes : List String} {stream : StreamId} (few : causes.length < limit)
      (stage : c.dials = [(dial, .attaching stream)]) (bare : Bare c .connecting) :
      Dialling limit dial c (rounds causes ++ [.opened]) (failures causes) []
  /-- The stream of the attempt that has succeeded was installed. -/
  | connected {causes : List String} (few : causes.length < limit) (stage : c.dials = [])
      (there : c.state = .connected ∨ c.closed = true) :
      Dialling limit dial c (rounds causes ++ [.opened, .attached]) (failures causes ++ [.connected]) [.ok ()]
  /-- All attempts have failed. -/
  | failed {causes : List String} {cause : String} (all : causes.length + 1 = limit) (stage : c.dials = [])
      (bare : Bare c .failed) :
      Dialling limit dial c (rounds causes ++ [.failed cause]) (failures (causes ++ [cause]))
        [.error (.connectFailed limit cause)]

/-! ## One step -/

section

variable {c : Connection} {action : Action}

/-- Without a stream, what is no step of a dial and no shutdown changes nothing that matters to a dial. -/
theorem Bare.aside {state : LinkState} (hbare : Bare c state) (haside : action.ofDial = false)
    (hshutdown : action ≠ .shutdown) : Bare (c.step action).1 state := by
  have hclosed : (c.step action).1.closed = false := by
    have htells := step_tells c action
    generalize (c.step action).1 = c', notices (c.step action).2 = told at htells
    cases htells with
    | nothing closed | attemptFailed attempt cause dialing closed | news payload reading closed =>
      exact closed.trans hbare.isOpen
    | connected dialing wasOpen waited closed state => exact closed
    | gone error wasOpen closed cause =>
      rcases cause with hcause | ⟨-, hreading, -⟩
      · exact absurd hcause hshutdown
      · exact absurd hbare.streamless hreading
  refine ⟨?_, hclosed, ?_⟩
  · rcases (step_aside haside).2.1 with hsame | hgone
    · exact hsame.trans hbare.state
    · rw [hclosed] at hgone
      cases hgone
  · by_cases hleave : action = .leave
    · subst hleave
      simp only [Connection.step, leave]
      split
      · exact hbare.streamless
      · exact hbare.streamless
    · have hstream := (step_apart haside hleave).stream hclosed
      rw [hbare.streamless, Option.map_none, Option.map_eq_none_iff] at hstream
      exact hstream

/-- Of a dial only its own steps tell. -/
theorem announced_aside (haside : action.ofDial = false) : announced (c.step action).2 = [] := by
  have htells := step_tells c action
  unfold announced
  generalize (c.step action).1 = c', notices (c.step action).2 = told at htells
  cases htells with
  | nothing closed => rfl
  | attemptFailed attempt cause dialing closed => cases haside
  | connected dialing wasOpen waited closed state => cases haside
  | news payload reading closed => rfl
  | gone error wasOpen closed cause => rfl

theorem turn?_aside (haside : action.ofDial = false) (dial : Nat) : c.turn? dial action = none := by
  unfold turn?
  cases Assoc.find? dial c.dials with
  | none => rfl
  | some stage =>
    cases action with
    | dial | opened _ _ | refused _ _ | retry _ | giveUp _ | attach _ | discard _ | dropDial _ => cases haside
    | _ => rfl

/-- What is not the dial's turn does nothing to it. -/
theorem step_of_turn?_eq_none {dial : Nat} {stage : Dial} (hstage : c.dials = [(dial, stage)])
    (hopen : c.closed = false) (htaken : stage ≠ .discarding) (hdial : action.ofDial = true)
    (howner : action.byOwner = false) (hturn : c.turn? dial action = none) : c.step action = (c, []) := by
  have hfind : ∀ other, Assoc.find? other c.dials = if dial = other then some stage else none := by
    intro other
    rw [hstage, Assoc.find?_cons]
    rfl
  rw [turn?, hfind, if_pos rfl, Option.bind_some] at hturn
  cases action with
  | dial | dropDial _ => cases howner
  | opened other _ | refused other _ | retry other | giveUp other | attach other | discard other =>
    by_cases hother : dial = other
    · subst hother
      cases stage with
      | discarding => exact absurd rfl htaken
      | _ => simp_all [Turn.of?, Connection.step, opened, refused, retry, giveUp, attach, discard]
    · simp [Connection.step, opened, refused, retry, giveUp, attach, discard, hfind, hother]
  | _ => cases hdial

theorem step_of_no_dials (hnone : c.dials = []) (hdial : action.ofDial = true) (howner : action.byOwner = false) :
    c.step action = (c, []) := by
  cases action with
  | dial | dropDial _ => cases howner
  | opened _ _ | refused _ _ | retry _ | giveUp _ | attach _ | discard _ =>
    simp [Connection.step, opened, refused, retry, giveUp, attach, discard, hnone]
  | _ => cases hdial

/-- Which step is which turn. -/
theorem turn?_cases {dial : Nat} {stage : Dial} {turn : Turn} (hstage : c.dials = [(dial, stage)])
    (hturn : c.turn? dial action = some turn) :
    (∃ attempt cause, stage = .opening attempt ∧ action = .refused dial cause ∧ turn = .failed cause) ∨
    (∃ attempt stream, stage = .opening attempt ∧ action = .opened dial stream ∧ turn = .opened) ∨
    (∃ attempt, stage = .resting attempt ∧ action = .retry dial ∧ turn = .rested) ∨
    (∃ stream, stage = .attaching stream ∧ action = .attach dial ∧ turn = .attached) := by
  have hself : Turn.of? dial action stage = some turn := by
    rw [turn?, hstage, Assoc.find?_cons, if_pos rfl] at hturn
    exact hturn
  unfold Turn.of? at hself
  split at hself
  all_goals first
    | cases hself
    | (split at hself
       · next heq =>
         cases hself
         subst heq
         simp
       · cases hself)

/-- A step of a dial takes it on. -/
theorem Dialling.turn {limit dial : Nat} {taken : List Turn} {told : List Notification}
    {ended : List (Except CallError Unit)} (hdialling : Dialling limit dial c taken told ended)
    (hlimit : c.attempts = limit) {turn : Turn} (hturn : c.turn? dial action = some turn) :
    Dialling limit dial (c.step action).1 (taken ++ [turn]) (told ++ announced (c.step action).2)
      (ended ++ outcomes (c.step action).2) := by
  cases hdialling with
  | @opening causes few stage bare =>
    obtain ⟨state, isOpen, streamless⟩ := bare
    rcases turn?_cases stage hturn with ⟨attempt, cause, hstage, rfl, rfl⟩ | ⟨attempt, stream, hstage, rfl, rfl⟩ |
      ⟨_, hstage, -⟩ | ⟨_, hstage, -⟩
    · by_cases hmore : causes.length + 1 < limit
      · have hstep : c.step (.refused dial cause) = (c.setDial dial (.resting (causes.length + 1)),
            [.told (.connectFailed (causes.length + 1) cause)]) := by
          simp [Connection.step, refused, stage, Assoc.find?_cons, hlimit, hmore]
        rw [hstep]
        have hafter := @Dialling.resting limit dial (c.setDial dial (.resting (causes.length + 1))) causes cause hmore
          (by simp [setDial, stage, Assoc.insert]) ⟨state, isOpen, streamless⟩
        rw [failures_concat] at hafter
        exact hafter
      · have hall : causes.length + 1 = limit := by omega
        have hstep : c.step (.refused dial cause) = ({ c with state := .failed, dials := [] },
            [.told (.connectFailed (causes.length + 1) cause), .dialed dial (.error (.connectFailed limit cause))]) := by
          simp [Connection.step, refused, stage, Assoc.find?_cons, hlimit, hmore, endDial, Assoc.erase]
        rw [hstep]
        have hafter := @Dialling.failed limit dial { c with state := .failed, dials := [] } causes cause hall rfl
          ⟨rfl, isOpen, streamless⟩
        rw [failures_concat] at hafter
        exact hafter
    · have hstep : c.step (.opened dial stream) = (c.setDial dial (.attaching stream), []) := by
        simp [Connection.step, opened, stage, Assoc.find?_cons]
      rw [hstep]
      have hafter := @Dialling.attaching limit dial (c.setDial dial (.attaching stream)) causes stream few
        (by simp [setDial, stage, Assoc.insert]) ⟨state, isOpen, streamless⟩
      simpa [announced, outcomes] using hafter
    · cases hstage
    · cases hstage
  | @resting causes cause few stage bare =>
    obtain ⟨state, isOpen, streamless⟩ := bare
    rcases turn?_cases stage hturn with ⟨_, _, hstage, -⟩ | ⟨_, _, hstage, -⟩ | ⟨_, hstage, rfl, rfl⟩ |
      ⟨_, hstage, -⟩
    · cases hstage
    · cases hstage
    · have hlength : (causes ++ [cause]).length = causes.length + 1 := by simp
      have hstep : c.step (.retry dial) = (c.setDial dial (.opening (causes.length + 1 + 1)), []) := by
        simp [Connection.step, retry, stage, Assoc.find?_cons, attempt, isOpen]
      rw [hstep]
      have hafter := @Dialling.opening limit dial (c.setDial dial (.opening (causes.length + 1 + 1)))
        (causes ++ [cause]) (by omega) (by simp [setDial, stage, Assoc.insert]) ⟨state, isOpen, streamless⟩
      rw [rounds_concat] at hafter
      simpa [announced, outcomes] using hafter
    · cases hstage
  | @attaching causes stream few stage bare =>
    obtain ⟨state, isOpen, streamless⟩ := bare
    rcases turn?_cases stage hturn with ⟨_, _, hstage, -⟩ | ⟨_, _, hstage, -⟩ | ⟨_, hstage, -⟩ | ⟨found, hstage, rfl, rfl⟩
    · cases hstage
    · cases hstage
    · cases hstage
    · have hstep : c.step (.attach dial) =
          ({ c with writer := some stream, state := .connected, incoming := some { stream }, dials := [] },
            [.told .connected, .dialed dial (.ok ())]) := by
        simp [Connection.step, attach, stage, Assoc.find?_cons, isOpen, state, endDial, Assoc.erase]
      rw [hstep]
      have hafter := @Dialling.connected limit dial { c with
        writer := some stream, state := .connected, incoming := some { stream }, dials := [] } causes few rfl (.inl rfl)
      simpa [announced, notices, Notification.ofDial, outcomes] using hafter
  | connected few stage there | failed all stage bare => simp [turn?, stage] at hturn

/-- Every step keeps it so, unless it begins another dial, drops one or shuts the connection down. -/
theorem Dialling.step {limit dial : Nat} {taken : List Turn} {told : List Notification}
    {ended : List (Except CallError Unit)} (hdialling : Dialling limit dial c taken told ended)
    (hlimit : c.attempts = limit) (hdial : action ≠ .dial) (hdrop : ∀ other, action ≠ .dropDial other)
    (hshutdown : action ≠ .shutdown) :
    Dialling limit dial (c.step action).1 (taken ++ (c.turn? dial action).toList)
      (told ++ announced (c.step action).2) (ended ++ outcomes (c.step action).2) := by
  by_cases haside : action.ofDial = false
  · obtain ⟨hsame, hstate, hsilent⟩ := @step_aside c action haside
    rw [turn?_aside haside, announced_aside haside, outcomes_eq_nil.2 hsilent]
    simp only [Option.toList_none, List.append_nil]
    cases hdialling with
    | opening few stage bare => exact .opening few (hsame.trans stage) (bare.aside haside hshutdown)
    | resting few stage bare => exact .resting few (hsame.trans stage) (bare.aside haside hshutdown)
    | attaching few stage bare => exact .attaching few (hsame.trans stage) (bare.aside haside hshutdown)
    | failed all stage bare => exact .failed all (hsame.trans stage) (bare.aside haside hshutdown)
    | connected few stage there =>
      refine .connected few (hsame.trans stage) ?_
      rcases hstate with hsame | hclosed
      · exact there.imp (hsame.trans ·) (step_callStep c action).closed_of_closed
      · exact .inr hclosed
  · have hof : action.ofDial = true := by simpa using haside
    have howner : action.byOwner = false := by
      cases action with
      | dial => exact absurd rfl hdial
      | dropDial other => exact absurd rfl (hdrop other)
      | issue _ | dropCall _ => cases hof
      | _ => rfl
    cases hturn : c.turn? dial action with
    | some turn => exact hdialling.turn hlimit hturn
    | none =>
      have hstep : c.step action = (c, []) := by
        cases hdialling with
        | opening few stage bare | resting few stage bare | attaching few stage bare =>
          exact step_of_turn?_eq_none stage bare.isOpen (by simp) hof howner hturn
        | connected few stage there | failed all stage bare => exact step_of_no_dials stage hof howner
      rw [hstep]
      simpa [announced, outcomes] using hdialling

/-- What a run leaves of it. -/
theorem Dialling.run {limit dial : Nat} {taken : List Turn} {told : List Notification}
    {ended : List (Except CallError Unit)} (hdialling : Dialling limit dial c taken told ended)
    (hlimit : c.attempts = limit) {actions : List Action} (hdial : .dial ∉ actions)
    (hdrop : ∀ other, .dropDial other ∉ actions) (hshutdown : .shutdown ∉ actions) :
    Dialling limit dial (c.run actions).1 (taken ++ c.turns dial actions) (told ++ announced (c.run actions).2)
      (ended ++ outcomes (c.run actions).2) := by
  induction actions generalizing c taken told ended with
  | nil => simpa [Connection.run, turns, announced, outcomes] using hdialling
  | cons action actions ih =>
    have hsetup : (c.step action).1.attempts = c.attempts := by
      unfold attempts
      rw [(step_callStep c action).setup_eq]
    have hnext := ih
      (hdialling.step hlimit (fun h => hdial (h ▸ List.mem_cons_self)) (fun other h => hdrop other (h ▸ List.mem_cons_self))
        (fun h => hshutdown (h ▸ List.mem_cons_self)))
      (hsetup.trans hlimit) (fun h => hdial (List.mem_cons_of_mem _ h))
      (fun other h => hdrop other (List.mem_cons_of_mem _ h)) (fun h => hshutdown (List.mem_cons_of_mem _ h))
    rw [run_cons, announced_append, outcomes_append, turns, ← List.append_assoc, ← List.append_assoc,
      ← List.append_assoc]
    exact hnext

/-- A dial that has ended takes no turn any more. -/
theorem Numbered.turns_eq_nil {effects : List Effect} (hnumbered : Numbered c effects) {dial : Nat}
    {ending : Except CallError Unit} (hended : .dialed dial ending ∈ effects) (actions : List Action) :
    c.turns dial actions = [] := by
  induction actions generalizing c effects with
  | nil => rfl
  | cons action actions ih =>
    have hnone : c.turn? dial action = none := by rw [turn?, (hnumbered.ended dial ending hended).2, Option.bind_none]
    rw [turns, hnone, ih (hnumbered.step action) (List.mem_append_left _ hended)]
    rfl

/-- The first attempt of a dial is begun at once. -/
theorem dial_of_bare (hbare : Bare c .connecting) (hnone : c.dials = []) :
    c.step .dial = ({ c with dialed := c.dialed + 1, dials := [(c.dialed, .opening 1)] }, []) := by
  simp [Connection.step, dial, hbare.state, attempt, hbare.isOpen, setDial, hnone, Assoc.insert]

theorem attempts_pos (c : Connection) : 0 < c.attempts :=
  Nat.lt_of_lt_of_le Nat.one_pos (Nat.le_max_left _ _)

end

/-- A connection that waits for a stream is open and has none. -/
theorem bare_of_run {setup : ConnectionSetup} {actions : List Action}
    (hconnecting : (run { setup } actions).1.state = .connecting) : Bare (run { setup } actions).1 .connecting := by
  refine ⟨hconnecting, ?_, (((Reading.start setup).run actions).early hconnecting).1⟩
  cases hclosed : (run { setup } actions).1.closed with
  | false => rfl
  | true =>
    have hfinal := ((Standing.fresh setup).run actions).ended hclosed
    rw [hconnecting] at hfinal
    cases hfinal

/-- The only dial of a connection stands, after whatever has happened, where it should. -/
theorem dialling_run {setup : ConnectionSetup} {before actions : List Action}
    (hconnecting : (run { setup } before).1.state = .connecting) (hnone : (run { setup } before).1.dials = [])
    (hdial : .dial ∉ actions) (hdrop : ∀ other, .dropDial other ∉ actions) (hshutdown : .shutdown ∉ actions) :
    let c := (run { setup } before).1
    Dialling (max 1 setup.connectAttempts.toNat) c.dialed (c.run (.dial :: actions)).1
      ((c.step .dial).1.turns c.dialed actions) (announced (c.run (.dial :: actions)).2)
      (outcomes (c.run (.dial :: actions)).2) := by
  intro c
  have hbare : Bare c .connecting := bare_of_run hconnecting
  have hlimit : c.attempts = max 1 setup.connectAttempts.toNat := by
    rw [attempts, show c.setup = setup from run_setup { setup } before]
  have hbegun := dial_of_bare hbare hnone
  have hfirst : Dialling (max 1 setup.connectAttempts.toNat) c.dialed (c.step .dial).1 [] [] [] := by
    rw [hbegun]
    exact @Dialling.opening _ c.dialed { c with dialed := c.dialed + 1, dials := [(c.dialed, .opening 1)] } []
      (hlimit ▸ c.attempts_pos) rfl ⟨hbare.state, hbare.isOpen, hbare.streamless⟩
  have hlater := hfirst.run (by rw [hbegun]; exact hlimit) hdial hdrop hshutdown
  rw [run_cons, hbegun, List.nil_append]
  rw [hbegun] at hlater
  exact hlater

end Connection

end DebugBridge
