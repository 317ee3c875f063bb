import DebugBridge.Proofs.Connection.States
import DebugBridge.Proofs.Connection.Streams

/-!
# A connection with one dial

The adapter dials once for each connection. As long as that goes on the connection is no further than connecting, or was
closed, and there are no calls; and when it fails, the connection will not come about any more.
-/

namespace DebugBridge.Connection

/-- A connection that was dialled once, or not yet. -/
structure OneDial (c : Connection) : Prop where
  one : c.dials = [] ∨ ∃ dial stage, c.dials = [(dial, stage)]
  early : c.dials ≠ [] → c.state = .connecting ∨ c.closed = true
  late : ∀ dial, (dial, Dial.discarding) ∈ c.dials → c.closed = true
  idle : c.calls ≠ [] → c.state = .connected ∨ c.closed = true

/-- A connection that is not dialled for any more, and that is not there. -/
def Lost (c : Connection) : Prop :=
  c.dials = [] ∧ (c.state ≠ .connected ∨ c.closed = true)

/-- What a step does to the dial: it goes on, or its end is told, and if it fails there will be no connection. -/
structure DialStep (c : Connection) (result : Connection × List Effect) : Prop where
  after : OneDial result.1
  silent : c.dials = [] → ∀ dial ending, .dialed dial ending ∉ result.2
  undialed : c.dials = [] → result.1.dials = [] ∧ (result.1.state = c.state ∨ result.1.closed = true)
  dialing : c.dials ≠ [] → result.1.dials ≠ [] ∨ ∃ dial ending, .dialed dial ending ∈ result.2
  failed : ∀ dial error, .dialed dial (.error error) ∈ result.2 → result.1.Lost
  closed : c.closed = true → result.1.closed = true

section

variable {c : Connection}

theorem OneDial.eq_of_find? (hone : OneDial c) {dial : Nat} {stage : Dial}
    (hfound : Assoc.find? dial c.dials = some stage) : c.dials = [(dial, stage)] := by
  rcases hone.one with hnone | ⟨other, held, hdials⟩
  · rw [hnone] at hfound
    cases hfound
  · rw [hdials, Assoc.find?_cons] at hfound
    split at hfound
    · next heq =>
      cases hfound
      rw [hdials, heq]
    · cases hfound

/-- While the dial goes on there are no calls, unless the connection was closed. -/
theorem OneDial.closed_of_calls (hone : OneDial c) (hdials : c.dials ≠ []) (hcalls : c.calls ≠ []) :
    c.closed = true := by
  rcases hone.early hdials with hconnecting | hclosed
  · rcases hone.idle hcalls with hconnected | hclosed
    · rw [hconnecting] at hconnected
      cases hconnected
    · exact hclosed
  · exact hclosed

/-- A step that is no concern of the dial. -/
theorem DialStep.same {result : Connection × List Effect} (hone : OneDial c) (hdials : result.1.dials = c.dials)
    (hstate : result.1.state = c.state ∨ result.1.closed = true)
    (hclosed : c.closed = true → result.1.closed = true) (hcalls : result.1.calls ≠ [] → c.calls ≠ [])
    (hsilent : ∀ dial ending, .dialed dial ending ∉ result.2) : DialStep c result where
  after := by
    have hkept : ∀ {state : LinkState}, c.state = state ∨ c.closed = true →
        result.1.state = state ∨ result.1.closed = true := by
      rintro state (rfl | h)
      · exact hstate
      · exact .inr (hclosed h)
    refine ⟨?_, fun h => ?_, fun dial h => ?_, fun h => ?_⟩
    · rw [hdials]
      exact hone.one
    · exact hkept (hone.early (hdials ▸ h))
    · exact hclosed (hone.late dial (hdials ▸ h))
    · exact hkept (hone.idle (hcalls h))
  silent _ := hsilent
  undialed h := ⟨hdials.trans h, hstate⟩
  dialing h := .inl (hdials ▸ h)
  failed dial error h := absurd h (hsilent dial _)
  closed := hclosed

/-- The dial goes on. -/
theorem DialStep.goesOn (hone : OneDial c) {dial : Nat} {stage later : Dial}
    (hfound : Assoc.find? dial c.dials = some stage) (hlate : later = .discarding → c.closed = true)
    (writer : Option StreamId) {effects : List Effect} (hsilent : ∀ dial ending, .dialed dial ending ∉ effects) :
    DialStep c ({ c with writer }.setDial dial later, effects) := by
  have hdials := hone.eq_of_find? hfound
  have hlater : Assoc.insert dial later c.dials = [(dial, later)] := by
    simp [hdials, Assoc.insert]
  have hsome : c.dials ≠ [] := by simp [hdials]
  refine ⟨⟨.inr ⟨dial, later, hlater⟩, fun _ => hone.early hsome, fun other h => ?_, hone.idle⟩, fun _ => hsilent,
    fun h => absurd h hsome, fun _ => .inl ?_, fun other error h => absurd h (hsilent other _), id⟩
  · simp only [setDial, hlater, List.mem_singleton, Prod.mk.injEq] at h
    exact hlate h.2.symm
  · simp [setDial, hlater]

/-- The dial ends. If it has failed, the connection cannot have become connected. -/
theorem DialStep.ends (hone : OneDial c) {dial : Nat} {stage : Dial} (hfound : Assoc.find? dial c.dials = some stage)
    (c' : Connection) (hdials : c'.dials = c.dials) (hclosed : c'.closed = c.closed) (hcalls : c'.calls = c.calls)
    {result : Except CallError Unit}
    (hfailed : ∀ error, result = .error error → c'.state ≠ .connected ∨ c.closed = true)
    (before : List Effect) {effects : List Effect} (hsilent : ∀ dial ending, .dialed dial ending ∉ before)
    (heffects : effects = before ++ (c'.endDial dial result).2) : DialStep c ((c'.endDial dial result).1, effects) := by
  have hheld := hone.eq_of_find? hfound
  have hsome : c.dials ≠ [] := by simp [hheld]
  have hnone : (c'.endDial dial result).1.dials = [] := by simp [endDial, hdials, hheld, Assoc.erase]
  subst heffects
  refine ⟨⟨.inl hnone, fun h => absurd hnone h, fun other h => ?_, fun h => .inr ?_⟩, fun h => absurd h hsome,
    fun h => absurd h hsome, fun _ => .inr ⟨dial, result, by simp [endDial]⟩, fun other error h => ⟨hnone, ?_⟩,
    fun h => hclosed.trans h⟩
  · rw [hnone] at h
    cases h
  · exact hclosed.trans (hone.closed_of_calls hsome (hcalls ▸ h))
  · rcases List.mem_append.1 h with hbefore | hown
    · exact absurd hbefore (hsilent other _)
    · simp only [endDial, List.mem_singleton, Effect.dialed.injEq] at hown
      rw [show (c'.endDial dial result).1.closed = c.closed from hclosed]
      exact hfailed error hown.2.symm

/-- Of the effects it matters only what is told of the dial. -/
theorem DialStep.congr {c' : Connection} {effects later : List Effect} (hstep : DialStep c (c', effects))
    (hsame : ∀ dial ending, .dialed dial ending ∈ later ↔ .dialed dial ending ∈ effects) : DialStep c (c', later) :=
  { hstep with
    silent := fun h dial ending hmem => hstep.silent h dial ending ((hsame _ _).1 hmem)
    dialing := fun h => (hstep.dialing h).imp_right fun ⟨dial, ending, hmem⟩ => ⟨dial, ending, (hsame _ _).2 hmem⟩
    failed := fun dial error h => hstep.failed dial error ((hsame _ _).1 h) }

theorem DialStep.lost {result : Connection × List Effect} (hstep : DialStep c result) (hlost : c.Lost) :
    result.1.Lost := by
  obtain ⟨hnone, hstate⟩ := hlost
  obtain ⟨hnone', hstate'⟩ := hstep.undialed hnone
  refine ⟨hnone', ?_⟩
  rcases hstate with hstate | hclosed
  · exact hstate'.imp_left fun (heq : result.1.state = c.state) => heq ▸ hstate
  · exact .inr (hstep.closed hclosed)

theorem DialStep.trans {first second : Connection × List Effect} (hfirst : DialStep c first)
    (hsecond : DialStep first.1 second) : DialStep c (second.1, first.2 ++ second.2) where
  after := hsecond.after
  silent h dial ending hmem := by
    rcases List.mem_append.1 hmem with hmem | hmem
    · exact hfirst.silent h dial ending hmem
    · exact hsecond.silent (hfirst.undialed h).1 dial ending hmem
  undialed h := by
    obtain ⟨hnone, hstate⟩ := hfirst.undialed h
    obtain ⟨hnone', hstate'⟩ := hsecond.undialed hnone
    refine ⟨hnone', ?_⟩
    rcases hstate with hstate | hclosed
    · exact hstate'.imp_left fun heq => heq.trans hstate
    · exact .inr (hsecond.closed hclosed)
  dialing h := by
    rcases hfirst.dialing h with hstill | ⟨dial, ending, hmem⟩
    · rcases hsecond.dialing hstill with hstill' | ⟨dial, ending, hmem⟩
      · exact .inl hstill'
      · exact .inr ⟨dial, ending, List.mem_append_right _ hmem⟩
    · exact .inr ⟨dial, ending, List.mem_append_left _ hmem⟩
  failed dial error h := by
    rcases List.mem_append.1 h with hmem | hmem
    · exact hsecond.lost (hfirst.failed dial error hmem)
    · exact hsecond.failed dial error hmem
  closed h := hsecond.closed (hfirst.closed h)

/-! ## Steps -/

theorem CallStep.calls_of_calls {c' : Connection} {more : List Moment} (hstep : CallStep c c' more)
    (hnew : ∀ number payload, .issued number payload ∉ more) (hcalls : c'.calls ≠ []) : c.calls ≠ [] := by
  have herase : ∀ {number : UInt64}, Assoc.erase number c.calls ≠ [] → c.calls ≠ [] := by
    rintro number herased hnone
    exact herased (by rw [hnone]; rfl)
  have hheld : ∀ {number : UInt64} {call : Call}, Assoc.find? number c.calls = some call → c.calls ≠ [] := by
    intro number call hfound hnone
    rw [hnone] at hfound
    cases hfound
  cases hstep with
  | quiet same state silent => exact same.calls ▸ hcalls
  | issued payload connected => exact absurd (List.mem_singleton_self _) (hnew _ _)
  | sent stream found unsent framed => exact hheld found
  | failed found cause => exact herase hcalls
  | collected found => exact herase hcalls
  | dropped number => exact herase hcalls
  | ignored event same state unawaited silent => exact same.calls ▸ hcalls
  | resolved incoming nonzero awaited found => exact hheld found
  | resolvedDropped incoming nonzero awaited gone => exact hcalls
  | shut wasOpen setup closed state nextNumber pending calls silent =>
    rintro hnone
    rw [calls, failPending, hnone] at hcalls
    exact hcalls rfl

theorem attempt_dialStep (hone : OneDial c) {dial : Nat} {stage : Dial}
    (hfound : Assoc.find? dial c.dials = some stage) (number : Nat) : DialStep c (c.attempt dial number) := by
  unfold attempt
  split
  · next hclosed => exact .ends hone hfound c rfl rfl rfl (fun _ _ => .inr hclosed) [] (by simp) rfl
  · exact .goesOn hone hfound (by simp) c.writer (by simp)

theorem close_dials (c : Connection) (error : Option String) : (c.close error).1.dials = c.dials ∧
    ((c.close error).1.state = c.state ∨ (c.close error).1.closed = true) ∧
    ∀ dial ending, .dialed dial ending ∉ (c.close error).2 := by
  unfold close
  split
  · exact ⟨rfl, .inl rfl, by simp⟩
  · exact ⟨rfl, .inr rfl, by simp⟩

theorem dispatch_dials (c : Connection) (event : Wire.Event) : (c.dispatch event).1.dials = c.dials ∧
    (c.dispatch event).1.state = c.state ∧ ∀ dial ending, .dialed dial ending ∉ (c.dispatch event).2 := by
  unfold dispatch forget
  split
  · refine ⟨rfl, rfl, fun dial ending hmem => ?_⟩
    cases hpayload : event.payload <;> simp [hpayload] at hmem
  · split
    · dsimp only
      split <;> exact ⟨rfl, rfl, by simp⟩
    · exact ⟨rfl, rfl, by simp⟩

/-- Whether a step is one of a dial's. -/
def Action.ofDial : Action → Bool
  | .dial | .opened .. | .refused .. | .retry _ | .giveUp _ | .attach _ | .discard _ | .dropDial _ => true
  | _ => false

/-- The other steps leave the dial alone. -/
theorem step_aside {action : Action} (haside : action.ofDial = false) : (c.step action).1.dials = c.dials ∧
    ((c.step action).1.state = c.state ∨ (c.step action).1.closed = true) ∧
    ∀ dial ending, .dialed dial ending ∉ (c.step action).2 := by
  have hself : c.dials = c.dials ∧ (c.state = c.state ∨ c.closed = true) ∧
      ∀ dial ending, Effect.dialed dial ending ∉ [] := ⟨rfl, .inl rfl, by simp⟩
  by_cases hcall : action.ofCall = true
  · have hsame := step_ofCalls c hcall
    exact ⟨hsame.dials, .inl hsame.state, fun _ _ => hsame.not_mem trivial⟩
  cases action with
  | dial | opened _ _ | refused _ _ | retry _ | giveUp _ | attach _ | discard _ | dropDial _ => cases haside
  | arrive bytes =>
    refine ⟨?_, ?_, ?_⟩ <;> simp only [Connection.step, arrive] <;> split <;> (try split) <;> simp
  | arriveEnd =>
    refine ⟨?_, ?_, ?_⟩ <;> simp only [Connection.step, arriveEnd] <;> split <;> simp
  | read =>
    simp only [Connection.step, read]
    split
    · exact hself
    · next incoming _ =>
      split
      · next event rest _ =>
        obtain ⟨hdials, hstate, hsilent⟩ :=
          dispatch_dials { c with incoming := some { incoming with unread := rest } } event
        exact ⟨hdials, .inl hstate, hsilent⟩
      · exact close_dials { c with incoming := none } _
      · split
        · exact hself
        · exact close_dials { c with incoming := none } _
  | readFailed cause =>
    simp only [Connection.step, readFailed]
    split
    · exact close_dials { c with incoming := none } (some cause)
    · exact hself
  | stopReading =>
    refine ⟨?_, ?_, ?_⟩ <;> simp only [Connection.step, stopReading] <;> split <;> simp
  | shutdown => exact close_dials c none
  | leave =>
    simp only [Connection.step, leave]
    split
    · exact hself
    · refine ⟨rfl, .inl rfl, fun dial ending hmem => ?_⟩
      cases hwriter : c.writer <;> simp [takeWriter, hwriter] at hmem
  | _ => exact absurd rfl hcall

/-- What the steps do that no task has to do. -/
theorem OneDial.step (hone : OneDial c) {action : Action} (hother : action.byOwner = false) :
    DialStep c (c.step action) := by
  have hself : DialStep c (c, []) := .same hone rfl (.inl rfl) id id (by simp)
  by_cases haside : action.ofDial = false
  · obtain ⟨hdials, hstate, hsilent⟩ := @step_aside c action haside
    have hstep := step_callStep c action
    have hnew : ∀ payload, action ≠ .issue payload := by
      rintro payload rfl
      cases hother
    exact .same hone hdials hstate hstep.closed_of_closed (hstep.calls_of_calls (not_issued hnew)) hsilent
  cases action with
  | dial => cases hother
  | dropDial dial => cases hother
  | opened dial stream =>
    simp only [Connection.step, opened]
    split
    · next attempt hfound => exact .goesOn hone hfound (by simp) c.writer (by simp)
    · exact hself
  | refused dial cause =>
    simp only [Connection.step, refused]
    split
    · next attempt hfound =>
      split
      · exact .goesOn hone hfound (by simp) c.writer (by simp)
      · exact .ends hone hfound { c with state := .failed } rfl rfl rfl (fun _ _ => .inl (by simp)) [_] (by simp) rfl
    · exact hself
  | retry dial =>
    simp only [Connection.step, retry]
    split
    · next attempt hfound => exact attempt_dialStep hone hfound _
    · exact hself
  | giveUp dial =>
    simp only [Connection.step, giveUp]
    split
    · next attempt hfound =>
      split
      · next hclosed => exact .ends hone hfound c rfl rfl rfl (fun _ _ => .inr hclosed) [] (by simp) rfl
      · exact hself
    · exact hself
  | attach dial =>
    simp only [Connection.step, attach]
    split
    · next stream hfound =>
      split
      · next hlate =>
        -- Only a close can have come before the stream.
        have hclosed : c.closed = true := by
          rcases hone.early (by simp [hone.eq_of_find? hfound]) with hconnecting | hclosed
          · rcases hlate with hclosed | hnot
            · exact hclosed
            · exact absurd hconnecting hnot
          · exact hclosed
        exact .goesOn hone hfound (fun _ => hclosed) _ (by simp)
      · exact .ends hone hfound { c with writer := some stream, state := .connected, incoming := some { stream } }
          rfl rfl rfl (fun _ herror => by cases herror) [_] (by simp) rfl
    · exact hself
  | discard dial =>
    simp only [Connection.step, discard]
    split
    · next hfound =>
      have hclosed := hone.late dial (Assoc.mem_of_find? hfound)
      refine .ends hone hfound { c with writer := none } rfl rfl rfl (fun _ _ => .inr hclosed) c.takeWriter.2 ?_ rfl
      intro other ending hmem
      cases hwriter : c.writer <;> simp [takeWriter, hwriter] at hmem
    · exact hself
  | _ => exact absurd rfl haside

/-- The dial begins. A connection that was closed before it is left at that. -/
theorem OneDial.dial (hone : OneDial c) (hnone : c.dials = []) (hearly : c.state = .connecting ∨ c.closed = true) :
    OneDial c.dial.1 ∧ (c.dial.1.dials ≠ [] ∨ ∃ dial ending, .dialed dial ending ∈ c.dial.2) ∧
      (∀ dial error, .dialed dial (.error error) ∈ c.dial.2 → c.dial.1.Lost) ∧ c.dial.1.closed = c.closed := by
  unfold Connection.dial attempt
  dsimp only
  split
  · next hnot =>
    have hclosed := hearly.resolve_left hnot
    exact ⟨⟨.inl hnone, fun _ => .inr hclosed, fun _ _ => hclosed, fun _ => .inr hclosed⟩,
      .inr ⟨_, _, List.mem_singleton_self _⟩, fun _ _ _ => ⟨hnone, .inr hclosed⟩, rfl⟩
  · next hconnecting =>
    split
    · next hclosed =>
      have hended : Assoc.erase c.dialed c.dials = [] := by rw [hnone]; rfl
      exact ⟨⟨.inl hended, fun _ => .inr hclosed, fun _ _ => hclosed, fun _ => .inr hclosed⟩,
        .inr ⟨_, _, List.mem_singleton_self _⟩, fun _ _ _ => ⟨hended, .inr hclosed⟩, rfl⟩
    · have hbegun : Assoc.insert c.dialed (.opening 1) c.dials = [(c.dialed, .opening 1)] := by rw [hnone]; rfl
      refine ⟨⟨.inr ⟨_, _, hbegun⟩, fun _ => hearly, fun dial hmem => ?_, hone.idle⟩, .inl ?_, by simp, rfl⟩
      · simp only [setDial, hbegun] at hmem
        simp at hmem
      · simp [setDial, hbegun]

/-! ## How the dial ends -/

/-- How those dials have ended that end among some effects. -/
def outcomes (effects : List Effect) : List (Except CallError Unit) :=
  effects.filterMap fun
    | .dialed _ result => some result
    | _ => none

theorem outcomes_eq_nil {effects : List Effect} :
    outcomes effects = [] ↔ ∀ dial ending, .dialed dial ending ∉ effects := by
  rw [outcomes, List.filterMap_eq_nil_iff]
  constructor
  · intro hnone dial ending hmem
    cases hnone _ hmem
  · intro hsilent effect hmem
    cases effect with
    | dialed dial ending => exact absurd hmem (hsilent dial ending)
    | _ => rfl

theorem outcomes_append (effects later : List Effect) :
    outcomes (effects ++ later) = outcomes effects ++ outcomes later :=
  List.filterMap_append

/-- A connection that is dialled for once, and that is not there any more when it was closed. -/
structure Orderly (c : Connection) : Prop where
  oneDial : OneDial c
  parted : c.closed = true → c.state ≠ .connected

/-- A step in which the dial does not end, and which makes no connection. -/
structure Steady (c : Connection) (result : Connection × List Effect) : Prop where
  orderly : Orderly result.1
  silent : outcomes result.2 = []
  dials : result.1.dials = [] ↔ c.dials = []
  state : result.1.state = c.state ∨ result.1.closed = true
  closed : c.closed = true → result.1.closed = true

/-- A step with which the dial ends. There is a connection then if it has succeeded, and only then. -/
structure EndsDial (c : Connection) (result : Connection × List Effect) : Prop where
  orderly : Orderly result.1
  ended : result.1.dials = []
  closed : result.1.closed = c.closed
  told : ∃ before dial ending, result.2 = before ++ [.dialed dial ending] ∧ outcomes before = [] ∧
    (ending = .ok () ↔ result.1.state = .connected)

theorem Orderly.refl (horderly : Orderly c) : Steady c (c, []) :=
  ⟨horderly, rfl, Iff.rfl, .inl rfl, id⟩

theorem Orderly.fresh (setup : ConnectionSetup) : Orderly { setup } :=
  ⟨⟨.inl rfl, by simp, by simp, by simp⟩, by simp⟩

theorem Steady.trans {first second : Connection × List Effect} (hfirst : Steady c first)
    (hsecond : Steady first.1 second) : Steady c (second.1, first.2 ++ second.2) where
  orderly := hsecond.orderly
  silent := by rw [outcomes_append, hfirst.silent, hsecond.silent, List.append_nil]
  dials := hsecond.dials.trans hfirst.dials
  state := by
    rcases hsecond.state with heq | hclosed
    · exact hfirst.state.elim (fun h => .inl (heq.trans h)) fun h => .inr (hsecond.closed h)
    · exact .inr hclosed
  closed h := hsecond.closed (hfirst.closed h)

/-- What is there after such a step was there before. -/
theorem Steady.connected {result : Connection × List Effect} (hsteady : Steady c result)
    (hconnected : result.1.state = .connected) : c.state = .connected := by
  rcases hsteady.state with heq | hclosed
  · exact heq ▸ hconnected
  · exact absurd hconnected (hsteady.orderly.parted hclosed)

/-- A connection that is dialled for is not there yet. -/
theorem Orderly.not_connected (horderly : Orderly c) (hearly : c.state = .connecting ∨ c.closed = true) :
    c.state ≠ .connected := by
  rcases hearly with hconnecting | hclosed
  · simp [hconnecting]
  · exact horderly.parted hclosed

theorem over_step (hover : c.closed = true → c.state ≠ .connected) (action : Action)
    (hclosed : (c.step action).1.closed = true) : (c.step action).1.state ≠ .connected := by
  cases step_stateStep c action with
  | stays state closed =>
    rw [state]
    exact hover (closed ▸ hclosed)
  | connects waited wasOpen state closed =>
    rw [closed] at hclosed
    cases hclosed
  | closes wasOpen closed ended =>
    intro hconnected
    rw [hconnected] at ended
    cases ended
  | runsOut ran state closed =>
    rw [state]
    simp

/-- The dial stays what it is, or ends. -/
theorem Orderly.step (horderly : Orderly c) {action : Action} (hother : action.byOwner = false) :
    Steady c (c.step action) ∨ c.dials ≠ [] ∧ EndsDial c (c.step action) := by
  have hdial := horderly.oneDial.step hother
  have hafter : Orderly (c.step action).1 := ⟨hdial.after, over_step horderly.parted action⟩
  have hclosed := hdial.closed
  by_cases haside : action.ofDial = false
  · obtain ⟨hdials, hstate, hsilent⟩ := @step_aside c action haside
    exact .inl ⟨hafter, outcomes_eq_nil.2 hsilent, by rw [hdials], hstate, hclosed⟩
  -- A dial that is under way is the only one, so with its end there is none.
  have hsome : ∀ {dial : Nat} {stage : Dial}, Assoc.find? dial c.dials = some stage → c.dials ≠ [] := by
    intro dial stage hfound
    simp [horderly.oneDial.eq_of_find? hfound]
  have hnone : ∀ {dial : Nat} {stage : Dial}, Assoc.find? dial c.dials = some stage →
      Assoc.erase dial c.dials = [] := by
    intro dial stage hfound
    simp [horderly.oneDial.eq_of_find? hfound, Assoc.erase]
  have hset : ∀ {dial : Nat} {stage later : Dial}, Assoc.find? dial c.dials = some stage →
      (Assoc.insert dial later c.dials = [] ↔ c.dials = []) := by
    intro dial stage later hfound
    simp [horderly.oneDial.eq_of_find? hfound, Assoc.insert]
  have hunconnected : ∀ {dial : Nat} {stage : Dial}, Assoc.find? dial c.dials = some stage →
      c.state ≠ .connected := fun hfound =>
    horderly.not_connected (horderly.oneDial.early (hsome hfound))
  cases action with
  | dial => cases hother
  | dropDial dial => cases hother
  | opened dial stream =>
    simp only [Connection.step, opened] at hafter hclosed ⊢
    split
    · next attempt hfound =>
      simp only [hfound] at hafter hclosed
      exact .inl ⟨hafter, rfl, hset hfound, .inl rfl, hclosed⟩
    · exact .inl horderly.refl
  | refused dial cause =>
    simp only [Connection.step, refused] at hafter hclosed ⊢
    split
    · next attempt hfound =>
      simp only [hfound] at hafter hclosed
      split
      · next hmore =>
        simp only [if_pos hmore] at hafter hclosed
        exact .inl ⟨hafter, rfl, hset hfound, .inl rfl, hclosed⟩
      · next hlast =>
        simp only [if_neg hlast] at hafter hclosed
        exact .inr ⟨hsome hfound, hafter, hnone hfound, rfl, [_], dial, _, rfl, rfl, by simp [endDial]⟩
    · exact .inl horderly.refl
  | retry dial =>
    simp only [Connection.step, retry] at hafter hclosed ⊢
    split
    · next attempt hfound =>
      simp only [hfound] at hafter hclosed
      unfold Connection.attempt at hafter hclosed ⊢
      split
      · next hshut =>
        simp only [if_pos hshut] at hafter hclosed
        exact .inr ⟨hsome hfound, hafter, hnone hfound, rfl, [], dial, _, rfl, rfl, by
          simpa [endDial] using hunconnected hfound⟩
      · next hopen =>
        simp only [if_neg hopen] at hafter hclosed
        exact .inl ⟨hafter, rfl, hset hfound, .inl rfl, hclosed⟩
    · exact .inl horderly.refl
  | giveUp dial =>
    simp only [Connection.step, giveUp] at hafter hclosed ⊢
    split
    · next attempt hfound =>
      simp only [hfound] at hafter hclosed
      split
      · next hshut =>
        simp only [if_pos hshut] at hafter hclosed
        exact .inr ⟨hsome hfound, hafter, hnone hfound, rfl, [], dial, _, rfl, rfl, by
          simpa [endDial] using hunconnected hfound⟩
      · exact .inl horderly.refl
    · exact .inl horderly.refl
  | attach dial =>
    simp only [Connection.step, attach] at hafter hclosed ⊢
    split
    · next stream hfound =>
      simp only [hfound] at hafter hclosed
      split
      · next hlate =>
        simp only [if_pos hlate] at hafter hclosed
        exact .inl ⟨hafter, rfl, hset hfound, .inl rfl, hclosed⟩
      · next hwaits =>
        simp only [if_neg hwaits] at hafter hclosed
        exact .inr ⟨hsome hfound, hafter, hnone hfound, rfl, [_], dial, _, rfl, rfl, by simp [endDial]⟩
    · exact .inl horderly.refl
  | discard dial =>
    simp only [Connection.step, discard] at hafter hclosed ⊢
    split
    · next hfound =>
      simp only [hfound] at hafter hclosed
      refine .inr ⟨hsome hfound, hafter, hnone hfound, rfl, c.takeWriter.2, dial, _, rfl, ?_, by
        simpa [endDial, takeWriter] using hunconnected hfound⟩
      cases hwriter : c.writer <;> simp [takeWriter, hwriter, outcomes]
    · exact .inl horderly.refl
  | _ => exact absurd rfl haside

/-- The dial begins, or has failed at once. -/
theorem Orderly.dial (horderly : Orderly c) (hnone : c.dials = []) (hearly : c.state = .connecting ∨ c.closed = true) :
    Orderly c.dial.1 ∧ c.dial.1.dials ≠ [] ∧ c.dial.1.closed = c.closed ∧ c.dial.2 = [] ∨ EndsDial c c.dial := by
  obtain ⟨hone, -, -, hclosed⟩ := horderly.oneDial.dial hnone hearly
  have hunconnected := horderly.not_connected hearly
  have hafter : Orderly c.dial.1 := ⟨hone, over_step horderly.parted .dial⟩
  unfold Connection.dial attempt at hafter hclosed ⊢
  dsimp only at hafter hclosed ⊢
  split
  · next hnot =>
    simp only [if_pos hnot] at hafter
    exact .inr ⟨hafter, hnone, rfl, [], c.dialed, _, rfl, rfl, by simpa using hunconnected⟩
  · next hconnecting =>
    simp only [if_neg hconnecting] at hafter
    split
    · next hshut =>
      simp only [if_pos hshut] at hafter
      refine .inr ⟨hafter, ?_, rfl, [], c.dialed, _, rfl, rfl, by simpa [endDial] using hunconnected⟩
      simp [endDial, hnone, Assoc.erase]
    · next hopen =>
      simp only [if_neg hopen] at hafter
      exact .inl ⟨hafter, by simp [setDial, hnone, Assoc.insert], rfl, rfl⟩

end

end DebugBridge.Connection
