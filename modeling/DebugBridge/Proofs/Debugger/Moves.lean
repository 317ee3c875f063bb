import DebugBridge.Debugger.Move
import DebugBridge.Proofs.Connection.Steps

/-!
# What a session does with its connection

A step of the connection ends at most one operation, and an operation begins at most one call, with one request to the
server. Everything else that the connection does passes through the session.
-/

namespace DebugBridge.Debugger

/-- What is told of the connection. -/
def linked (effects : List SessionEffect) : List Effect :=
  effects.filterMap fun
    | .link effect => some effect
    | _ => none

theorem mem_linked {effects : List SessionEffect} {effect : Effect} :
    effect ∈ linked effects ↔ .link effect ∈ effects := by
  rw [linked, List.mem_filterMap]
  constructor
  · rintro ⟨found, hmem, heq⟩
    cases found <;> cases heq
    exact hmem
  · exact fun hmem => ⟨_, hmem, rfl⟩

/-- A connection on which a call has begun. -/
def calling (c : Connection) (payload : Wire.Request.Payload) : Connection :=
  { c with
    nextNumber := c.nextNumber + 1
    pending := c.pending ++ [c.nextNumber]
    calls := Assoc.insert c.nextNumber { payload } c.calls }

theorem step_issue {c : Connection} (hconnected : c.state = .connected) (payload : Wire.Request.Payload) :
    c.step (.issue payload) = (calling c payload, []) := by
  simp [Connection.step, Connection.issue, hconnected, calling]

namespace Session

theorem mem_of_owner? {s : Session} {number : UInt64} {operation : Nat} {running : Running}
    (howner : s.owner? number = some (operation, running)) : (operation, running) ∈ s.running :=
  List.mem_of_find?_eq_some howner

theorem absorb_of_not_answered {s : Session} {effects : List Effect} (hnone : ∀ number reply, .answered number reply ∉ effects) :
    s.absorb effects = (s, effects.map .link) := by
  induction effects with
  | nil => rfl
  | cons effect effects ih =>
    have hrest := ih fun number reply hmem => hnone number reply (List.mem_cons_of_mem _ hmem)
    cases effect with
    | answered number reply => exact absurd List.mem_cons_self (hnone number reply)
    | _ =>
      simp only [Session.absorb, hrest]
      rfl

/-- A step of the connection answers an operation, which ends with that, or is passed on as it is. -/
theorem link_cases (s : Session) (action : Connection.Action) :
    (∃ answer operation running, (s.connection.step action).2 = [.answered running.number answer] ∧
      (operation, running) ∈ s.running ∧
      s.link (·.step action)
        = { s with connection := (s.connection.step action).1 }.finish operation running.waiting answer) ∨
    (∀ operation running, (operation, running) ∈ s.running →
      ∀ answer, .answered running.number answer ∉ (s.connection.step action).2) ∧
    s.link (·.step action)
      = ({ s with connection := (s.connection.step action).1 }, (s.connection.step action).2.map .link) := by
  unfold link
  by_cases hanswered : ∃ number answer, .answered number answer ∈ (s.connection.step action).2
  · obtain ⟨number, answer, hmem⟩ := hanswered
    obtain ⟨-, hmoments, -⟩ :=
      (Connection.step_callStep s.connection action).answered (Connection.did_mem_moments.2 hmem)
    have heffects := Connection.effects_eq_of_moments hmoments hmem
    cases howner : owner? { s with connection := (s.connection.step action).1 } number with
    | none =>
      refine .inr ⟨fun operation running hrunning other hother => ?_, ?_⟩
      · simp only [heffects, List.mem_singleton, Effect.answered.injEq] at hother
        exact absurd (decide_eq_true hother.1) (List.find?_eq_none.1 howner _ hrunning)
      · simp only [heffects, absorb, howner]
        rfl
    | some owner =>
      obtain ⟨operation, running⟩ := owner
      have hnumber : running.number = number := by simpa using List.find?_some howner
      refine .inl ⟨answer, operation, running, by rw [heffects, hnumber], mem_of_owner? howner, ?_⟩
      simp only [heffects, absorb, howner, List.append_nil]
  · simp only [not_exists] at hanswered
    exact .inr ⟨fun _ _ _ => hanswered _, absorb_of_not_answered hanswered⟩

/-- When an operation gets its reply, the step has no other effect than to end it. -/
theorem link_of_replied {s : Session} {action : Connection.Action} {operation : Nat}
    {reply : Except CallError Wire.Event.Payload} (hreplied : .replied operation reply ∈ (s.link (·.step action)).2) :
    ∃ running, (operation, running) ∈ s.running ∧ s.link (·.step action)
      = { s with connection := (s.connection.step action).1 }.finish operation running.waiting reply := by
  rcases s.link_cases action with ⟨answer, owner, running, -, hmem, hlink⟩ | ⟨-, hlink⟩
  · rw [hlink, finish] at hreplied
    simp only [List.mem_cons, SessionEffect.replied.injEq, List.not_mem_nil, or_false, reduceCtorEq] at hreplied
    obtain ⟨rfl, rfl⟩ := hreplied
    exact ⟨running, hmem, hlink⟩
  · simp [hlink] at hreplied

theorem link_connection (s : Session) (action : Connection.Action) :
    (s.link (·.step action)).1.connection = (s.connection.step action).1 := by
  rcases s.link_cases action with ⟨answer, operation, running, -, -, hlink⟩ | ⟨-, hlink⟩
  · rw [hlink]
    rfl
  · rw [hlink]

/-- Whatever a step tells of a dial passes through the session. -/
theorem dialed_link (s : Session) (action : Connection.Action) (dial : Nat) (ending : Except CallError Unit) :
    .dialed dial ending ∈ linked (s.link (·.step action)).2 ↔ .dialed dial ending ∈ (s.connection.step action).2 := by
  rcases s.link_cases action with ⟨answer, owner, running, heffects, -, hlink⟩ | ⟨-, hlink⟩
  · -- Who is answered is told of no dial.
    rw [hlink, heffects]
    simp [linked, finish]
  · rw [hlink, mem_linked, List.mem_map]
    constructor
    · rintro ⟨effect, hmem, heq⟩
      cases heq
      exact hmem
    · exact fun hmem => ⟨_, hmem, rfl⟩

/-- A shutdown with both its halves ends no operation. -/
theorem link_shutdown (s : Session) : s.link (fun c =>
      let (c, first) := c.shutdown
      let (c, later) := c.leave
      (c, first ++ later))
    = (((s.link (·.step .shutdown)).1.link (·.step .leave)).1,
        (s.link (·.step .shutdown)).2 ++ ((s.link (·.step .shutdown)).1.link (·.step .leave)).2) := by
  have hshutdown : ∀ c : Connection, ∀ number reply, .answered number reply ∉ c.shutdown.2 := by
    intro c number reply
    simp only [Connection.shutdown, Connection.close]
    split <;> simp
  have hleave : ∀ c : Connection, ∀ number reply, .answered number reply ∉ c.leave.2 := by
    intro c number reply
    simp only [Connection.leave, Connection.takeWriter]
    split
    · simp
    · cases c.writer <;> simp
  have hfirst : s.link (·.step .shutdown)
      = ({ s with connection := s.connection.shutdown.1 }, s.connection.shutdown.2.map .link) :=
    absorb_of_not_answered (hshutdown s.connection)
  have hsecond : ({ s with connection := s.connection.shutdown.1 } : Session).link (·.step .leave)
      = ({ s with connection := s.connection.shutdown.1.leave.1 }, s.connection.shutdown.1.leave.2.map .link) :=
    absorb_of_not_answered (hleave s.connection.shutdown.1)
  rw [hfirst, hsecond, ← List.map_append]
  refine absorb_of_not_answered fun number reply hmem => ?_
  rcases List.mem_append.1 hmem with hmem | hmem
  · exact hshutdown s.connection number reply hmem
  · exact hleave s.connection.shutdown.1 number reply hmem

/-- An operation that begins ends at once, or waits with a call of its own. -/
theorem prepare_cases (s : Session) (operation : Nat) (what : Operation) :
    (∃ state result, .ended operation result ∈ (s.prepare operation what).2 ∧
      (s.prepare operation what).1 = { s with state }.release operation) ∨
    ∃ request waiting, (s.state.start what).1 = .asks request waiting ∧ s.connection.state = .connected ∧
      (s.prepare operation what).1 = { s with
        state := (s.state.start what).2
        connection := calling s.connection request
        running := Assoc.insert operation { number := s.connection.nextNumber, waiting } s.running } := by
  unfold prepare
  rcases s.state.start what with ⟨result | ⟨request, waiting⟩, state⟩
  · exact .inl ⟨state, result, List.mem_singleton_self _, rfl⟩
  · by_cases hconnected : s.connection.state = .connected
    · refine .inr ⟨request, waiting, rfl, hconnected, ?_⟩
      simp [Connection.issue, hconnected, calling]
    · refine .inl ?_
      simp only [Connection.issue, ne_eq, hconnected, not_false_eq_true, if_true]
      exact ⟨_, _, List.mem_cons_of_mem _ (List.mem_cons_of_mem _ (List.mem_singleton_self _)), rfl⟩

theorem linked_prepare (s : Session) (operation : Nat) (what : Operation) :
    linked (s.prepare operation what).2 = [] := by
  unfold prepare
  split
  · rfl
  · split <;> rfl

/-! ## Beginnings that do not stop -/

/-- What has moved, with or without a request going to the writer at once. -/
def Submits (moved result : Session × List SessionEffect) : Prop :=
  result = moved ∨ ∃ operation, result = ((moved.1.submit operation).1, moved.2 ++ (moved.1.submit operation).2)

theorem start_submits (s : Session) (operation : Nat) (what : Operation) :
    Submits (s.move (.prepare operation what)) (s.start operation what) := by
  cases what with
  | setBreakpoints path breakpoints =>
    simp only [start, move]
    split
    · exact .inr ⟨operation, enter_eq _ operation _⟩
    · exact .inl rfl
  | _ =>
    refine .inr ⟨operation, ?_⟩
    simp only [start, move]
    exact enter_eq s operation _

theorem takeTurn_submits (s : Session) : Submits (s.move .prepareTurn) s.takeTurn := by
  by_cases hturn : ∃ first queue, s.syncing = none ∧ s.queue = first :: queue
  · obtain ⟨first, queue, hsyncing, hqueue⟩ := hturn
    simp only [takeTurn, move, hsyncing, hqueue]
    exact .inr ⟨first.operation, enter_eq _ first.operation _⟩
  · have hnone : s.takeTurn = (s, []) := by
      unfold takeTurn
      split
      · next first queue hsyncing hqueue => exact absurd ⟨first, queue, hsyncing, hqueue⟩ hturn
      · rfl
    have hmove : s.move .prepareTurn = (s, []) := by
      simp only [move]
      split
      · next first queue hsyncing hqueue => exact absurd ⟨first, queue, hsyncing, hqueue⟩ hturn
      · rfl
    exact .inl (hnone.trans hmove.symm)

/-! ## What becomes of the state -/

/-- The first half of an operation is all that changes the state as it begins: without a connection, the second half
changes nothing any more. -/
theorem prepare_state (s : Session) (operation : Nat) (what : Operation) :
    (s.prepare operation what).1.state = (s.state.start what).2 := by
  have hfailed : ∀ (state : State) (waiting : Waiting),
      (state.finish s.files s.root waiting (.error .notConnected)).2 = state := by
    intro state waiting
    cases waiting <;> rfl
  unfold prepare
  rcases s.state.start what with ⟨result | ⟨request, waiting⟩, state⟩
  · rfl
  · by_cases hconnected : s.connection.state = .connected
    · simp [Connection.issue, hconnected]
    · simp only [Connection.issue, ne_eq, hconnected, not_false_eq_true, if_true]
      exact hfailed state waiting

/-- A step of the connection leaves the state as it is, or ends an operation. -/
theorem link_state (s : Session) (action : Connection.Action) :
    (s.link (·.step action)).1.state = s.state ∨
      ∃ waiting reply, (s.link (·.step action)).1.state = (s.state.finish s.files s.root waiting reply).2 := by
  rcases s.link_cases action with ⟨answer, operation, running, -, -, hlink⟩ | ⟨-, hlink⟩
  · rw [hlink]
    exact .inr ⟨running.waiting, answer, rfl⟩
  · rw [hlink]
    exact .inl rfl

end Session

/-! ## What is asked of the server -/

/-- The requests among some effects, with the operations that make them. -/
def asksOf (effects : List SessionEffect) : List (Nat × Wire.Request.Payload) :=
  effects.filterMap fun
    | .asked operation request => some (operation, request)
    | _ => none

/-- The request that an operation begins with. -/
def Started.request? : Started → Option Wire.Request.Payload
  | .asks request _ => some request
  | .answered _ => none

/-- The operation that a move begins. -/
def Session.Move.begins? : Session.Move → Option (Nat × Operation)
  | .step (.start operation what) | .prepare operation what => some (operation, what)
  | _ => none

section

variable {s : Session} {m : Session.Move} {operation : Nat} {what : Operation}

/-- The connection asks for nothing by itself. -/
theorem asksOf_link (s : Session) (action : Connection.Action) : asksOf (s.link (·.step action)).2 = [] := by
  rcases s.link_cases action with ⟨answer, owner, running, -, -, hlink⟩ | ⟨-, hlink⟩
  · rw [hlink]
    rfl
  · rw [hlink, asksOf, List.filterMap_map]
    exact List.filterMap_eq_nil_iff.2 fun _ _ => rfl

theorem asksOf_submit (s : Session) (operation : Nat) : asksOf (s.submit operation).2 = [] := by
  unfold Session.submit
  split
  · exact asksOf_link s (.transmit _)
  · rfl

theorem asksOf_collect (s : Session) (operation : Nat) : asksOf (s.collect operation).2 = [] := by
  unfold Session.collect
  split
  · exact asksOf_link s (.collect _)
  · rfl

theorem asksOf_expire (s : Session) (operation : Nat) : asksOf (s.expire operation).2 = [] := by
  unfold Session.expire
  split
  · exact asksOf_link s (.expire _)
  · rfl

theorem asksOf_append (first second : List SessionEffect) : asksOf (first ++ second) = asksOf first ++ asksOf second :=
  List.filterMap_append

/-- An operation asks for what its first half gives, and for nothing else. -/
theorem asksOf_prepare (s : Session) (operation : Nat) (what : Operation) :
    asksOf (s.prepare operation what).2
      = ((s.state.start what).1.request?.map fun request => (operation, request)).toList := by
  unfold Session.prepare
  rcases s.state.start what with ⟨result | ⟨request, waiting⟩, state⟩
  · rfl
  · by_cases hconnected : s.connection.state = .connected
    · simp [Connection.issue, hconnected, asksOf, Started.request?]
    · simp [Connection.issue, hconnected, asksOf, Started.request?, Session.finish]

/-- A beginning stops before the writer or goes on. -/
theorem move_of_begins (s : Session) (hbegins : m.begins? = some (operation, what))
    (hfree : ∀ path breakpoints, what ≠ .setBreakpoints path breakpoints) :
    s.move m = s.prepare operation what ∨ s.move m = s.enter operation what := by
  cases m with
  | prepare other what' =>
    cases hbegins
    cases what with
    | setBreakpoints path breakpoints => exact absurd rfl (hfree path breakpoints)
    | _ => exact .inl rfl
  | step action =>
    cases action with
    | start other what' =>
      cases hbegins
      cases what with
      | setBreakpoints path breakpoints => exact absurd rfl (hfree path breakpoints)
      | _ => exact .inr rfl
    | _ => cases hbegins
  | prepareTurn => cases hbegins

theorem asksOf_begins (s : Session) (hbegins : m.begins? = some (operation, what))
    (hfree : ∀ path breakpoints, what ≠ .setBreakpoints path breakpoints) :
    asksOf (s.move m).2 = ((s.state.start what).1.request?.map fun request => (operation, request)).toList := by
  rw [← asksOf_prepare]
  rcases move_of_begins s hbegins hfree with hmove | hmove
  · rw [hmove]
  · rw [hmove, Session.enter_eq, asksOf_append, asksOf_submit, List.append_nil]

/-- Besides beginnings, only the turns of those who set breakpoints ask for something. -/
theorem asksOf_others (hbegins : m.begins? = none) {asked : Nat × Wire.Request.Payload}
    (hasked : asked ∈ asksOf (s.move m).2) : ∃ breakpoints, asked.2 = .setBreakpoints breakpoints := by
  have hturn : ∀ asked ∈ asksOf (s.move .prepareTurn).2, ∃ breakpoints, asked.2 = .setBreakpoints breakpoints := by
    intro asked hasked
    simp only [Session.move] at hasked
    split at hasked
    · rw [asksOf_prepare] at hasked
      cases List.mem_singleton.1 hasked
      exact ⟨_, rfl⟩
    · cases hasked
  cases m with
  | prepare other what => cases hbegins
  | prepareTurn => exact hturn asked hasked
  | step action =>
    cases action with
    | start other what => cases hbegins
    | takeTurn =>
      refine hturn asked ?_
      rcases s.takeTurn_submits with hmoved | ⟨operation, hmoved⟩
      · rwa [← hmoved]
      · rw [show (s.move (.step .takeTurn)) = _ from hmoved, asksOf_append, asksOf_submit, List.append_nil] at hasked
        exact hasked
    | collect operation =>
      exact absurd hasked (List.eq_nil_iff_forall_not_mem.1 (asksOf_collect s operation) asked)
    | expire operation =>
      exact absurd hasked (List.eq_nil_iff_forall_not_mem.1 (asksOf_expire s operation) asked)
    | drop operation => cases hasked
    | handleEvent payload => cases hasked
    | link action => exact absurd hasked (List.eq_nil_iff_forall_not_mem.1 (asksOf_link s action) asked)

end

end DebugBridge.Debugger
