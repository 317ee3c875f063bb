import DebugBridge.Proofs.Connection.Dials

/-!
# What a connection tells

A connection tells of attempts that failed, that it is there, what the server says of its own accord, and that it is
gone. Each step tells one of these at most, and `step_tells` says when. That the connection is gone is told by the step
that closes it, so it is told just once: `farewells_run`.
-/

namespace DebugBridge

/-- Whether a notification tells that the connection is gone. -/
def Notification.isFarewell : Notification → Bool
  | .disconnected _ => true
  | _ => false

namespace Connection

/-- The notifications that are told, in order. -/
def notices (effects : List Effect) : List Notification :=
  effects.filterMap fun
    | .told notification => some notification
    | _ => none

@[simp] theorem notices_nil : notices [] = [] := rfl

@[simp] theorem notices_append (effects more : List Effect) :
    notices (effects ++ more) = notices effects ++ notices more :=
  List.filterMap_append

theorem mem_notices {effects : List Effect} {notification : Notification} :
    notification ∈ notices effects ↔ .told notification ∈ effects := by
  unfold notices
  rw [List.mem_filterMap]
  constructor
  · rintro ⟨effect, hmem, heq⟩
    cases effect with
    | told other =>
      cases heq
      exact hmem
    | _ => cases heq
  · exact fun hmem => ⟨_, hmem, rfl⟩

/-- What calls do to others is no notice. -/
theorem OfCalls.notices_eq_nil {c : Connection} {result : Connection × List Effect} (hcalls : OfCalls c result) :
    notices result.2 = [] := by
  rw [List.eq_nil_iff_forall_not_mem]
  intro notification hmem
  have hsilent : Silent (.told notification) := trivial
  exact hcalls.not_mem hsilent (mem_notices.1 hmem)

/-- How often it is told that the connection is gone. -/
def farewells (effects : List Effect) : Nat :=
  (notices effects).countP (·.isFarewell)

@[simp] theorem farewells_append (effects more : List Effect) :
    farewells (effects ++ more) = farewells effects + farewells more := by
  simp [farewells]

/-! ## What a step tells -/

/-- Whether the reader does a step, on the stream it reads from. -/
def Action.isReading : Action → Bool
  | .read | .readFailed _ => true
  | _ => false

/-- What a step tells, and when. -/
inductive Tells (c : Connection) : Action → Connection → List Notification → Prop
  | nothing {action : Action} {c' : Connection} (closed : c'.closed = c.closed) : Tells c action c' []
  /-- An attempt of a dial has failed. -/
  | attemptFailed {dial : Nat} {c' : Connection} (attempt : Nat) (cause : String) (dialing : c.dials ≠ [])
      (closed : c'.closed = c.closed) : Tells c (.refused dial cause) c' [.connectFailed attempt cause]
  /-- A stream was installed in time. -/
  | connected {dial : Nat} {c' : Connection} (dialing : c.dials ≠ []) (wasOpen : c.closed = false)
      (waited : c.state = .connecting) (closed : c'.closed = false) (state : c'.state = .connected) :
      Tells c (.attach dial) c' [.connected]
  /-- The server's news was read. -/
  | news {c' : Connection} (payload : Wire.Event.Payload) (reading : c.incoming ≠ none)
      (closed : c'.closed = c.closed) : Tells c .read c' [.debug payload]
  /-- The connection is closed, by a shutdown or by the stream it reads from. -/
  | gone {action : Action} {c' : Connection} (error : Option String) (wasOpen : c.closed = false)
      (closed : c'.closed = true)
      (cause : action = .shutdown ∨ action.isReading = true ∧ c.incoming ≠ none ∧ c'.incoming = none) :
      Tells c action c' [.disconnected error]

section

variable {c : Connection}

theorem dials_ne_nil {dial : Nat} {stage : Dial} (hfound : Assoc.find? dial c.dials = some stage) : c.dials ≠ [] := by
  intro hnone
  rw [hnone] at hfound
  cases hfound

/-- The reader closes the connection as it stops. -/
theorem close_tells {action : Action} (hreads : action.isReading = true) (hreading : c.incoming ≠ none)
    (error : Option String) :
    Tells c action ({ c with incoming := none }.close error).1
      (notices ({ c with incoming := none }.close error).2) := by
  unfold close
  split
  · exact .nothing rfl
  · next hopen => exact .gone error (by simpa using hopen) rfl (.inr ⟨hreads, hreading, rfl⟩)

/-- What tells nothing and closes nothing. -/
theorem Tells.of_quiet {action : Action} {result : Connection × List Effect} (hclosed : result.1.closed = c.closed)
    (hnothing : notices result.2 = []) : Tells c action result.1 (notices result.2) := by
  rw [hnothing]
  exact .nothing hclosed

@[simp] theorem notices_attempt (c : Connection) (dial number : Nat) : notices (c.attempt dial number).2 = [] := by
  unfold attempt
  split <;> rfl

@[simp] theorem notices_takeWriter (c : Connection) : notices c.takeWriter.2 = [] := by
  unfold takeWriter
  cases c.writer <;> rfl

theorem dispatch_tells (incoming : Incoming) (hreading : c.incoming ≠ none) (event : Wire.Event) :
    Tells c .read ({ c with incoming := some incoming }.dispatch event).1
      (notices ({ c with incoming := some incoming }.dispatch event).2) := by
  unfold dispatch
  split
  · cases event.payload with
    | none => exact .nothing rfl
    | some payload => exact .news payload hreading rfl
  · split
    · dsimp only
      split <;> exact .nothing rfl
    · exact .nothing rfl

/-- Every step tells one of these. -/
theorem step_tells (c : Connection) (action : Action) :
    Tells c action (c.step action).1 (notices (c.step action).2) := by
  have hself : ∀ {action : Action}, Tells c action c (notices []) := .nothing rfl
  by_cases hcall : action.ofCall = true
  · have hsame := step_ofCalls c hcall
    exact .of_quiet hsame.closed hsame.notices_eq_nil
  cases action with
  | dial =>
    simp only [step, dial]
    split
    · exact .nothing rfl
    · exact .of_quiet (attempt_quiet { c with dialed := c.dialed + 1 } c.dialed 1).same.closed (notices_attempt _ _ _)
  | opened dial stream =>
    simp only [step, opened]
    split
    · exact .nothing rfl
    · exact hself
  | refused dial cause =>
    simp only [step, refused]
    split
    · next attempt hfound =>
      split
      · exact .attemptFailed attempt cause (dials_ne_nil hfound) rfl
      · exact .attemptFailed attempt cause (dials_ne_nil hfound) rfl
    · exact hself
  | retry dial =>
    simp only [step, retry]
    split
    · exact .of_quiet (attempt_quiet c dial _).same.closed (notices_attempt _ _ _)
    · exact hself
  | giveUp dial =>
    simp only [step, giveUp]
    split
    · split
      · exact .nothing rfl
      · exact hself
    · exact hself
  | attach dial =>
    simp only [step, attach]
    split
    · next hfound =>
      split
      · exact .nothing rfl
      · next hnew =>
        simp only [ne_eq, not_or, Bool.not_eq_true, Decidable.not_not] at hnew
        exact .connected (dials_ne_nil hfound) hnew.1 hnew.2 hnew.1 rfl
    · exact hself
  | discard dial =>
    simp only [step, discard]
    split
    · refine .of_quiet rfl ?_
      rw [notices_append, notices_takeWriter]
      rfl
    · exact hself
  | dropDial dial => exact .nothing rfl
  | arrive bytes =>
    simp only [step, arrive]
    split
    · split
      · exact hself
      · exact .nothing rfl
    · exact hself
  | arriveEnd =>
    simp only [step, arriveEnd]
    split
    · exact .nothing rfl
    · exact hself
  | read =>
    simp only [step, read]
    split
    · exact hself
    · next incoming hincoming =>
      have hreading : c.incoming ≠ none := by simp [hincoming]
      split
      · exact dispatch_tells _ hreading _
      · exact close_tells rfl hreading _
      · split
        · exact hself
        · exact close_tells rfl hreading _
  | readFailed cause =>
    simp only [step, readFailed]
    split
    · next hincoming => exact close_tells rfl (by simp [hincoming]) _
    · exact hself
  | stopReading =>
    simp only [step, stopReading]
    split
    · exact .nothing rfl
    · exact hself
  | shutdown =>
    simp only [step, shutdown, close]
    split
    · exact .nothing rfl
    · next hopen => exact .gone none (by simpa using hopen) rfl (.inl rfl)
  | leave =>
    simp only [step, leave]
    split
    · exact hself
    · exact .of_quiet rfl (notices_takeWriter c)
  | _ => exact absurd rfl hcall

/-- A step tells that the connection is gone if it closes it. -/
theorem farewells_step (c : Connection) (action : Action) :
    farewells (c.step action).2 + c.closed.toNat = (c.step action).1.closed.toNat := by
  have htells := step_tells c action
  unfold farewells
  generalize (c.step action).1 = c', notices (c.step action).2 = told at htells
  cases htells with
  | nothing closed => rw [closed, List.countP_nil, Nat.zero_add]
  | attemptFailed attempt cause dialing closed => simp [Notification.isFarewell, closed]
  | connected dialing wasOpen waited closed state => simp [Notification.isFarewell, wasOpen, closed]
  | news payload reading closed => simp [Notification.isFarewell, closed]
  | gone error wasOpen closed cause => simp [Notification.isFarewell, wasOpen, closed]

end

/-- A run tells that the connection is gone once if it closes it, and else not at all. -/
theorem farewells_run (c : Connection) (actions : List Action) :
    farewells (c.run actions).2 + c.closed.toNat = (c.run actions).1.closed.toNat := by
  induction actions generalizing c with
  | nil => exact Nat.zero_add _
  | cons action actions ih =>
    have hfirst := farewells_step c action
    have hlater := ih (c.step action).1
    rw [run_cons, farewells_append]
    dsimp only
    omega

end Connection

end DebugBridge
