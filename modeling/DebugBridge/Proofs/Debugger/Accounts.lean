import Mathlib.Data.List.Basic
import DebugBridge.Proofs.Debugger.Moves

/-!
# Accounts of a session

An account is kept beside a session: it takes notice of the operations that begin, of the server's news, and of all
that the session tells. A property of a session and its account holds throughout if every kind of step keeps it; which
kinds there are is said once, in `Account.Invariant`. Whether a beginning stops before the writer or goes on, whether a
reply is looked for or a call expires, and who has the turn to set breakpoints, makes no further difference.
-/

namespace DebugBridge.Debugger

/-- What is written down as a session moves. -/
structure Account (γ : Type) where
  /-- An operation begins. -/
  begins : γ → Nat → Operation → γ
  /-- The server tells something of its own accord. -/
  hears : γ → Wire.Event.Payload → γ
  /-- The session has an effect. -/
  note : γ → SessionEffect → γ

/-- The account in which nothing is written down. -/
def Account.blank : Account Unit where
  begins _ _ _ := ()
  hears _ _ := ()
  note _ _ := ()

/-- A move that reads on from the server's stream. -/
def Session.Move.reads : Session.Move → Bool
  | .step (.link .read) => true
  | _ => false

namespace Account

variable {γ : Type}

/-- The account as a move begins. -/
def takes (account : Account γ) (g : γ) : Session.Move → γ
  | .step (.start operation what) | .prepare operation what => account.begins g operation what
  | .step (.handleEvent payload) => account.hears g payload
  | _ => g

theorem takes_of_begins (account : Account γ) (g : γ) {m : Session.Move} {operation : Nat} {what : Operation}
    (hbegins : m.begins? = some (operation, what)) : account.takes g m = account.begins g operation what := by
  cases m with
  | prepare other what' =>
    cases hbegins
    rfl
  | step action =>
    cases action with
    | start other what' =>
      cases hbegins
      rfl
    | _ => cases hbegins
  | prepareTurn => cases hbegins

/-- The account after a move. -/
def next (account : Account γ) (g : γ) (s : Session) (m : Session.Move) : γ :=
  (s.move m).2.foldl account.note (account.takes g m)

/-- The account after some moves. -/
def after (account : Account γ) (g : γ) (s : Session) : List Session.Move → γ
  | [] => g
  | m :: rest => account.after (account.next g s m) (s.move m).1 rest

/-- What a session has told is all that matters where beginnings and news are not written down. -/
theorem after_eq_foldl (account : Account γ) (hbegins : ∀ g operation what, account.begins g operation what = g)
    (hhears : ∀ g payload, account.hears g payload = g) (g : γ) (s : Session) (moves : List Session.Move) :
    account.after g s moves = (s.moves moves).2.foldl account.note g := by
  induction moves generalizing s g with
  | nil => rfl
  | cons m rest ih =>
    have htakes : account.takes g m = g := by
      unfold takes
      split
      · exact hbegins g _ _
      · exact hbegins g _ _
      · exact hhears g _
      · rfl
    simp only [after, ih, next, htakes, Session.moves, List.foldl_append]

/-- Something is so whenever some moves read on. -/
def WhenReading (account : Account γ) (Reads : Session → γ → Prop) (g : γ) (s : Session) : List Session.Move → Prop
  | [] => True
  | m :: rest =>
    (m.reads = true → Reads s g) ∧ account.WhenReading Reads (account.next g s m) (s.move m).1 rest

instance (account : Account γ) (Reads : Session → γ → Prop) [∀ s g, Decidable (Reads s g)] :
    ∀ g s moves, Decidable (account.WhenReading Reads g s moves)
  | _, _, [] => inferInstanceAs (Decidable True)
  | g, s, m :: rest =>
    have : Decidable (account.WhenReading Reads (account.next g s m) (s.move m).1 rest) :=
      instDecidableWhenReading account Reads _ _ rest
    inferInstanceAs (Decidable ((m.reads = true → Reads s g) ∧ _))

/-- A property of a session and its account that every kind of step keeps, if something is so whenever the session
reads on. -/
structure Invariant (account : Account γ) (Reads : Session → γ → Prop) (I : Session → γ → Prop) : Prop where
  /-- A `setBreakpoints` may have to wait for its turn, so that it begins is not written down. -/
  unnoticed : ∀ g operation path list, account.begins g operation (.setBreakpoints path list) = g
  /-- Who has the turn, and who waits for it, does not matter. -/
  line : ∀ s g syncing queue, I s g → I { s with syncing, queue } g
  prepare : ∀ s g operation what, I s g →
    I (s.prepare operation what).1 ((s.prepare operation what).2.foldl account.note (account.begins g operation what))
  link : ∀ s g action, I s g → (action = .read → Reads s g) →
    I (s.link (·.step action)).1 ((s.link (·.step action)).2.foldl account.note g)
  hear : ∀ s g payload, I s g →
    I (s.handleEvent payload).1 ((s.handleEvent payload).2.foldl account.note (account.hears g payload))
  drop : ∀ s g operation, I s g → I (s.drop operation) g

namespace Invariant

variable {account : Account γ} {Reads I : Session → γ → Prop} {s : Session} {g : γ}

/-- Beginnings that stop before the writer keep it. -/
theorem prepareMove (hinv : account.Invariant Reads I) (h : I s g) (operation : Nat) (what : Operation) :
    I (s.move (.prepare operation what)).1 (account.next g s (.prepare operation what)) := by
  cases what with
  | setBreakpoints path breakpoints =>
    have htaken : account.takes g (.prepare operation (.setBreakpoints path breakpoints)) = g :=
      hinv.unnoticed g operation path breakpoints
    simp only [next, htaken, Session.move]
    -- It has the turn and goes on, or it stands in line and nothing happens.
    split
    · have hturn := hinv.prepare _ g operation (.setBreakpoints path breakpoints)
        (hinv.line s g (some operation) s.queue h)
      rw [hinv.unnoticed] at hturn
      exact hturn
    · exact hinv.line s g s.syncing _ h
  | _ => exact hinv.prepare s g operation _ h

theorem prepareTurn (hinv : account.Invariant Reads I) (h : I s g) :
    I (s.move .prepareTurn).1 (account.next g s .prepareTurn) := by
  simp only [next, takes, Session.move]
  split
  · next first queue _ _ =>
    have hturn := hinv.prepare _ g first.operation (.setBreakpoints first.path first.breakpoints)
      (hinv.line s g (some first.operation) queue h)
    rw [hinv.unnoticed] at hturn
    exact hturn
  · exact h

/-- A step of the connection for some operation under way keeps it. -/
theorem linkFor (hinv : account.Invariant Reads I) (h : I s g) (running : Option Running)
    (action : UInt64 → Connection.Action) (hwrites : ∀ number, action number ≠ .read) :
    let result := match running with
      | some running => s.link (·.step (action running.number))
      | none => (s, [])
    I result.1 (result.2.foldl account.note g) := by
  cases running with
  | some running => exact hinv.link s g _ h fun heq => absurd heq (hwrites running.number)
  | none => exact h

/-- So does a request that goes to the writer. -/
theorem submits (hinv : account.Invariant Reads I) {moved result : Session × List SessionEffect}
    (hsubmits : Session.Submits moved result) (h : I moved.1 (moved.2.foldl account.note g)) :
    I result.1 (result.2.foldl account.note g) := by
  rcases hsubmits with rfl | ⟨operation, rfl⟩
  · exact h
  · rw [List.foldl_append]
    exact hinv.linkFor h (Assoc.find? operation moved.1.running) .transmit (by simp)

/-- Every move keeps it. -/
theorem move (hinv : account.Invariant Reads I) (h : I s g) (m : Session.Move)
    (hreads : m.reads = true → Reads s g) : I (s.move m).1 (account.next g s m) := by
  cases m with
  | prepare operation what => exact hinv.prepareMove h operation what
  | prepareTurn => exact hinv.prepareTurn h
  | step action =>
    -- Whoever goes on to the writer has stopped before it first, and what follows is a step of the connection.
    cases action with
    | start operation what => exact hinv.submits (s.start_submits operation what) (hinv.prepareMove h operation what)
    | takeTurn => exact hinv.submits s.takeTurn_submits (hinv.prepareTurn h)
    | collect operation => exact hinv.linkFor h (Assoc.find? operation s.running) .collect (by simp)
    | expire operation => exact hinv.linkFor h (Assoc.find? operation s.running) .expire (by simp)
    | drop operation => exact hinv.drop s g operation h
    | handleEvent payload => exact hinv.hear s g payload h
    | link action =>
      -- The only move that may read.
      refine hinv.link s g action h fun heq => hreads ?_
      rw [heq]
      rfl

/-- So does every run. -/
theorem moves (hinv : account.Invariant Reads I) (h : I s g) {moves : List Session.Move}
    (hreads : account.WhenReading Reads g s moves) : I (s.moves moves).1 (account.after g s moves) := by
  -- On the moves, for every session and account that the property holds of.
  induction moves generalizing s g with
  | nil => exact h
  | cons m rest ih => exact ih (hinv.move h m hreads.1) hreads.2

end Invariant

end Account

/-- A property of the state and of an account of what begins and what is heard holds throughout if both halves of every
operation keep it, and all that is heard. -/
theorem Account.Invariant.of_state {γ : Type} {account : Account γ} {J : State → γ → Prop}
    (unnoticed : ∀ g operation path list, account.begins g operation (.setBreakpoints path list) = g)
    (deaf : ∀ g effect, account.note g effect = g)
    (start : ∀ s g operation what, J s g → J (s.start what).2 (account.begins g operation what))
    (finish : ∀ s g files root waiting reply, J s g → J (s.finish files root waiting reply).2 g)
    (hear : ∀ s g payload, J s g → J (s.handleEvent payload).2 (account.hears g payload)) :
    account.Invariant (fun _ _ => True) fun s g => J s.state g := by
  have hdeaf : ∀ (effects : List SessionEffect) (g : γ), effects.foldl account.note g = g := by
    intro effects g
    exact List.foldl_fixed' (deaf g) effects
  constructor
  · exact unnoticed
  · intro s g syncing queue h
    exact h
  · intro s g operation what h
    rw [hdeaf, Session.prepare_state]
    exact start s.state g operation what h
  · intro s g action h _
    rw [hdeaf]
    rcases s.link_state action with hsame | ⟨waiting, reply, hended⟩
    · rw [hsame]
      exact h
    · rw [hended]
      exact finish s.state g s.files s.root waiting reply h
  · intro s g payload h
    rw [hdeaf]
    exact hear s.state g payload h
  · intro s g operation h
    exact h

/-- Where nothing is asked of what is read, there is nothing to show. -/
theorem Account.whenReading_trivial {γ : Type} (account : Account γ) (g : γ) (s : Session)
    (moves : List Session.Move) : account.WhenReading (fun _ _ => True) g s moves := by
  induction moves generalizing s g with
  | nil => exact trivial
  | cons m rest ih => exact ⟨fun _ => trivial, ih _ _⟩

end DebugBridge.Debugger
