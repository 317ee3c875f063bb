import DebugBridge.Proofs.Debugger.Threads

/-!
# What an operation waits for

While an operation is under way, the session remembers what it waits for, under the operation's name. That does not
change until something is asked under that name again, whatever else happens. An evaluation also remembers its epoch,
which is over with the next resume and not before: the epochs count the resumes.
-/

namespace DebugBridge.Debugger

/-! ## All that a session tells -/

/-- The account of all effects. -/
def Account.journal : Account (List SessionEffect) where
  begins told _ _ := told
  hears told _ := told
  note told effect := told ++ [effect]

theorem Account.journal_notes (told effects : List SessionEffect) : effects.foldl journal.note told = told ++ effects := by
  induction effects generalizing told with
  | nil => exact (List.append_nil told).symm
  | cons effect effects ih => rw [List.foldl_cons, ih, journal, List.append_assoc, List.singleton_append]

theorem Account.journal_after (told : List SessionEffect) (s : Session) (moves : List Session.Move) :
    journal.after told s moves = told ++ (s.moves moves).2 := by
  rw [journal.after_eq_foldl (fun _ _ _ => rfl) (fun _ _ => rfl), journal_notes]

section

variable {effects : List SessionEffect} {operation : Nat}

theorem mem_asksOf {request : Wire.Request.Payload} :
    (operation, request) ∈ asksOf effects ↔ .asked operation request ∈ effects := by
  rw [asksOf, List.mem_filterMap]
  constructor
  · rintro ⟨found, hmem, heq⟩
    cases found <;> cases heq
    exact hmem
  · exact fun hmem => ⟨_, hmem, rfl⟩

/-- The replies that operations get. -/
def repliesOf (effects : List SessionEffect) : List (Nat × Except CallError Wire.Event.Payload) :=
  effects.filterMap fun
    | .replied operation reply => some (operation, reply)
    | _ => none

theorem mem_repliesOf {reply : Except CallError Wire.Event.Payload} :
    (operation, reply) ∈ repliesOf effects ↔ .replied operation reply ∈ effects := by
  rw [repliesOf, List.mem_filterMap]
  constructor
  · rintro ⟨found, hmem, heq⟩
    cases found <;> cases heq
    exact hmem
  · exact fun hmem => ⟨_, hmem, rfl⟩

/-- What operations end with. -/
def endingsOf (effects : List SessionEffect) : List (Nat × Except Error Answer) :=
  effects.filterMap fun
    | .ended operation result => some (operation, result)
    | _ => none

theorem mem_endingsOf {result : Except Error Answer} :
    (operation, result) ∈ endingsOf effects ↔ .ended operation result ∈ effects := by
  rw [endingsOf, List.mem_filterMap]
  constructor
  · rintro ⟨found, hmem, heq⟩
    cases found <;> cases heq
    exact hmem
  · exact fun hmem => ⟨_, hmem, rfl⟩

end

namespace Session

/-! ## Operations under way -/

/-- Whatever waits under this name waits for this. -/
def Awaits (s : Session) (operation : Nat) (waiting : Waiting) : Prop :=
  ∀ running, (operation, running) ∈ s.running → running.waiting = waiting

section

variable {s s' : Session} {operation : Nat} {waiting : Waiting}

theorem Awaits.of_subset (hawaits : Awaits s operation waiting) (hsub : s'.running ⊆ s.running) :
    Awaits s' operation waiting :=
  fun running hmem => hawaits running (hsub hmem)

theorem release_subset (s : Session) (operation : Nat) : (s.release operation).running ⊆ s.running :=
  fun _ hmem => (Assoc.mem_erase.1 hmem).1

/-- A step of the connection begins no operation. -/
theorem link_subset (s : Session) (action : Connection.Action) : (s.link (·.step action)).1.running ⊆ s.running := by
  rcases s.link_cases action with ⟨answer, ended, running, -, -, hlink⟩ | ⟨-, hlink⟩
  · rw [hlink]
    exact release_subset _ ended
  · rw [hlink]
    exact List.Subset.refl _

theorem submit_subset (s : Session) (operation : Nat) : (s.submit operation).1.running ⊆ s.running := by
  unfold submit
  split
  · exact s.link_subset (.transmit _)
  · exact List.Subset.refl _

/-- An operation that begins is under way only if it asks for something, and waits for that. -/
theorem prepare_entries (hsorted : Assoc.Sorted s.running) (operation : Nat) (what : Operation) {other : Nat}
    {running : Running} (hmem : (other, running) ∈ (s.prepare operation what).1.running) :
    (other, running) ∈ s.running ∧ other ≠ operation ∨
      other = operation ∧ ∃ request, .asked operation request ∈ (s.prepare operation what).2 ∧
        (s.state.start what).1 = .asks request running.waiting := by
  rcases s.prepare_cases operation what with ⟨state, result, -, hended⟩ | ⟨request, waiting, hasks, -, hwaits⟩
  · rw [hended] at hmem
    exact .inl (Assoc.mem_erase.1 hmem)
  · rw [hwaits] at hmem
    rcases hsorted.mem_insert_of_ne hmem with heq | hold
    · cases heq
      refine .inr ⟨rfl, request, mem_asksOf.1 ?_, hasks⟩
      rw [asksOf_prepare, hasks]
      exact List.mem_singleton_self _
    · exact .inl hold

theorem prepare_sorted (hsorted : Assoc.Sorted s.running) (operation : Nat) (what : Operation) :
    Assoc.Sorted (s.prepare operation what).1.running := by
  rcases s.prepare_cases operation what with ⟨state, result, -, hended⟩ | ⟨request, waiting, -, -, hwaits⟩
  · rw [hended]
    exact hsorted.erase operation
  · rw [hwaits]
    exact hsorted.insert operation _

theorem link_sorted (hsorted : Assoc.Sorted s.running) (action : Connection.Action) :
    Assoc.Sorted (s.link (·.step action)).1.running := by
  rcases s.link_cases action with ⟨answer, ended, running, -, -, hlink⟩ | ⟨-, hlink⟩
  · rw [hlink]
    exact hsorted.erase ended
  · rw [hlink]
    exact hsorted

/-- What waits under a name stays until something is asked under it. -/
structure Untouched (operation : Nat) (waiting : Waiting) (s : Session) (told : List SessionEffect) : Prop where
  sorted : Assoc.Sorted s.running
  awaits : (∀ request, .asked operation request ∉ told) → Awaits s operation waiting

theorem untouched_invariant (operation : Nat) (waiting : Waiting) :
    Account.journal.Invariant (fun _ _ => True) (Untouched operation waiting) where
  unnoticed _ _ _ _ := rfl
  line _ _ _ _ h := ⟨h.sorted, h.awaits⟩
  prepare s told other what h := by
    rw [Account.journal_notes]
    refine ⟨prepare_sorted h.sorted other what, fun hunasked running hmem => ?_⟩
    rcases prepare_entries h.sorted other what hmem with ⟨hold, -⟩ | ⟨rfl, request, hasked, -⟩
    · exact h.awaits (fun request hmem => hunasked request (List.mem_append_left _ hmem)) running hold
    · exact absurd (List.mem_append_right _ hasked) (hunasked request)
  link s told action h _ := by
    rw [Account.journal_notes]
    refine ⟨link_sorted h.sorted action, fun hunasked => ?_⟩
    exact (h.awaits fun request hmem => hunasked request (List.mem_append_left _ hmem)).of_subset (link_subset s action)
  hear s told payload h := by
    rw [Account.journal_notes]
    exact ⟨h.sorted, fun hunasked => h.awaits fun request hmem => hunasked request (List.mem_append_left _ hmem)⟩
  drop s told other h := ⟨h.sorted.erase other, fun hunasked => (h.awaits hunasked).of_subset fun _ hmem =>
    (Assoc.mem_erase.1 hmem).1⟩

/-- An operation waits for the same thing until something is asked under its name. -/
theorem Awaits.moves (hawaits : Awaits s operation waiting) (hsorted : Assoc.Sorted s.running) {moves : List Move}
    (hunasked : ∀ request, .asked operation request ∉ (s.moves moves).2) :
    Awaits (s.moves moves).1 operation waiting := by
  have hbefore : Untouched operation waiting s [] := ⟨hsorted, fun _ => hawaits⟩
  have hafter := (untouched_invariant operation waiting).moves hbefore (Account.journal.whenReading_trivial _ _ moves)
  rw [Account.journal_after, List.nil_append] at hafter
  exact hafter.awaits hunasked

end

end Session

/-! ## Epochs -/

namespace Sign

def isResume : Sign → Bool
  | resumed _ => true
  | _ => false

theorem isResume_of_ofMove? {m : Session.Move} {sign : Sign} (hsign : ofMove? m = some sign)
    (hresume : sign.isResume = true) : m.Resumes := by
  have hoperation : ∀ what, ofOperation? what = some sign → ∃ thread stepping, what = .resume thread stepping := by
    intro what heq
    cases what with
    | resume thread stepping => exact ⟨thread, stepping, rfl⟩
    | _ => cases heq
  unfold ofMove? at hsign
  split at hsign
  · obtain ⟨thread, stepping, rfl⟩ := hoperation _ hsign
    exact trivial
  · obtain ⟨thread, stepping, rfl⟩ := hoperation _ hsign
    exact trivial
  · next payload =>
    -- What the server tells is no resume.
    unfold ofEvent? at hsign
    split at hsign <;> cases hsign <;> cases hresume
  · cases hsign

end Sign

/-- Each resume begins an epoch, and nothing else does. -/
theorem State.epoch_invariant (first : Nat) : Sign.account.Invariant (fun _ _ => True) fun s history =>
    s.state.epoch = first + history.countP Sign.isResume := by
  refine .of_state (J := fun s (history : List Sign) => s.epoch = first + history.countP Sign.isResume) ?_ ?_ ?_ ?_ ?_
  · exact fun history _ _ _ => List.append_nil history
  · exact fun _ _ => rfl
  · intro s history _ what hepoch
    rw [(start_adds s what).epoch]
    cases what with
    | resume thread stepping =>
      have hcount : (history ++ [Sign.resumed thread]).countP Sign.isResume = history.countP Sign.isResume + 1 :=
        List.countP_append
      exact (congrArg (· + 1) hepoch).trans (by rw [Nat.add_assoc, ← hcount]; rfl)
    | _ => exact hepoch.trans (congrArg (first + List.countP Sign.isResume ·) (List.append_nil history).symm)
  · intro s history files root waiting reply hepoch
    exact (finish_adds s files root waiting reply).epoch.trans hepoch
  · intro s history payload hepoch
    have hnone : ((Sign.ofEvent? payload).toList).countP Sign.isResume = 0 := by
      unfold Sign.ofEvent?
      split <;> rfl
    have hcount : (history ++ (Sign.ofEvent? payload).toList).countP Sign.isResume = history.countP Sign.isResume := by
      rw [List.countP_append, hnone, Nat.add_zero]
    rw [handleEvent_eq]
    exact hepoch.trans (congrArg (first + ·) hcount.symm)

/-- Without a resume the epoch goes on. -/
theorem Session.epoch_moves (s : Session) (moves : List Move) (hpause : ∀ m ∈ moves, ¬ m.Resumes) :
    (s.moves moves).1.state.epoch = s.state.epoch := by
  have hbefore : s.state.epoch = s.state.epoch + ([] : List Sign).countP Sign.isResume := rfl
  have hafter := (State.epoch_invariant s.state.epoch).moves hbefore (Sign.account.whenReading_trivial _ _ moves)
  have hnone : (moves.filterMap Sign.ofMove?).countP Sign.isResume = 0 := by
    rw [List.countP_eq_zero]
    intro sign hmem hresume
    obtain ⟨m, hm, hsign⟩ := List.mem_filterMap.1 hmem
    exact hpause m hm (Sign.isResume_of_ofMove? hsign hresume)
  rwa [Sign.account_after, List.nil_append, hnone, Nat.add_zero] at hafter

/-- Without a sign, which threads stand still stays as it is. -/
theorem State.paused_invariant (paused : List (Int64 × Wire.PausedThread)) :
    Sign.account.Invariant (fun _ _ => True) fun s history => history = [] → s.state.pausedThreads = paused := by
  refine .of_state (J := fun s (history : List Sign) => history = [] → s.pausedThreads = paused) ?_ ?_ ?_ ?_ ?_
  · exact fun history _ _ _ => List.append_nil history
  · exact fun _ _ => rfl
  · intro s history _ what hpaused hnone
    rw [(start_adds s what).pausedThreads]
    cases what with
    | resume thread stepping => cases (List.append_eq_nil_iff.1 hnone).2
    | _ => exact hpaused (List.append_eq_nil_iff.1 hnone).1
  · intro s history files root waiting reply hpaused hnone
    exact (finish_adds s files root waiting reply).pausedThreads.trans (hpaused hnone)
  · intro s history payload hpaused hnone
    obtain ⟨hbefore, hsilent⟩ := List.append_eq_nil_iff.1 hnone
    unfold handleEvent
    split
    · cases hsilent
    · cases hsilent
    · exact hpaused hbefore

theorem Session.paused_moves (s : Session) {moves : List Move} (hnone : ∀ m ∈ moves, Sign.ofMove? m = none) :
    (s.moves moves).1.state.pausedThreads = s.state.pausedThreads := by
  have hafter := (State.paused_invariant s.state.pausedThreads).moves (s := s) (g := []) (fun _ => rfl)
    (Sign.account.whenReading_trivial _ _ moves)
  rw [Sign.account_after, List.nil_append] at hafter
  exact hafter (List.filterMap_eq_nil_iff.2 hnone)

end DebugBridge.Debugger
