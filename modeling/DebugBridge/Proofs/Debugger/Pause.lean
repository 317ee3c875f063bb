import DebugBridge.Proofs.Debugger.Accounts
import DebugBridge.Proofs.Debugger.Entries
import DebugBridge.Proofs.Debugger.Registering

/-!
# Sessions and pauses

A session's run is cut into pauses by its resumes. `Pause` keeps, of all that was told of a run, what has been asked and
answered since the last resume. The invariant `Holds` ties it to the session: what is registered is known from these
answers, and an operation under way that is not among those asked is late.
-/

namespace DebugBridge.Debugger

/-- What has happened since the last resume: the operations that asked for something, and what was answered. -/
structure Pause where
  asked : List (Nat × Wire.Request.Payload) := []
  answers : Answers := []

namespace Pause

/-- Takes notice of an effect. A resume is a request to continue, and with it all that came before is forgotten. -/
def note (p : Pause) : SessionEffect → Pause
  | .asked _ (.continueExecution ..) => {}
  | .asked operation request => { p with asked := Assoc.insert operation request p.asked }
  | .replied operation reply =>
    match Assoc.find? operation p.asked with
    | some request => { p with answers := p.answers ++ answerOf request reply }
    | none => p
  | _ => p

/-- The pause as an account: only what the session tells matters. -/
def account : Account Pause where
  begins p _ _ := p
  hears p _ := p
  note := note

/-- The pause that the last of these effects fall in. -/
def of (effects : List SessionEffect) : Pause :=
  effects.foldl note {}

/-- An operation under way fits its pause, or is late. -/
def Fits (p : Pause) (now : Nat) (operation : Nat) (waiting : Waiting) : Prop :=
  match Assoc.find? operation p.asked with
  | some request => waiting.Current p.answers now request
  | none => waiting.Late now

theorem Fits.answered {p : Pause} {now operation : Nat} {waiting : Waiting} (hfits : p.Fits now operation waiting)
    (more : Answers) : Fits { p with answers := p.answers ++ more } now operation waiting := by
  unfold Fits at hfits ⊢
  cases hasked : Assoc.find? operation p.asked with
  | none =>
    simp only [hasked] at hfits ⊢
    exact hfits
  | some request =>
    simp only [hasked] at hfits ⊢
    exact hfits.mono (List.subset_append_left _ _)

/-- When a new pause begins, every operation under way is late. -/
theorem Fits.late {p : Pause} {now later operation : Nat} {waiting : Waiting} (hfits : p.Fits now operation waiting)
    (hlater : now < later) : waiting.Late later := by
  unfold Fits at hfits
  cases hasked : Assoc.find? operation p.asked with
  | none =>
    simp only [hasked] at hfits
    exact hfits.trans hlater
  | some request =>
    simp only [hasked] at hfits
    exact hfits.late hlater

theorem note_asked (p : Pause) (operation : Nat) {request : Wire.Request.Payload}
    (halts : ∀ thread stepping, request ≠ .continueExecution thread stepping) :
    p.note (.asked operation request) = { p with asked := Assoc.insert operation request p.asked } := by
  cases request with
  | continueExecution thread stepping => exact absurd rfl (halts thread stepping)
  | _ => rfl

end Pause

namespace Session

/-- The session fits its pause: what is registered is known, and so is what is asked about. -/
structure Holds (s : Session) (p : Pause) : Prop where
  sorted : Assoc.Sorted s.running
  grounded : s.state.Grounded p.answers
  fits : ∀ operation running, (operation, running) ∈ s.running → p.Fits s.state.epoch operation running.waiting

/-- The session fits its pause, whatever is remembered under one operation. -/
structure HoldsBut (s : Session) (p : Pause) (operation : Nat) : Prop where
  sorted : Assoc.Sorted s.running
  grounded : s.state.Grounded p.answers
  others : ∀ other running, (other, running) ∈ s.running → other ≠ operation →
    p.Fits s.state.epoch other running.waiting

section

variable {s : Session} {p : Pause}

theorem Holds.but (hholds : Holds s p) (operation : Nat) : HoldsBut s p operation :=
  ⟨hholds.sorted, hholds.grounded, fun other running hmem _ => hholds.fits other running hmem⟩

/-- Only the state and the operations under way matter. -/
theorem Holds.congr {s' : Session} (hholds : Holds s p) (hstate : s'.state = s.state)
    (hrunning : s'.running = s.running) : Holds s' p :=
  ⟨by rw [hrunning]; exact hholds.sorted, by rw [hstate]; exact hholds.grounded,
    by rw [hstate, hrunning]; exact hholds.fits⟩

/-- An operation that leaves takes its own entry away. -/
theorem HoldsBut.release {operation : Nat} (hbut : HoldsBut s p operation) : Holds (s.release operation) p := by
  refine ⟨hbut.sorted.erase operation, hbut.grounded, fun other running hmem => ?_⟩
  obtain ⟨hold, hne⟩ := Assoc.mem_erase.1 hmem
  exact hbut.others other running hold hne

/-- The state may go on within the pause. -/
theorem HoldsBut.of_stays {operation : Nat} {state : State} (hbut : HoldsBut s p operation)
    (hstays : s.state.Stays p.answers state) : HoldsBut { s with state } p operation := by
  refine ⟨hbut.sorted, hstays.grounded, fun other running hmem hne => ?_⟩
  rw [show ({ s with state } : Session).state.epoch = s.state.epoch from hstays.epoch]
  exact hbut.others other running hmem hne

/-! ## Replies -/

/-- A reply that fits its pause, or is late, ends its operation and keeps the invariant. -/
theorem HoldsBut.finish {operation : Nat} (hbut : HoldsBut s p operation) {waiting : Waiting}
    (hfits : p.Fits s.state.epoch operation waiting) (reply : Except CallError Wire.Event.Payload) :
    Holds (s.finish operation waiting reply).1 ((s.finish operation waiting reply).2.foldl Pause.note p) := by
  show Holds (s.finish operation waiting reply).1 (p.note (.replied operation reply))
  unfold Pause.Fits at hfits
  unfold Pause.note
  -- An operation that is not among those asked began before the last resume.
  cases hasked : Assoc.find? operation p.asked with
  | none =>
    simp only [hasked] at hfits ⊢
    have hstate := (State.finish_of_late s.files s.root hfits reply).1
    have hstays : s.state.Stays p.answers (s.state.finish s.files s.root waiting reply).2 := by
      rw [hstate]
      exact .refl hbut.grounded
    exact (hbut.of_stays hstays).release
  | some request =>
    simp only [hasked] at hfits ⊢
    have hstays := State.finish_stays hbut.grounded s.files s.root hfits reply
    have hanswered : HoldsBut s { p with answers := p.answers ++ answerOf request reply } operation :=
      ⟨hbut.sorted, hbut.grounded.mono (List.subset_append_left _ _), fun other running hmem hne =>
        (hbut.others other running hmem hne).answered _⟩
    exact (hanswered.of_stays hstays).release

theorem Holds.absorb (hholds : Holds s p) (effects : List Effect) :
    Holds (s.absorb effects).1 ((s.absorb effects).2.foldl Pause.note p) := by
  induction effects generalizing s p with
  | nil => exact hholds
  | cons effect effects ih =>
    cases effect with
    | answered number reply =>
      cases howner : s.owner? number with
      | none =>
        simp only [Session.absorb, howner, List.foldl_append]
        exact ih hholds
      | some owner =>
        obtain ⟨operation, running⟩ := owner
        simp only [Session.absorb, howner, List.foldl_append]
        have hfits := hholds.fits operation running (mem_of_owner? howner)
        exact ih ((hholds.but operation).finish hfits reply)
    | _ =>
      simp only [Session.absorb, List.foldl_append]
      exact ih hholds

theorem Holds.link (hholds : Holds s p) (step : Connection → Connection × List Effect) :
    Holds (s.link step).1 ((s.link step).2.foldl Pause.note p) :=
  (hholds.congr rfl rfl : Holds { s with connection := (step s.connection).1 } p).absorb _

/-! ## Beginnings -/

/-- An operation that asks for something fits the pause that has heard of this. A resume fits the pause it begins. -/
theorem Holds.asks (hholds : Holds s p) (operation : Nat) {what : Operation} {request : Wire.Request.Payload}
    {waiting : Waiting} {state : State} (hstart : s.state.start what = (.asks request waiting, state)) :
    HoldsBut { s with state } (p.note (.asked operation request)) operation ∧
      (p.note (.asked operation request)).Fits state.epoch operation waiting := by
  have hbegins := State.start_begins hholds.grounded what
  rw [hstart] at hbegins
  cases hbegins with
  | asks stays halts current =>
    rw [p.note_asked operation halts]
    -- An earlier operation of this name is forgotten: what waits under it is about to be replaced.
    have hasked : HoldsBut s { p with asked := Assoc.insert operation request p.asked } operation := by
      refine ⟨hholds.sorted, hholds.grounded, fun other running hmem hne => ?_⟩
      have hfits := hholds.fits other running hmem
      simp only [Pause.Fits, Assoc.find?_insert_of_ne hne]
      exact hfits
    refine ⟨hasked.of_stays stays, ?_⟩
    simp only [Pause.Fits, Assoc.find?_insert_self, stays.epoch]
    exact current
  | resumes thread stepping cleared epoch =>
    -- The new epoch makes all that waits late, and the new pause knows of nothing.
    have hcleared : HoldsBut { s with state } {} operation :=
      ⟨hholds.sorted, .of_unregistered cleared, fun other running hmem _ => (hholds.fits other running hmem).late epoch⟩
    exact ⟨hcleared, trivial⟩

/-- An operation that waits with a call of its own keeps the invariant. -/
theorem HoldsBut.wait {operation : Nat} (hbut : HoldsBut s p operation) {waiting : Waiting}
    (hfits : p.Fits s.state.epoch operation waiting) (number : UInt64) (connection : Connection) :
    Holds { s with connection, running := Assoc.insert operation { number, waiting } s.running } p := by
  refine ⟨hbut.sorted.insert _ _, hbut.grounded, fun other running hmem => ?_⟩
  rcases hbut.sorted.mem_insert_of_ne hmem with heq | ⟨hold, hne⟩
  · cases heq
    exact hfits
  · exact hbut.others other running hold hne

theorem Holds.prepare (hholds : Holds s p) (operation : Nat) (what : Operation) :
    Holds (s.prepare operation what).1 ((s.prepare operation what).2.foldl Pause.note p) := by
  unfold Session.prepare
  rcases hstart : s.state.start what with ⟨result | ⟨request, waiting⟩, state⟩
  · have hbegins := State.start_begins hholds.grounded what
    rw [hstart] at hbegins
    cases hbegins with
    | answered result stays => exact ((hholds.but operation).of_stays stays).release
  · obtain ⟨hbut, hfits⟩ := hholds.asks operation hstart
    dsimp only
    cases s.connection.issue request with
    | error error => exact hbut.finish hfits (.error error)
    | ok issued => exact hbut.wait hfits issued.1 issued.2

/-! ## Runs -/

/-- The server's events change nothing that is registered. -/
theorem Holds.handleEvent (hholds : Holds s p) (payload : Wire.Event.Payload) : Holds (s.handleEvent payload).1 p := by
  show Holds { s with state := (s.state.handleEvent payload).2 } p
  rw [State.handleEvent_eq]
  exact ⟨hholds.sorted, hholds.grounded.congr rfl fun kind => by cases kind <;> rfl, hholds.fits⟩

/-- A pause is an account of what a session tells, and the session fits it throughout. -/
theorem holds_invariant : Pause.account.Invariant (fun _ _ => True) Holds where
  unnoticed _ _ _ _ := rfl
  line _ _ _ _ h := h.congr rfl rfl
  prepare _ _ operation what h := h.prepare operation what
  link _ _ action h _ := h.link (·.step action)
  hear _ _ payload h := h.handleEvent payload
  drop _ _ operation h := (h.but operation).release.congr rfl rfl

theorem Holds.moves (hholds : Holds s p) (moves : List Move) :
    Holds (s.moves moves).1 ((s.moves moves).2.foldl Pause.note p) := by
  have hafter := holds_invariant.moves hholds (Pause.account.whenReading_trivial p s moves)
  rwa [Pause.account.after_eq_foldl (fun _ _ _ => rfl) (fun _ _ => rfl)] at hafter

theorem Holds.start (connection : Connection) (files : FileTree) (root : Option String) :
    Holds { connection, files, root } {} :=
  ⟨List.Pairwise.nil, .of_unregistered ⟨rfl, rfl, rfl, rfl⟩, fun _ _ hmem => by cases hmem⟩

end

/-- References live for one pause. At every moment of a run, in which operations may also wait for the writer, all that
is registered is known from the answers to requests made since the last resume, so that nothing is registered before
there is one. And the reply to an operation that began before the last resume changes nothing: the operation ends with
nothing listed, or nothing to ask for. -/
theorem references_live_for_one_pause (connection : Connection) (files : FileTree) (root : Option String)
    (moves : List Move) :
    let start : Session := { connection, files, root }
    let s := (start.moves moves).1
    let p := Pause.of (start.moves moves).2
    (∀ reference object, (reference, object) ∈ s.state.handles.entries →
      ∃ thread, (reference, thread) ∈ s.state.threadsOf object.kind ∧ Known p.answers thread object) ∧
    (∀ kind reference thread, (reference, thread) ∈ s.state.threadsOf kind →
      ∃ object, object.kind = kind ∧ (reference, object) ∈ s.state.handles.entries ∧ Known p.answers thread object) ∧
    (p.answers = [] → s.state.Unregistered) ∧
    (∀ operation running, (operation, running) ∈ s.running → Assoc.find? operation p.asked = none →
      ∀ action reply, .replied operation reply ∈ (s.link (·.step action)).2 →
        (s.link (·.step action)).1.state = s.state ∧
          ∀ answer, running.waiting.lateAnswer reply = some answer →
            (s.link (·.step action)).2 = [.replied operation reply, .ended operation answer]) := by
  intro start s p
  have hholds : Holds s p := (Holds.start connection files root).moves moves
  refine ⟨fun reference object hmem => ?_, hholds.grounded.objects, fun hnone => ?_,
    fun operation running hmem hbefore action reply hreplied => ?_⟩
  · obtain ⟨thread, hfound, hknown⟩ := hholds.grounded.owned reference object hmem
    exact ⟨thread, Assoc.mem_of_find? hfound, hknown⟩
  · have hgrounded := hholds.grounded
    rw [hnone] at hgrounded
    exact hgrounded.unregistered
  · obtain ⟨running', hmem', hlink⟩ := link_of_replied hreplied
    obtain rfl := hholds.sorted.unique hmem hmem'
    have hlate : running.waiting.Late s.state.epoch := by
      have hfits := hholds.fits operation running hmem
      simpa only [Pause.Fits, hbefore] using hfits
    obtain ⟨hstate, hanswer⟩ := State.finish_of_late s.files s.root hlate reply
    rw [hlink]
    refine ⟨hstate, fun answer hlateAnswer => ?_⟩
    rw [← hanswer answer hlateAnswer]
    rfl

/-- A frame that is listed in its pause is registered. One whose listing comes after a resume is not, also when its
request had to wait for the writer until then. -/
example :
    let listed : Wire.Event := { number := 1, payload := some (.listFrames [{ functionName := "f" }]) }
    let opens : List Move := [.step (.link .dial), .step (.link (.opened 0 0)), .step (.link (.attach 0))]
    let replies : List Move := [.step (.link (.arrive (Wire.putAll 100 [] [listed.encode]).1)), .step (.link .read),
      .step (.collect 1)]
    let resumes : Move := .step (.start 2 (.resume 7 .none))
    let registered (between : List Move) :=
      ((({ connection := {} } : Session).moves (opens ++ between ++ replies)).1).state.handles.entries.length
    registered [.step (.start 1 (.stackTrace 7))] = 1 ∧
      registered [.step (.start 1 (.stackTrace 7)), resumes] = 0 ∧
      registered [.prepare 1 (.stackTrace 7), resumes, .step (.link (.transmit 1))] = 0 := by
  decide +kernel

end Session

end DebugBridge.Debugger
