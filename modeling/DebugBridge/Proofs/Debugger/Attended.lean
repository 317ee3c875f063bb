import DebugBridge.Proofs.Connection.Dials
import DebugBridge.Proofs.Connection.Ledger
import DebugBridge.Proofs.Debugger.Moves

/-!
# No operation is forgotten

An operation that is under way waits for a call of its own, or for its turn while another operation has that. It leaves
only as it ends. So when nothing can happen to the calls and to the turn any more, none is under way.
-/

namespace DebugBridge.Debugger

namespace Session

/-- Whether an operation waits for the server or for its turn. -/
def UnderWay (s : Session) (operation : Nat) : Prop :=
  (∃ running, (operation, running) ∈ s.running) ∨ ∃ queued ∈ s.queue, queued.operation = operation

/-- Every operation that waits has something to wait for. There is room for so many operations, those in line
included. -/
structure Attended (s : Session) (room : Nat) : Prop where
  sound : s.connection.Sound
  sorted : Assoc.Sorted s.running
  holder : ∀ operation, s.syncing = some operation → ∃ running, (operation, running) ∈ s.running
  counted : ∃ count, s.connection.nextNumber = Connection.nth count ∧ count + s.queue.length ≤ room ∧
    ∀ operation running, (operation, running) ∈ s.running → ∃ earlier < count, running.number = Connection.nth earlier
  distinct : ∀ operation running, (operation, running) ∈ s.running →
    ∀ other later, (other, later) ∈ s.running → running.number = later.number → operation = other
  called : ∀ operation running, (operation, running) ∈ s.running →
    ∃ call, Assoc.find? running.number s.connection.calls = some call

/-- Some operations are under way after a step, or have ended in it. -/
def Settles (operations : Nat → Prop) (result : Session × List SessionEffect) : Prop :=
  ∀ operation, operations operation → result.1.UnderWay operation ∨ ∃ answer, .ended operation answer ∈ result.2

section

variable {s : Session} {room : Nat}

theorem Settles.refl (s : Session) : Settles s.UnderWay (s, []) :=
  fun _ hunderWay => .inl hunderWay

theorem Settles.trans {operations : Nat → Prop} {first second : Session × List SessionEffect}
    (hfirst : Settles operations first) (hsecond : Settles first.1.UnderWay second) :
    Settles operations (second.1, first.2 ++ second.2) := by
  intro operation hoperation
  rcases hfirst operation hoperation with hstill | ⟨answer, hended⟩
  · rcases hsecond operation hstill with hstill | ⟨answer, hended⟩
    · exact .inl hstill
    · exact .inr ⟨answer, List.mem_append_right _ hended⟩
  · exact .inr ⟨answer, List.mem_append_left _ hended⟩

/-- An operation that ends is not under way any more; the others are. -/
theorem underWay_release {operation other : Nat} (hunderWay : s.UnderWay other) (hne : other ≠ operation) :
    (s.release operation).UnderWay other := by
  rcases hunderWay with ⟨running, hmem⟩ | hqueued
  · exact .inl ⟨running, Assoc.mem_erase.2 ⟨hmem, hne⟩⟩
  · exact .inr hqueued

theorem Attended.release (hattended : Attended s room) (operation : Nat) : Attended (s.release operation) room where
  sound := hattended.sound
  sorted := hattended.sorted.erase operation
  holder other hsyncing := by
    simp only [Session.release] at hsyncing ⊢
    split at hsyncing
    · cases hsyncing
    · next hnot =>
      obtain ⟨running, hmem⟩ := hattended.holder other hsyncing
      exact ⟨running, Assoc.mem_erase.2 ⟨hmem, fun heq => hnot (hsyncing.trans (congrArg some heq))⟩⟩
  counted := by
    obtain ⟨count, hnext, hcount, hearlier⟩ := hattended.counted
    exact ⟨count, hnext, hcount, fun other running hmem => hearlier other running (Assoc.mem_erase.1 hmem).1⟩
  distinct first running hfirst second later hsecond :=
    hattended.distinct first running (Assoc.mem_erase.1 hfirst).1 second later (Assoc.mem_erase.1 hsecond).1
  called other running hmem := hattended.called other running (Assoc.mem_erase.1 hmem).1

/-! ## Steps of the connection -/

/-- The session does not depend on its connection but by the calls and their numbers. -/
theorem Attended.reconnect (hattended : Attended s room) {connection : Connection} {state : State}
    (hsound : connection.Sound) (hnext : connection.nextNumber = s.connection.nextNumber)
    (hcalled : ∀ operation running, (operation, running) ∈ s.running →
      ∃ call, Assoc.find? running.number connection.calls = some call) :
    Attended { s with connection, state } room :=
  { hattended with
    sound := hsound
    counted := by
      obtain ⟨count, heq, hcount, hearlier⟩ := hattended.counted
      exact ⟨count, hnext.trans heq, hcount, hearlier⟩
    called := hcalled }

/-- A step of the connection that begins and drops no call leaves every operation with its call, or ends it. -/
theorem Attended.link (hattended : Attended s room) {action : Connection.Action}
    (hnew : ∀ payload, action ≠ .issue payload) (hkeep : ∀ number, action ≠ .dropCall number) :
    Attended (s.link (·.step action)).1 room ∧ Settles s.UnderWay (s.link (·.step action)) := by
  have hstep := Connection.step_callStep s.connection action
  have hsound := hattended.sound.step hstep
  have hnext := @Connection.nextNumber_eq s.connection _ hnew
  -- A call that no one is told of is still there.
  have hkept : ∀ operation running, (operation, running) ∈ s.running →
      (∀ answer, .answered running.number answer ∉ (s.connection.step action).2) →
      ∃ call, Assoc.find? running.number (s.connection.step action).1.calls = some call := by
    intro operation running hmem hunanswered
    obtain ⟨call, hfound⟩ := hattended.called operation running hmem
    cases hafter : Assoc.find? running.number (s.connection.step action).1.calls with
    | some after => exact ⟨after, rfl⟩
    | none =>
      rcases hstep.lost hfound hafter with ⟨answer, hanswered⟩ | hdropped
      · exact absurd (Connection.did_mem_moments.1 hanswered) (hunanswered answer)
      · exact absurd (Connection.dropped_mem_moments hdropped) (hkeep _)
  rcases s.link_cases action with ⟨answer, owner, running, heffects, hmem, hlink⟩ | ⟨hunanswered, hlink⟩
  · rw [hlink]
    constructor
    · -- The owner's call is no more, so it is released before the others are looked at.
      have hreleased := @reconnect _ _ (hattended.release owner) (s.connection.step action).1
        (s.state.finish s.files s.root running.waiting answer).2 hsound hnext ?_
      · exact hreleased
      · intro other later hlater
        obtain ⟨hlater, hne⟩ := Assoc.mem_erase.1 hlater
        refine hkept other later hlater fun reply hreply => ?_
        simp only [heffects, List.mem_singleton, Effect.answered.injEq] at hreply
        exact hne (hattended.distinct other later hlater owner running hmem hreply.1)
    · intro operation hunderWay
      by_cases howner : operation = owner
      · subst howner
        exact .inr ⟨_, List.mem_cons_of_mem _ (List.mem_singleton_self _)⟩
      · exact .inl (underWay_release hunderWay howner)
  · rw [hlink]
    exact ⟨hattended.reconnect hsound hnext fun operation running hmem =>
      hkept operation running hmem (hunanswered operation running hmem), fun _ hunderWay => .inl hunderWay⟩

/-- The request of an operation goes to the writer. -/
theorem Attended.submit (hattended : Attended s room) (operation : Nat) :
    Attended (s.submit operation).1 room ∧ Settles s.UnderWay (s.submit operation) := by
  unfold Session.submit
  split
  · exact @link _ _ hattended (.transmit _) (by simp) (by simp)
  · exact ⟨hattended, .refl s⟩

/-! ## Beginnings -/

section

variable {more : Nat} {syncing : Option Nat} {queue : List Queued} {operation : Nat}

/-- An operation that has ended as it began gives back the turn, if it was given that. -/
theorem Attended.ended (hattended : Attended s room) (hsyncing : syncing = s.syncing ∨ syncing = some operation)
    (hroom : room + queue.length < more + s.queue.length) (state : State) :
    Attended ({ s with syncing, queue, state }.release operation) more :=
  { hattended.release operation with
    holder := fun other hother => by
      simp only [Session.release] at hother ⊢
      split at hother
      · cases hother
      · next hnot =>
        have hne : other ≠ operation := fun heq => hnot (hother.trans (congrArg some heq))
        rcases hsyncing with rfl | rfl
        · obtain ⟨running, hmem⟩ := hattended.holder other hother
          exact ⟨running, Assoc.mem_erase.2 ⟨hmem, hne⟩⟩
        · exact absurd rfl hnot
    counted := by
      obtain ⟨count, hnext, hcount, hearlier⟩ := hattended.counted
      exact ⟨count, hnext, by simp only [Session.release]; omega, fun other running hmem =>
        hearlier other running (Assoc.mem_erase.1 hmem).1⟩ }

/-- An operation that was under way before a call began is so after it. -/
theorem mem_running_insert {running : Running} {other : Nat}
    (hother : other = operation ∨ ∃ running, (other, running) ∈ s.running) :
    ∃ later, (other, later) ∈ Assoc.insert operation running s.running := by
  by_cases hself : other = operation
  · exact ⟨running, hself ▸ Assoc.mem_of_find? (Assoc.find?_insert_self _ _ _)⟩
  · rcases hother with heq | ⟨later, hmem⟩
    · exact absurd heq hself
    · exact ⟨later, Assoc.mem_insert_of_mem hmem hself⟩

/-- The number that is next is given to no operation yet. -/
theorem Attended.fresh (hattended : Attended s room) (hmore : more < UInt64.size)
    (hroom : room + queue.length < more + s.queue.length) {running : Running} {other : Nat}
    (hmem : (other, running) ∈ s.running) : running.number ≠ s.connection.nextNumber := by
  obtain ⟨count, hnext, hcount, hearlier⟩ := hattended.counted
  obtain ⟨earlier, hlt, hnumber⟩ := hearlier other running hmem
  intro heq
  rw [hnext, hnumber] at heq
  have := Connection.nth_injective (by omega) (by omega) heq
  omega

/-- An operation that waits has a call of its own. -/
theorem Attended.calling (hattended : Attended s room) (hmore : more < UInt64.size)
    (hsyncing : syncing = s.syncing ∨ syncing = some operation) (hroom : room + queue.length < more + s.queue.length)
    (hconnected : s.connection.state = .connected) (state : State) (request : Wire.Request.Payload)
    (waiting : Waiting) :
    Attended { s with
      syncing, queue, state
      connection := Debugger.calling s.connection request
      running := Assoc.insert operation { number := s.connection.nextNumber, waiting } s.running } more where
  sound := by
    have hsound := hattended.sound.step (Connection.step_callStep s.connection (.issue request))
    rw [step_issue hconnected] at hsound
    exact hsound
  sorted := hattended.sorted.insert _ _
  holder other hother := by
    rcases hsyncing with rfl | rfl
    · exact mem_running_insert (.inr (hattended.holder other hother))
    · exact mem_running_insert (.inl (Option.some.inj hother).symm)
  counted := by
    obtain ⟨count, hnext, hcount, hearlier⟩ := hattended.counted
    refine ⟨count + 1, ?_, by dsimp only; omega, fun other running hmem => ?_⟩
    · rw [← Connection.nth_succ, ← hnext]
      rfl
    · rcases Assoc.mem_insert hmem with heq | hmem
      · cases heq
        exact ⟨count, by omega, hnext⟩
      · obtain ⟨earlier, hlt, hnumber⟩ := hearlier other running hmem
        exact ⟨earlier, by omega, hnumber⟩
  distinct first running hfirst second later hsecond hnumber := by
    rcases hattended.sorted.mem_insert_of_ne hfirst with heq | ⟨hfirst, -⟩ <;>
    rcases hattended.sorted.mem_insert_of_ne hsecond with heq' | ⟨hsecond, -⟩
    · cases heq
      cases heq'
      rfl
    · cases heq
      exact absurd hnumber.symm (hattended.fresh hmore hroom hsecond)
    · cases heq'
      exact absurd hnumber (hattended.fresh hmore hroom hfirst)
    · exact hattended.distinct first running hfirst second later hsecond hnumber
  called other running hmem := by
    by_cases hnumber : running.number = s.connection.nextNumber
    · refine ⟨{ payload := request }, ?_⟩
      rw [hnumber]
      exact Assoc.find?_insert_self _ _ _
    · rcases Assoc.mem_insert hmem with heq | hmem
      · cases heq
        exact absurd rfl hnumber
      · obtain ⟨call, hfound⟩ := hattended.called other running hmem
        exact ⟨call, (Assoc.find?_insert_of_ne hnumber _ _).trans hfound⟩

/-- An operation that begins, from the line or not, is under way with a call of its own, or has ended. -/
theorem Attended.prepare (hattended : Attended s room) (hmore : more < UInt64.size)
    (hsyncing : syncing = s.syncing ∨ syncing = some operation) (hroom : room + queue.length < more + s.queue.length)
    (hqueue : ∀ queued ∈ s.queue, queued ∈ queue ∨ queued.operation = operation) (what : Operation) :
    let result := { s with syncing, queue }.prepare operation what
    Attended result.1 more ∧ Settles (fun other => s.UnderWay other ∨ other = operation) result := by
  intro result
  -- An operation is the one that begins, or is under way, be it in line.
  have hcases : ∀ other, s.UnderWay other ∨ other = operation → other = operation ∨
      (∃ running, (other, running) ∈ s.running) ∨ ∃ queued ∈ queue, queued.operation = other := by
    rintro other ((hrunning | ⟨queued, hmem, rfl⟩) | rfl)
    · exact .inr (.inl hrunning)
    · rcases hqueue queued hmem with hstill | hown
      · exact .inr (.inr ⟨queued, hstill, rfl⟩)
      · exact .inl hown
    · exact .inl rfl
  rcases prepare_cases { s with syncing, queue } operation what with
    ⟨state, answer, hended, hprepared⟩ | ⟨request, waiting, -, hconnected, hprepared⟩
  · rw [Settles, show result.1 = _ from hprepared]
    refine ⟨hattended.ended hsyncing hroom state, fun other hother => ?_⟩
    by_cases hself : other = operation
    · exact .inr ⟨answer, hself ▸ hended⟩
    · exact .inl (@underWay_release { s with syncing, queue, state } _ _
        ((hcases other hother).resolve_left hself) hself)
  · rw [Settles, show result.1 = _ from hprepared]
    refine ⟨hattended.calling hmore hsyncing hroom hconnected _ request waiting, fun other hother => .inl ?_⟩
    rcases hcases other hother with hself | hrunning | hqueued
    · exact .inl (mem_running_insert (.inl hself))
    · exact .inl (mem_running_insert (.inr hrunning))
    · exact .inr hqueued

end

/-- An operation that begins is under way, be it in line, or has ended. -/
theorem Attended.begin (hattended : Attended s room) (hroom : room + 1 < UInt64.size) (operation : Nat)
    (what : Operation) :
    Attended (s.move (.prepare operation what)).1 (room + 1) ∧
      Settles (fun other => s.UnderWay other ∨ other = operation) (s.move (.prepare operation what)) := by
  have hprepare : ∀ syncing, syncing = s.syncing ∨ syncing = some operation →
      Attended ({ s with syncing }.prepare operation what).1 (room + 1) ∧
        Settles (fun other => s.UnderWay other ∨ other = operation) ({ s with syncing }.prepare operation what) :=
    fun syncing hsyncing => hattended.prepare hroom hsyncing (by omega) (fun _ hmem => .inl hmem) what
  unfold Session.move
  dsimp only
  split
  · next path breakpoints =>
    split
    · exact hprepare _ (.inr rfl)
    · refine ⟨{ hattended with counted := ?_ }, fun other hother => .inl ?_⟩
      · obtain ⟨count, hnext, hcount, hearlier⟩ := hattended.counted
        exact ⟨count, hnext, by simp only [List.length_append, List.length_singleton]; omega, hearlier⟩
      · rcases hother with (hrunning | ⟨queued, hmem, rfl⟩) | rfl
        · exact .inl hrunning
        · exact .inr ⟨queued, List.mem_append_left _ hmem, rfl⟩
        · exact .inr ⟨_, List.mem_append_right _ (List.mem_singleton_self _), rfl⟩
  · exact hprepare s.syncing (.inl rfl)

/-- The first in line is under way when it gets its turn, or has ended. -/
theorem Attended.turn (hattended : Attended s room) (hroom : room < UInt64.size) :
    Attended (s.move .prepareTurn).1 room ∧ Settles s.UnderWay (s.move .prepareTurn) := by
  unfold Session.move
  dsimp only
  split
  · next first queue hsyncing hqueue =>
    obtain ⟨hafter, hsettles⟩ := @Attended.prepare _ _ room (some first.operation) queue
      first.operation hattended hroom (.inr rfl) (by rw [hqueue, List.length_cons]; omega) (fun queued hmem => by
        rw [hqueue] at hmem
        rcases List.mem_cons.1 hmem with rfl | hrest
        · exact .inr rfl
        · exact .inl hrest) (.setBreakpoints first.path first.breakpoints)
    exact ⟨hafter, fun other hother => hsettles other (.inl hother)⟩
  · exact ⟨hattended, .refl s⟩

/-- So it is where a request goes to the writer at once. -/
theorem Attended.submits {moved result : Session × List SessionEffect} (hsubmits : Submits moved result)
    (hattended : Attended moved.1 room) {operations : Nat → Prop} (hsettles : Settles operations moved) :
    Attended result.1 room ∧ Settles operations result := by
  rcases hsubmits with rfl | ⟨operation, rfl⟩
  · exact ⟨hattended, hsettles⟩
  · obtain ⟨hsubmitted, hsettled⟩ := hattended.submit operation
    exact ⟨hsubmitted, hsettles.trans hsettled⟩

/-! ## The dial -/

theorem calling_dialStep {c : Connection} (hone : c.OneDial) (hconnected : c.state = .connected)
    (payload : Wire.Request.Payload) : c.DialStep (Debugger.calling c payload, []) where
  after := ⟨hone.one, hone.early, hone.late, fun _ => .inl hconnected⟩
  silent _ _ _ h := by cases h
  undialed h := ⟨h, .inl rfl⟩
  dialing h := .inl h
  failed _ _ h := by cases h
  closed h := h

/-- A step that leaves the connection to itself. -/
theorem dialStep_refl {c : Connection} (hone : c.OneDial) : c.DialStep (c, []) :=
  .same hone rfl (.inl rfl) id id (by simp)

/-- What a session's step does to the dial. -/
def Dials (s : Session) (result : Session × List SessionEffect) : Prop :=
  s.connection.DialStep (result.1.connection, linked result.2)

theorem Dials.trans {first second : Session × List SessionEffect} (hfirst : Dials s first)
    (hsecond : Dials first.1 second) : Dials s (second.1, first.2 ++ second.2) := by
  have hboth := Connection.DialStep.trans hfirst hsecond
  unfold Dials linked
  rw [List.filterMap_append]
  exact hboth

theorem dials_link (hone : s.connection.OneDial) {action : Connection.Action} (hother : action.byOwner = false) :
    Dials s (s.link (·.step action)) := by
  unfold Dials
  rw [link_connection]
  exact @Connection.DialStep.congr _ _ (s.connection.step action).2 _ (hone.step hother) (s.dialed_link action)

theorem dials_submits {moved result : Session × List SessionEffect} (hsubmits : Submits moved result)
    (hdials : Dials s moved) : Dials s result := by
  rcases hsubmits with rfl | ⟨operation, rfl⟩
  · exact hdials
  · refine hdials.trans ?_
    unfold Session.submit
    split
    · exact @dials_link _ hdials.after (.transmit _) rfl
    · exact dialStep_refl hdials.after

theorem dials_prepare (hone : s.connection.OneDial) (operation : Nat) (what : Operation) :
    Dials s (s.prepare operation what) := by
  unfold Dials
  rw [linked_prepare]
  rcases s.prepare_cases operation what with ⟨state, -, -, hprepared⟩ | ⟨request, waiting, -, hconnected, hprepared⟩
  · rw [hprepared]
    exact dialStep_refl hone
  · rw [hprepared]
    exact calling_dialStep hone hconnected request

theorem dials_begin (hone : s.connection.OneDial) (operation : Nat) (what : Operation) :
    Dials s (s.move (.prepare operation what)) := by
  simp only [Session.move]
  split
  · split
    · exact dials_prepare (s := { s with syncing := some operation }) hone operation _
    · exact dialStep_refl hone
  · exact dials_prepare hone operation _

theorem dials_turn (hone : s.connection.OneDial) : Dials s (s.move .prepareTurn) := by
  simp only [Session.move]
  split
  · next first queue _ _ =>
    exact dials_prepare (s := { s with syncing := some first.operation, queue }) hone first.operation _
  · exact dialStep_refl hone

/-! ## Both together -/

/-- A step that forgets no operation, and tells of the dial what there is to tell. -/
structure Minds (s : Session) (room : Nat) (operations : Nat → Prop) (result : Session × List SessionEffect) :
    Prop where
  attended : Attended result.1 room
  settles : Settles operations result
  dials : Dials s result

theorem Minds.submits {operations : Nat → Prop} {moved result : Session × List SessionEffect}
    (hminds : Minds s room operations moved) (hsubmits : Submits moved result) : Minds s room operations result := by
  obtain ⟨hattended, hsettles⟩ := Attended.submits hsubmits hminds.attended hminds.settles
  exact ⟨hattended, hsettles, dials_submits hsubmits hminds.dials⟩

section

variable (hattended : Attended s room) (hone : s.connection.OneDial)
include hattended hone

theorem minds_link {action : Connection.Action} (hother : action.byOwner = false) :
    Minds s room s.UnderWay (s.link (·.step action)) := by
  obtain ⟨hlinked, hsettles⟩ := @Attended.link _ _ hattended action (by rintro _ rfl; cases hother)
    (by rintro _ rfl; cases hother)
  exact ⟨hlinked, hsettles, dials_link hone hother⟩

theorem minds_collect (operation : Nat) : Minds s room s.UnderWay (s.collect operation) := by
  unfold Session.collect
  split
  · exact @minds_link _ _ hattended hone (.collect _) rfl
  · exact ⟨hattended, .refl s, dialStep_refl hone⟩

theorem minds_handleEvent (payload : Wire.Event.Payload) : Minds s room s.UnderWay (s.handleEvent payload) :=
  ⟨{ hattended with }, fun _ hunderWay => .inl hunderWay, dialStep_refl hone⟩

theorem minds_shutdown : Minds s room s.UnderWay (s.link fun c =>
    let (c, first) := c.shutdown
    let (c, later) := c.leave
    (c, first ++ later)) := by
  have hfirst := @minds_link _ _ hattended hone .shutdown rfl
  have hsecond := @minds_link _ _ hfirst.attended hfirst.dials.after .leave rfl
  rw [link_shutdown]
  exact ⟨hsecond.attended, hfirst.settles.trans hsecond.settles, hfirst.dials.trans hsecond.dials⟩

theorem minds_begin (hroom : room + 1 < UInt64.size) (operation : Nat) (what : Operation) :
    Minds s (room + 1) (fun other => s.UnderWay other ∨ other = operation) (s.move (.prepare operation what)) := by
  obtain ⟨hbegun, hsettles⟩ := hattended.begin hroom operation what
  exact ⟨hbegun, hsettles, dials_begin hone operation what⟩

theorem minds_turn (hroom : room < UInt64.size) : Minds s room s.UnderWay (s.move .prepareTurn) := by
  obtain ⟨hturned, hsettles⟩ := hattended.turn hroom
  exact ⟨hturned, hsettles, dials_turn hone⟩

end

/-- What the dial's task does as it begins. -/
theorem Attended.dial (hattended : Attended s room) :
    Attended (s.link (·.dial)).1 room ∧ Settles s.UnderWay (s.link (·.dial)) :=
  @Attended.link _ _ hattended .dial (by simp) (by simp)

end

end Session

end DebugBridge.Debugger
