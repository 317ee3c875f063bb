import DebugBridge.Proofs.Adapter.Answers
import DebugBridge.Proofs.Debugger.Attended

/-!
# What is left to wait for

A request that was read is answered, or something is there that will answer it: a task that has not begun, a dial, or an
operation with a call of its own. A step of a session keeps that, while its effects are taken in one by one.
-/

namespace DebugBridge.Adapter

open Debugger (Session SessionEffect)

/-! ## Tasks -/

/-- The session that a task is for. -/
def Task.session : Task → Nat
  | .connect session => session
  | .operation session _ _ => session

/-- How many operations of a session have not begun. -/
def notBegun (session : Nat) (tasks : List Task) : Nat :=
  tasks.countP fun
    | .operation other _ _ => other = session
    | .connect _ => false

/-- The sessions that a task is to connect. -/
def toConnect (tasks : List Task) : List Nat :=
  tasks.filterMap fun
    | .connect session => some session
    | .operation .. => none

section

variable {session : Nat} {tasks more : List Task}

theorem notBegun_append (session : Nat) (tasks more : List Task) :
    notBegun session (tasks ++ more) = notBegun session tasks + notBegun session more :=
  List.countP_append

theorem toConnect_append (tasks more : List Task) : toConnect (tasks ++ more) = toConnect tasks ++ toConnect more :=
  List.filterMap_append

theorem mem_toConnect : session ∈ toConnect tasks ↔ .connect session ∈ tasks := by
  rw [toConnect, List.mem_filterMap]
  constructor
  · rintro ⟨task, hmem, heq⟩
    cases task <;> cases heq
    exact hmem
  · exact fun hmem => ⟨_, hmem, rfl⟩

/-- Tasks for other sessions are nothing to a session. -/
theorem notBegun_of_ne (hother : ∀ task ∈ tasks, task.session ≠ session) : notBegun session tasks = 0 := by
  refine List.countP_eq_zero.2 fun task hmem => ?_
  have hne := hother task hmem
  cases task with
  | connect other => simp
  | operation other operation what => simpa [Task.session] using hne

theorem not_mem_toConnect_of_ne (hother : ∀ task ∈ tasks, task.session ≠ session) : session ∉ toConnect tasks :=
  fun hmem => hother _ (mem_toConnect.1 hmem) rfl

end

namespace Server

/-! ## What keeps a request -/

/-- A session's part, given the tasks, the slot and some bound on the operations. Of the sessions' effects some may
still be coming. -/
structure Kept (tasks : List Task) (slot : Option Nat) (limit : Nat) (coming : List (Nat × SessionEffect))
    (session : Nat) (launch : Launched) : Prop where
  /-- The operations that have not begun will find room. -/
  attended : ∃ room, launch.session.Attended room ∧ room + notBegun session tasks ≤ limit
  oneDial : launch.session.connection.OneDial
  /-- A session that is to be connected was not dialled for yet. -/
  fresh : session ∈ toConnect tasks → launch.session.connection.dials = [] ∧
    (launch.session.connection.state = .connecting ∨ launch.session.connection.closed = true)
  /-- A launch that was not answered waits for its task, for its dial, or for the news of that. -/
  request : launch.request.isSome → session ∈ toConnect tasks ∨ launch.session.connection.dials ≠ [] ∨
    ∃ dial ending, (session, .link (.dialed dial ending)) ∈ coming
  /-- A session that is not in the slot is over. -/
  gone : slot = some session ∨ launch.session.connection.closed = true ∨
    session ∉ toConnect tasks ∧ launch.session.connection.Lost
  /-- A dial that has failed leaves the session to itself, also if it loses the slot for that. -/
  failing : ∀ dial error, (session, .link (.dialed dial (.error error))) ∈ coming →
    session ∉ toConnect tasks ∧ launch.session.connection.Lost

/-- Every request that was read has a response or something to wait for. -/
structure Live (s : Server) (limit : Nat) (coming : List (Nat × SessionEffect)) : Prop where
  named : Named s
  kept : ∀ session launch, (session, launch) ∈ s.launches → Kept s.tasks s.slot limit coming session launch
  held : ∀ session, s.slot = some session → ∃ launch, (session, launch) ∈ s.launches
  begins : ∀ task ∈ s.tasks, ∃ launch, (task.session, launch) ∈ s.launches
  once : (toConnect s.tasks).Nodup
  /-- An operation that was not answered waits for its task, is under way, or has ended. -/
  asked : ∀ operation asked, (operation, asked) ∈ s.asked →
    (∃ what, .operation asked.session operation what ∈ s.tasks) ∨
    (∃ launch, (asked.session, launch) ∈ s.launches ∧ launch.session.UnderWay operation) ∨
    ∃ session answer, (session, .ended operation answer) ∈ coming
  ended : s.ending = some (.ok ()) → s.slot = none

section

variable {s s' : Server} {limit : Nat} {coming : List (Nat × SessionEffect)} {session : Nat} {launch changed : Launched}
  {tasks : List Task} {slot : Option Nat}

/-! ### One session -/

/-- What becomes of the tasks for other sessions is nothing to a session. -/
theorem Kept.retask (hkept : Kept tasks slot limit coming session launch) {tasks' : List Task} {limit' : Nat}
    {coming' : List (Nat × SessionEffect)} (hroom : notBegun session tasks' + limit ≤ notBegun session tasks + limit')
    (hconnect : session ∈ toConnect tasks' ↔ session ∈ toConnect tasks)
    (hcoming : ∀ dial ending, (session, SessionEffect.link (.dialed dial ending)) ∈ coming' ↔
      (session, SessionEffect.link (.dialed dial ending)) ∈ coming) :
    Kept tasks' slot limit' coming' session launch where
  attended := by
    obtain ⟨room, hattended, hbound⟩ := hkept.attended
    exact ⟨room, hattended, by omega⟩
  oneDial := hkept.oneDial
  fresh h := hkept.fresh (hconnect.1 h)
  request h := by
    simp only [hconnect, hcoming]
    exact hkept.request h
  gone := by
    rw [hconnect]
    exact hkept.gone
  failing dial error h := by
    rw [hconnect]
    exact hkept.failing dial error ((hcoming _ _).1 h)

/-- A launch changes in what is no concern of its operations and its dial, or is answered. -/
theorem Kept.change (hkept : Kept tasks slot limit coming session launch)
    (hattended : ∀ room, launch.session.Attended room → changed.session.Attended room)
    (hconnection : changed.session.connection = launch.session.connection)
    (hrequest : changed.request = launch.request ∨ changed.request = none) :
    Kept tasks slot limit coming session changed where
  attended := by
    obtain ⟨room, hbefore, hbound⟩ := hkept.attended
    exact ⟨room, hattended room hbefore, hbound⟩
  oneDial := hconnection ▸ hkept.oneDial
  fresh := hconnection ▸ hkept.fresh
  request h := by
    rcases hrequest with heq | hnone
    · rw [hconnection]
      exact hkept.request (heq ▸ h)
    · rw [hnone] at h
      cases h
  gone := hconnection ▸ hkept.gone
  failing := hconnection ▸ hkept.failing

theorem mem_coming {effects : List SessionEffect} {effect : SessionEffect} {other : Nat} :
    (other, effect) ∈ effects.map (session, ·) ↔ other = session ∧ effect ∈ effects := by
  simp only [List.mem_map, Prod.mk.injEq]
  constructor
  · rintro ⟨found, hmem, rfl, rfl⟩
    exact ⟨rfl, hmem⟩
  · rintro ⟨rfl, hmem⟩
    exact ⟨effect, hmem, rfl, rfl⟩

/-- A session takes a step that it minds. -/
theorem Kept.minds (popped : List Task) (hkept : Kept (popped ++ tasks) slot limit [] session launch)
    (hpopped : toConnect popped = []) {room : Nat} {operations : Nat → Prop} {result : Session × List SessionEffect}
    (hminds : launch.session.Minds room operations result) (hroom : room + notBegun session tasks ≤ limit) :
    Kept tasks slot limit (result.2.map (session, ·)) session { launch with session := result.1 } := by
  have hconnect : session ∈ toConnect (popped ++ tasks) ↔ session ∈ toConnect tasks := by
    rw [toConnect_append, hpopped, List.nil_append]
  have hdials := hminds.dials
  have htold : ∀ {dial ending}, .dialed dial ending ∈ Debugger.linked result.2 ↔
      (session, .link (.dialed dial ending)) ∈ result.2.map (session, ·) := by
    intro dial ending
    rw [Debugger.mem_linked, mem_coming, and_iff_right rfl]
  refine ⟨⟨room, hminds.attended, hroom⟩, hdials.after, fun h => ?_, fun h => ?_, ?_, fun dial error h => ?_⟩
  · -- Its task has still to dial, so no step touches the dials.
    obtain ⟨hnone, hearly⟩ := hkept.fresh (hconnect.2 h)
    obtain ⟨hnone', hstate⟩ := hdials.undialed hnone
    refine ⟨hnone', ?_⟩
    rcases hearly with hconnecting | hclosed
    · exact hstate.imp_left fun heq => heq.trans hconnecting
    · exact .inr (hdials.closed hclosed)
  · -- A dial goes on, or its end is among the effects.
    rcases hkept.request h with htask | hdialing | ⟨dial, ending, hmem⟩
    · exact .inl (hconnect.1 htask)
    · exact .inr ((hdials.dialing hdialing).imp_right fun ⟨dial, ending, hmem⟩ => ⟨dial, ending, htold.1 hmem⟩)
    · cases hmem
  · rcases hkept.gone with hslot | hclosed | ⟨hnot, hlost⟩
    · exact .inl hslot
    · exact .inr (.inl (hdials.closed hclosed))
    · exact .inr (.inr ⟨mt hconnect.2 hnot, hdials.lost hlost⟩)
  · have hmem := htold.2 h
    -- A dial that is still to begin is not one that fails.
    exact ⟨fun htask => hdials.silent (hkept.fresh (hconnect.2 htask)).1 _ _ hmem, hdials.failed dial error hmem⟩

/-- The task that connects a session begins. -/
theorem Kept.dial (hkept : Kept (.connect session :: tasks) slot limit [] session launch)
    (honce : session ∉ toConnect tasks) :
    Kept tasks slot limit ((launch.session.link (·.dial)).2.map (session, ·)) session
      { launch with session := (launch.session.link (·.dial)).1 } := by
  have hmine : session ∈ toConnect (.connect session :: tasks) := mem_toConnect.2 (List.mem_cons_self ..)
  obtain ⟨room, hattended, hbound⟩ := hkept.attended
  obtain ⟨hnone, hearly⟩ := hkept.fresh hmine
  obtain ⟨hone, hbegun, hfailed, hclosed⟩ := hkept.oneDial.dial hnone hearly
  have hafter : (launch.session.link (·.dial)).1.connection = launch.session.connection.dial.1 :=
    launch.session.link_connection .dial
  have htold : ∀ {dial ending}, .dialed dial ending ∈ launch.session.connection.dial.2 ↔
      (session, .link (.dialed dial ending)) ∈ (launch.session.link (·.dial)).2.map (session, ·) := by
    intro dial ending
    rw [mem_coming, and_iff_right rfl, ← Debugger.mem_linked]
    exact (launch.session.dialed_link .dial dial ending).symm
  refine ⟨⟨room, hattended.dial.1, ?_⟩, ?_, fun h => absurd h honce, fun _ => .inr ?_, ?_, fun dial error h => ?_⟩
  · exact hbound
  · exact hafter ▸ hone
  · dsimp only
    rw [hafter]
    exact hbegun.imp_right fun ⟨dial, ending, hmem⟩ => ⟨dial, ending, htold.1 hmem⟩
  · dsimp only
    rw [hafter, hclosed]
    exact hkept.gone.imp_right fun h => .inl (h.resolve_right fun hnot => hnot.1 hmine)
  · dsimp only
    rw [hafter]
    exact ⟨honce, hfailed dial error (htold.2 h)⟩

/-! ### All sessions -/

theorem Live.congr (hlive : Live s limit coming) (hsame : SameWork s s') : Live s' limit coming := by
  have hnamed := hsame.named hlive.named
  obtain ⟨hending, hslot, hlaunches, hlaunched, htasks, hasked, hoperations⟩ := hsame
  exact {
    named := hnamed
    kept := by rw [hlaunches, htasks, hslot]; exact hlive.kept
    held := by rw [hlaunches, hslot]; exact hlive.held
    begins := by rw [hlaunches, htasks]; exact hlive.begins
    once := by rw [htasks]; exact hlive.once
    asked := by rw [hlaunches, htasks, hasked]; exact hlive.asked
    ended := by rw [hending, hslot]; exact hlive.ended }

theorem mem_setLaunch_self (s : Server) (session : Nat) (changed : Launched) :
    (session, changed) ∈ (s.setLaunch session changed).launches :=
  Assoc.mem_of_find? (Assoc.find?_insert_self _ _ _)

/-- A session is listed as long as it was. -/
theorem listed_setLaunch {other : Nat} (hlisted : ∃ held, (other, held) ∈ s.launches) (session : Nat)
    (changed : Launched) : ∃ held, (other, held) ∈ (s.setLaunch session changed).launches := by
  obtain ⟨held, hmem⟩ := hlisted
  by_cases hne : other = session
  · exact ⟨changed, hne ▸ mem_setLaunch_self s session changed⟩
  · exact ⟨held, Assoc.mem_insert_of_mem hmem hne⟩

/-- A launch changes, with tasks of its own that have begun and with effects that come of it. -/
theorem Live.put (hlive : Live s limit coming) (popped : List Task) (htasks : s.tasks = popped ++ tasks)
    (hpopped : ∀ task ∈ popped, task.session = session) (hmem : (session, launch) ∈ s.launches)
    (effects : List SessionEffect)
    (hkept : Kept tasks s.slot limit (effects.map (session, ·) ++ coming) session changed)
    (hsettles : ∀ operation,
      launch.session.UnderWay operation ∨ (∃ what, .operation session operation what ∈ popped) →
      changed.session.UnderWay operation ∨ ∃ answer, .ended operation answer ∈ effects) :
    Live ({ s with tasks }.setLaunch session changed) limit (effects.map (session, ·) ++ coming) where
  named :=
    ({ hlive.named with } : Named { s with tasks }).setLaunch (hlive.named.launchesBelow session launch hmem) changed
  kept other held hheld := by
    rcases hlive.named.launches.mem_insert_of_ne hheld with heq | ⟨hheld, hne⟩
    · cases heq
      exact hkept
    · -- Neither the tasks nor the effects are another session's.
      have hothers : ∀ task ∈ popped, task.session ≠ other := fun task htask => hpopped task htask ▸ Ne.symm hne
      refine (hlive.kept other held hheld).retask ?_ ?_ fun dial ending => ?_
      · rw [htasks, notBegun_append, notBegun_of_ne hothers, Nat.zero_add]
        exact Nat.le_refl _
      · rw [htasks, toConnect_append, List.mem_append, or_iff_right (not_mem_toConnect_of_ne hothers)]
        exact Iff.rfl
      · rw [List.mem_append, mem_coming]
        exact ⟨fun h => h.resolve_left fun heq => hne heq.1, .inr⟩
  held other hslot := listed_setLaunch (hlive.held other hslot) session changed
  begins task htask :=
    listed_setLaunch (s := s) (hlive.begins task (htasks ▸ List.mem_append_right _ htask)) session changed
  once := (htasks ▸ hlive.once).sublist ((List.sublist_append_right popped tasks).filterMap _)
  asked operation asked hasked := by
    -- What was this session's to end is still under way in it, or is ended by the effects.
    have hdone : launch.session.UnderWay operation ∨ (∃ what, .operation session operation what ∈ popped) →
        (∃ held, (session, held) ∈ ({ s with tasks }.setLaunch session changed).launches ∧
          held.session.UnderWay operation) ∨
        ∃ session' answer, (session', .ended operation answer) ∈ effects.map (session, ·) ++ coming := by
      intro h
      rcases hsettles operation h with hstill | ⟨answer, hended⟩
      · exact .inl ⟨changed, mem_setLaunch_self _ session changed, hstill⟩
      · exact .inr ⟨session, answer, List.mem_append_left _ (mem_coming.2 ⟨rfl, hended⟩)⟩
    rcases hlive.asked operation asked hasked with ⟨what, htask⟩ | ⟨held, hheld, hunderWay⟩ | ⟨other, answer, hended⟩
    · rcases List.mem_append.1 (htasks ▸ htask) with hbegun | hstill
      · have hself : asked.session = session := hpopped _ hbegun
        rw [hself] at hbegun ⊢
        exact .inr (hdone (.inr ⟨what, hbegun⟩))
      · exact .inl ⟨what, hstill⟩
    · by_cases hself : asked.session = session
      · rw [hself] at hheld ⊢
        obtain rfl := hlive.named.launches.unique hmem hheld
        exact .inr (hdone (.inl hunderWay))
      · exact .inr (.inl ⟨held, Assoc.mem_insert_of_mem hheld hself, hunderWay⟩)
    · exact .inr (.inr ⟨other, answer, List.mem_append_right _ hended⟩)
  ended := hlive.ended

theorem Live.change (hlive : Live s limit coming) (hmem : (session, launch) ∈ s.launches)
    (hattended : ∀ room, launch.session.Attended room → changed.session.Attended room)
    (hunderWay : ∀ operation, launch.session.UnderWay operation → changed.session.UnderWay operation)
    (hconnection : changed.session.connection = launch.session.connection)
    (hrequest : changed.request = launch.request ∨ changed.request = none) :
    Live (s.setLaunch session changed) limit coming := by
  refine hlive.put [] rfl (by simp) hmem [] ?_ ?_
  · exact (hlive.kept session launch hmem).change hattended hconnection hrequest
  · rintro operation (hstill | ⟨what, hnone⟩)
    · exact .inl (hunderWay operation hstill)
    · cases hnone

/-- The session in the slot is over, so the slot can be emptied. -/
theorem Live.vacate (hlive : Live s limit coming)
    (hover : ∀ session launch, s.slot = some session → (session, launch) ∈ s.launches →
      launch.session.connection.closed = true ∨ session ∉ toConnect s.tasks ∧ launch.session.connection.Lost) :
    Live { s with slot := none } limit coming :=
  { hlive with
    named := { hlive.named with }
    kept := fun session launch hmem =>
      let hkept := hlive.kept session launch hmem
      { hkept with gone := .inr (hkept.gone.elim (fun hslot => hover session launch hslot hmem) id) }
    held := fun _ hslot => by cases hslot
    ended := fun _ => rfl }

/-! ## Effects -/

/-- An effect that ends nothing has no one waiting for it. -/
theorem Live.tail {effect : SessionEffect} (hlive : Live s limit ((session, effect) :: coming))
    (hdialed : ∀ dial ending, effect = .link (.dialed dial ending) →
      ∀ launch, (session, launch) ∈ s.launches → launch.request = none)
    (hended : ∀ operation answer, effect = .ended operation answer → ∀ asked, (operation, asked) ∉ s.asked) :
    Live s limit coming :=
  { hlive with
    kept := fun other launch hmem =>
      let hkept := hlive.kept other launch hmem
      { hkept with
        request := fun hsome => by
          rcases hkept.request hsome with htask | hdialing | ⟨dial, ending, hcoming⟩
          · exact .inl htask
          · exact .inr (.inl hdialing)
          · rcases List.mem_cons.1 hcoming with heq | hrest
            · cases heq
              rw [hdialed dial ending rfl launch hmem] at hsome
              cases hsome
            · exact .inr (.inr ⟨dial, ending, hrest⟩)
        failing := fun dial error h => hkept.failing dial error (List.mem_cons_of_mem _ h) }
    asked := fun operation asked hmem => by
      rcases hlive.asked operation asked hmem with htask | hunderWay | ⟨other, answer, hcoming⟩
      · exact .inl htask
      · exact .inr (.inl hunderWay)
      · rcases List.mem_cons.1 hcoming with heq | hrest
        · cases heq
          exact absurd hmem (hended operation answer rfl asked)
        · exact .inr (.inr ⟨other, answer, hrest⟩) }

/-- A launch whose dial has ended is answered. -/
theorem Live.answerLaunch {dial : Nat} {result : Except CallError Unit}
    (hlive : Live s limit ((session, .link (.dialed dial result)) :: coming)) :
    Live (s.answerLaunch session result).1 limit coming := by
  unfold Server.answerLaunch
  split
  · next launch hfound =>
    have hmem := Assoc.mem_of_find? hfound
    split
    · next request hrequest =>
      have hanswered : Live (s.setLaunch session { launch with request := none }) limit
          ((session, .link (.dialed dial result)) :: coming) :=
        hlive.change hmem (fun _ => id) (fun _ => id) rfl (.inr rfl)
      have htold : ∀ other, (session, other) ∈ (s.setLaunch session { launch with request := none }).launches →
          other.request = none := by
        intro other hother
        rw [← hanswered.named.launches.unique (mem_setLaunch_self s session _) hother]
      cases result with
      | ok success =>
        have hdone := hanswered.tail (fun _ _ _ => htold) (by simp)
        exact hdone.congr ((respond_sameWork _ request true none none).trans (tell_sameWork _ "initialized" none))
      | error error =>
        obtain ⟨hnot, hlost⟩ := (hlive.kept session launch hmem).failing dial error (List.mem_cons_self ..)
        have hleft : Live { s.setLaunch session { launch with request := none } with
            slot := if s.slot = some session then none else s.slot } limit
              ((session, .link (.dialed dial (.error error))) :: coming) := by
          split
          · next hslot =>
            refine hanswered.vacate fun other held hother hheld => .inr ?_
            obtain rfl : session = other := Option.some.inj (hslot.symm.trans hother)
            rw [← hanswered.named.launches.unique (mem_setLaunch_self s session _) hheld]
            exact ⟨hnot, hlost⟩
          · exact hanswered
        have hsaid := respond_sameWork { s.setLaunch session { launch with request := none } with
            slot := if s.slot = some session then none else s.slot } request false none
          (some s!"failed to connect to debug server at {launch.target}: {error.message}")
        exact (hleft.tail (fun _ _ _ => htold) (by simp)).congr hsaid
    · next hnone =>
      refine hlive.tail (fun _ _ _ other hother => ?_) (by simp)
      rw [← hlive.named.launches.unique hmem hother]
      exact hnone
  · next hnone =>
    refine hlive.tail (fun _ _ _ launch hmem => ?_) (by simp)
    rw [hlive.named.launches.find?_of_mem hmem] at hnone
    cases hnone

/-- An operation that has ended is answered. -/
theorem Live.answerOperation {operation : Nat} {result : Except Debugger.Error Debugger.Answer}
    (hlive : Live s limit ((session, .ended operation result) :: coming)) :
    Live (s.answerOperation operation result).1 limit coming := by
  unfold Server.answerOperation
  split
  · next asked hfound =>
    have herased : Live { s with asked := Assoc.erase operation s.asked } limit
        ((session, .ended operation result) :: coming) :=
      { hlive with
        named := { hlive.named with
          asked := hlive.named.asked.erase operation
          askedBelow := fun other held hmem => hlive.named.askedBelow other held (Assoc.mem_erase.1 hmem).1 }
        asked := fun other held hmem => hlive.asked other held (Assoc.mem_erase.1 hmem).1 }
    have hdone : Live { s with asked := Assoc.erase operation s.asked } limit coming := by
      refine herased.tail (by simp) fun other answer heq held hmem => ?_
      cases heq
      exact (Assoc.mem_erase.1 hmem).2 rfl
    cases result with
    | ok answer => exact hdone.congr (respond_sameWork _ asked.request true _ none)
    | error error => exact hdone.congr (fail_sameWork _ asked.request error)
  · next hnone =>
    refine hlive.tail (by simp) fun other answer heq held hmem => ?_
    cases heq
    rw [hlive.named.asked.find?_of_mem hmem] at hnone
    cases hnone

theorem Live.absorbOne {effect : SessionEffect} (hlive : Live s limit ((session, effect) :: coming)) :
    Live (s.absorbOne session effect).1 limit coming := by
  cases effect with
  | link effect =>
    cases effect with
    | told notification =>
      have hrest := hlive.tail (by simp) (by simp)
      unfold Server.absorbOne
      dsimp only
      split
      · next launch hfound =>
        exact hrest.change (Assoc.mem_of_find? hfound) (fun _ => id) (fun _ => id) rfl (.inl rfl)
      · exact hrest
    | dialed dial result => exact hlive.answerLaunch
    | wrote stream bytes => exact hlive.tail (by simp) (by simp)
    | answered number result => exact hlive.tail (by simp) (by simp)
    | hungUp stream => exact hlive.tail (by simp) (by simp)
  | asked operation request => exact hlive.tail (by simp) (by simp)
  | replied operation reply => exact hlive.tail (by simp) (by simp)
  | ended operation result => exact hlive.answerOperation
  | told news => exact (hlive.tail (by simp) (by simp)).congr (tellNews_sameWork s news)

theorem Live.absorb {effects : List SessionEffect} (hlive : Live s limit (effects.map (session, ·))) :
    Live (s.absorb session effects).1 limit [] := by
  induction effects generalizing s with
  | nil => exact hlive
  | cons effect rest ih => exact ih hlive.absorbOne

/-! ## Steps of a session -/

/-- A session takes a step that forgets no operation. -/
theorem Live.advance (hlive : Live s limit []) (hmem : (session, launch) ∈ s.launches)
    {result : Session × List SessionEffect} (hminds : ∀ room, launch.session.Attended room →
      launch.session.connection.OneDial → room ≤ limit → launch.session.Minds room launch.session.UnderWay result) :
    Live (s.setLaunch session { launch with session := result.1 }) limit (result.2.map (session, ·)) := by
  have hkept := hlive.kept session launch hmem
  obtain ⟨room, hattended, hroom⟩ := hkept.attended
  have hstep := hminds room hattended hkept.oneDial (by omega)
  have hafter := Kept.minds [] hkept rfl hstep hroom
  have hput := hlive.put [] rfl (by simp) hmem result.2 (by rwa [List.append_nil]) fun operation h =>
    hstep.settles operation (h.resolve_right fun ⟨_, hnone⟩ => by cases hnone)
  rwa [List.append_nil] at hput

theorem Live.step (hlive : Live s limit []) {step : Session → Session × List SessionEffect}
    (hminds : ∀ {inner : Session} {room : Nat}, inner.Attended room → inner.connection.OneDial → room ≤ limit →
      inner.Minds room inner.UnderWay (step inner)) :
    Live (s.within session step).1 limit [] := by
  unfold Server.within
  split
  · next launch hfound => exact (hlive.advance (Assoc.mem_of_find? hfound) fun _ => hminds).absorb
  · exact hlive

/-- The first task begins. -/
theorem Live.beginTask (hlive : Live s limit []) {task : Task} (htasks : s.tasks = task :: tasks)
    (step : Session → Session × List SessionEffect)
    (hstep : ∀ launch, (task.session, launch) ∈ s.launches →
      Kept tasks s.slot limit ((step launch.session).2.map (task.session, ·)) task.session
        { launch with session := (step launch.session).1 } ∧
      Session.Settles
        (fun operation => launch.session.UnderWay operation ∨ ∃ what, task = .operation task.session operation what)
        (step launch.session)) :
    Live ({ s with tasks }.within task.session step).1 limit [] := by
  obtain ⟨launch, hmem⟩ := hlive.begins task (htasks ▸ List.mem_cons_self ..)
  obtain ⟨hkept, hsettles⟩ := hstep launch hmem
  have hput := hlive.put [task] htasks (by simp) hmem _ (by rwa [List.append_nil]) fun operation h =>
    hsettles operation (h.imp_right fun ⟨what, htask⟩ => ⟨what, (List.mem_singleton.1 htask).symm⟩)
  rw [List.append_nil] at hput
  unfold Server.within
  rw [show Assoc.find? task.session ({ s with tasks } : Server).launches = some launch from
    hlive.named.launches.find?_of_mem hmem]
  exact hput.absorb

theorem Live.beginConnect (hlive : Live s limit []) (htasks : s.tasks = .connect session :: tasks) :
    Live ({ s with tasks }.within session (·.link (·.dial))).1 limit [] := by
  refine hlive.beginTask htasks _ fun launch hmem => ?_
  have hkept := hlive.kept session launch hmem
  have honce := hlive.once
  rw [htasks] at hkept honce
  refine ⟨hkept.dial (List.nodup_cons.1 honce).1, ?_⟩
  obtain ⟨room, hattended, -⟩ := hkept.attended
  rintro operation (hunderWay | ⟨what, hnone⟩)
  · exact hattended.dial.2 operation hunderWay
  · cases hnone

theorem Live.beginOperation (hlive : Live s limit []) (hlimit : limit < UInt64.size) {operation : Nat}
    {what : Debugger.Operation} (htasks : s.tasks = .operation session operation what :: tasks)
    {step : Session → Session × List SessionEffect}
    (hsubmits : ∀ inner : Session, Session.Submits (inner.move (.prepare operation what)) (step inner)) :
    Live ({ s with tasks }.within session step).1 limit [] := by
  refine hlive.beginTask htasks _ fun launch hmem => ?_
  have hkept := hlive.kept session launch hmem
  rw [htasks] at hkept
  obtain ⟨room, hattended, hroom⟩ := hkept.attended
  have hcount : notBegun session (.operation session operation what :: tasks) = notBegun session tasks + 1 := by
    simp [notBegun]
  have hbegun := (Session.minds_begin hattended hkept.oneDial (by omega) operation what).submits (hsubmits _)
  refine ⟨Kept.minds [_] hkept rfl hbegun (by omega), ?_⟩
  rintro other (hunderWay | ⟨what, htask⟩)
  · exact hbegun.settles other (.inl hunderWay)
  · cases htask
    exact hbegun.settles _ (.inr rfl)

theorem Live.begin (hlive : Live s limit []) (hlimit : limit < UInt64.size) : Live s.begin.1 limit [] := by
  unfold Server.begin
  split
  · exact hlive
  · next htasks => exact hlive.beginConnect htasks
  · next operation what _ htasks =>
    exact hlive.beginOperation hlimit htasks fun inner => inner.start_submits operation what

theorem Live.prepare (hlive : Live s limit []) (hlimit : limit < UInt64.size) : Live s.prepare.1 limit [] := by
  unfold Server.prepare
  split
  · exact hlive
  · next htasks => exact hlive.beginConnect htasks
  · next htasks => exact hlive.beginOperation hlimit htasks fun _ => .inl rfl

theorem Live.relay (hlive : Live s limit []) (session : Nat) : Live (s.relay session).1 limit [] := by
  unfold Server.relay
  split
  · exact hlive
  · next launch hfound =>
    split
    · exact hlive
    · split
      · exact hlive
      · next delivery inbox _ =>
        dsimp only
        have htaken : Live (s.setLaunch session { launch with inbox }) limit [] :=
          hlive.change (Assoc.mem_of_find? hfound) (fun _ => id) (fun _ => id) rfl (.inl rfl)
        have hstopped : Live ((s.setLaunch session { launch with inbox }).setLaunch session
            { launch with inbox, relaying := false }) limit [] :=
          htaken.change (mem_setLaunch_self s session _) (fun _ => id) (fun _ => id) rfl (.inl rfl)
        split
        · exact htaken
        · split
          · exact htaken.congr (output_sameWork _ "console" _)
          · exact htaken
        · split
          · exact htaken.congr (output_sameWork _ "console" _)
          · exact htaken
        · next payload _ =>
          split
          · exact htaken.step fun hattended hone _ => Session.minds_handleEvent hattended hone payload
          · exact hstopped
        · split
          · next error _ =>
            have hsaid := output_sameWork ((s.setLaunch session { launch with inbox }).setLaunch session
              { launch with inbox, relaying := false }) "stderr" s!"Lost connection to debug server: {error}"
            exact hstopped.congr (hsaid.trans (terminate_sameWork _))
          · exact hstopped.congr (terminate_sameWork _)

end

end Server

end DebugBridge.Adapter
