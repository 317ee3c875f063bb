import DebugBridge.Proofs.Connection.Closing
import DebugBridge.Proofs.Connection.Notices
import DebugBridge.Proofs.Connection.Writers

/-!
# What comes after a shutdown

A shutdown may come before a dial, while an attempt opens its stream, while the stream is installed, or while the dial
waits to try again; other shutdowns and the end of the stream may come before it or after it. In any order, it is the end:
no attempt is begun any more, the connection does not come about, that it is gone is told once, requests fail, and the
writer that a late dial has installed is gone once that dial has ended: `a_shutdown_is_final`.
-/

namespace DebugBridge.Connection

/-! ## Who ends whose dial -/

/-- The dials under way are among those that began, and one that has ended is not under way. -/
structure Numbered (c : Connection) (effects : List Effect) : Prop where
  begun : ∀ dial stage, Assoc.find? dial c.dials = some stage → dial < c.dialed
  ended : ∀ dial ending, .dialed dial ending ∈ effects → dial < c.dialed ∧ Assoc.find? dial c.dials = none

/-- A dial that came too late has not ended: it takes back the writer first, unless it is dropped. -/
def Owing (c : Connection) (effects : List Effect) (dial : Nat) : Prop :=
  dial < c.dialed ∧ (∀ ending, .dialed dial ending ∉ effects) ∧
    (Assoc.find? dial c.dials = some .discarding ∨ Assoc.find? dial c.dials = none)

/-- After a shutdown, someone who has still to end takes the writer away, if there is one. -/
structure Clears (c : Connection) (effects : List Effect) : Prop where
  closed : c.closed = true
  writer : c.writer ≠ none → c.leaving ≠ 0 ∨ ∃ dial, Owing c effects dial

section

variable {c : Connection} {effects : List Effect}

theorem Numbered.fresh (setup : ConnectionSetup) : Numbered { setup } [] :=
  ⟨fun _ _ hfound => by simp at hfound, fun _ _ hmem => by cases hmem⟩

/-- A step after which no other dial is under way than before, and those that are told of have ended. -/
theorem Numbered.shrink {c' : Connection} {more : List Effect} (hnumbered : Numbered c effects)
    (hdialed : c.dialed ≤ c'.dialed)
    (hkept : ∀ dial, Assoc.find? dial c'.dials ≠ none → Assoc.find? dial c.dials ≠ none)
    (hended : ∀ dial ending, .dialed dial ending ∈ more → dial < c'.dialed ∧ Assoc.find? dial c'.dials = none) :
    Numbered c' (effects ++ more) where
  begun dial stage hfound := by
    obtain ⟨before, hbefore⟩ := Option.ne_none_iff_exists'.1 (hkept dial (by simp [hfound]))
    exact Nat.lt_of_lt_of_le (hnumbered.begun dial before hbefore) hdialed
  ended dial ending hmem := by
    rcases List.mem_append.1 hmem with hbefore | hnow
    · obtain ⟨hbelow, hnone⟩ := hnumbered.ended dial ending hbefore
      refine ⟨Nat.lt_of_lt_of_le hbelow hdialed, ?_⟩
      by_cases hsome : Assoc.find? dial c'.dials = none
      · exact hsome
      · exact absurd hnone (hkept dial hsome)
    · exact hended dial ending hnow

theorem find?_erase_ne_none {dial other : Nat} {dials : List (Nat × Dial)}
    (hfound : Assoc.find? dial (Assoc.erase other dials) ≠ none) : Assoc.find? dial dials ≠ none := by
  rw [Assoc.find?_erase] at hfound
  split at hfound
  · exact absurd rfl hfound
  · exact hfound

theorem find?_insert_ne_none {dial other : Nat} {before stage : Dial} {dials : List (Nat × Dial)}
    (hother : Assoc.find? other dials = some before)
    (hfound : Assoc.find? dial (Assoc.insert other stage dials) ≠ none) : Assoc.find? dial dials ≠ none := by
  by_cases hself : dial = other
  · simp [hself, hother]
  · rwa [Assoc.find?_insert_of_ne hself] at hfound

/-- A step in which one dial ends. -/
theorem Numbered.erase {c' : Connection} {before : List Effect} {dial : Nat} {ending : Except CallError Unit}
    (hnumbered : Numbered c effects) (hdialed : c.dialed ≤ c'.dialed) (hbelow : dial < c'.dialed)
    (hkept : ∀ other, Assoc.find? other c'.dials ≠ none → Assoc.find? other c.dials ≠ none)
    (hgone : Assoc.find? dial c'.dials = none) (hsilent : ∀ other ending, .dialed other ending ∉ before) :
    Numbered c' (effects ++ (before ++ [.dialed dial ending])) := by
  refine hnumbered.shrink hdialed hkept fun other told hmem => ?_
  rcases List.mem_append.1 hmem with hbefore | hlast
  · exact absurd hbefore (hsilent other told)
  · obtain ⟨rfl, -⟩ : other = dial ∧ told = ending := by simpa using hlast
    exact ⟨hbelow, hgone⟩

theorem Numbered.step (hnumbered : Numbered c effects) (action : Action) :
    Numbered (c.step action).1 (effects ++ (c.step action).2) := by
  have hmove := step_dialMove c action
  generalize (c.step action).1 = c', (c.step action).2 = more at hmove
  have herased : ∀ dial, Assoc.find? dial (Assoc.erase dial c.dials) = none := fun dial => by
    rw [Assoc.find?_erase, if_pos rfl]
  cases hmove with
  | aside apart dials silent =>
    exact hnumbered.shrink (Nat.le_of_eq apart.dialed.symm) (fun dial => dials ▸ id) fun dial ending hmem =>
      absurd hmem (silent dial ending)
  | leaves left silent =>
    exact hnumbered.shrink (Nat.le_refl _) (fun _ => id) fun dial ending hmem => absurd hmem (silent dial ending)
  | begins waits wasOpen =>
    rw [List.append_nil]
    refine ⟨fun dial stage hfound => ?_, fun dial ending hmem => ?_⟩
    · by_cases hself : dial = c.dialed
      · exact hself ▸ Nat.lt_succ_self _
      · rw [Assoc.find?_insert_of_ne hself] at hfound
        exact Nat.lt_succ_of_lt (hnumbered.begun dial stage hfound)
    · obtain ⟨hbelow, hnone⟩ := hnumbered.ended dial ending hmem
      refine ⟨Nat.lt_succ_of_lt hbelow, ?_⟩
      rwa [Assoc.find?_insert_of_ne (Nat.ne_of_lt hbelow)]
  | @refusedAtOnce dials kept error =>
    have hnew : Assoc.find? c.dialed c.dials = none := by
      cases hfound : Assoc.find? c.dialed c.dials with
      | none => rfl
      | some stage => exact absurd (hnumbered.begun _ stage hfound) (Nat.lt_irrefl _)
    refine @Numbered.erase c effects _ [] c.dialed _ hnumbered (Nat.le_succ _) (Nat.lt_succ_self _) ?_ ?_ (by simp)
    · rcases kept with rfl | rfl
      · exact fun _ => id
      · exact fun _ => find?_erase_ne_none
    · rcases kept with rfl | rfl
      · exact hnew
      · exact herased _
  | goesOn found onTime before attempts silent =>
    exact hnumbered.shrink (Nat.le_refl _) (fun _ => find?_insert_ne_none found) fun dial ending hmem =>
      absurd hmem (silent dial ending)
  | late found tooLate =>
    exact hnumbered.shrink (Nat.le_refl _) (fun _ => find?_insert_ne_none found) fun dial ending hmem => by cases hmem
  | @installs dial stream found wasOpen waits =>
    exact @Numbered.erase c effects _ [.told .connected] dial _ hnumbered (Nat.le_refl _)
      (hnumbered.begun dial _ found) (fun _ => find?_erase_ne_none) (herased dial) (by simp)
  | @takesBack dial found =>
    refine hnumbered.erase (Nat.le_refl _) (hnumbered.begun dial _ found) (fun _ => find?_erase_ne_none) (herased dial)
      fun other ending hmem => ?_
    cases hwriter : c.writer <;> simp [hwriter] at hmem
  | givesUp found onTime fails silent error =>
    exact hnumbered.erase (Nat.le_refl _) (hnumbered.begun _ _ found) (fun _ => find?_erase_ne_none) (herased _) silent
  | dropped dial =>
    exact hnumbered.shrink (Nat.le_refl _) (fun _ => find?_erase_ne_none) fun dial ending hmem => by cases hmem

theorem Numbered.run (hnumbered : Numbered c effects) (actions : List Action) :
    Numbered (c.run actions).1 (effects ++ (c.run actions).2) := by
  induction actions generalizing c effects with
  | nil => simpa [Connection.run] using hnumbered
  | cons action actions ih => simpa [run_cons] using ih (hnumbered.step action)

/-! ## Who takes the writer away -/

/-- Who has still to take the writer away goes on owing that while another dial goes on or ends. -/
theorem Owing.aside {c' : Connection} {more : List Effect} {dial : Nat} (howing : Owing c effects dial)
    (hdialed : c.dialed ≤ c'.dialed) (hsilent : ∀ ending, .dialed dial ending ∉ more)
    (hsame : Assoc.find? dial c'.dials = Assoc.find? dial c.dials) : Owing c' (effects ++ more) dial := by
  obtain ⟨hbelow, hnot, hstage⟩ := howing
  refine ⟨Nat.lt_of_lt_of_le hbelow hdialed, fun ending hmem => ?_, hsame ▸ hstage⟩
  rcases List.mem_append.1 hmem with hbefore | hnow
  · exact hnot ending hbefore
  · exact hsilent ending hnow

/-- It is not the one that is found at another stage. -/
theorem Owing.ne {dial other : Nat} {stage : Dial} (howing : Owing c effects dial)
    (hfound : Assoc.find? other c.dials = some stage) (hstage : stage ≠ .discarding) : dial ≠ other := by
  rintro rfl
  rcases howing.2.2 with hlate | hnone
  · exact hstage (Option.some.inj (hfound.symm.trans hlate))
  · rw [hfound] at hnone
    cases hnone

/-- A step that leaves the writer and the shutdowns alone, and all who owe. -/
theorem Clears.aside {c' : Connection} {more : List Effect} (hclears : Clears c effects) (hclosed : c'.closed = true)
    (hwriter : c'.writer = c.writer) (hleaving : c.leaving ≤ c'.leaving)
    (howing : ∀ dial, Owing c effects dial → Owing c' (effects ++ more) dial) : Clears c' (effects ++ more) where
  closed := hclosed
  writer hsome := by
    rcases hclears.writer (hwriter ▸ hsome) with hleft | ⟨dial, hdial⟩
    · exact .inl fun hnone => hleft (Nat.le_zero.1 (hnone ▸ hleaving))
    · exact .inr ⟨dial, howing dial hdial⟩

/-- Where there is no writer, no one owes anything. -/
theorem Clears.cleared {c' : Connection} (hclosed : c'.closed = true) (hnone : c'.writer = none) : Clears c' effects :=
  ⟨hclosed, fun hsome => absurd hnone hsome⟩

theorem Clears.step (hclears : Clears c effects) (hnumbered : Numbered c effects) (action : Action) :
    Clears (c.step action).1 (effects ++ (c.step action).2) := by
  have hmove := step_dialMove c action
  have hclosed := (step_callStep c action).closed_of_closed hclears.closed
  have hnot : c.closed ≠ false := by simp [hclears.closed]
  generalize (c.step action).1 = c', (c.step action).2 = more at hmove hclosed
  cases hmove with
  | aside apart dials silent =>
    exact hclears.aside hclosed apart.writer apart.leaving fun dial howing =>
      howing.aside (Nat.le_of_eq apart.dialed.symm) (silent dial) (by rw [dials])
  | leaves left silent => exact .cleared hclosed rfl
  | begins waits wasOpen => exact absurd wasOpen hnot
  | @refusedAtOnce dials kept error =>
    refine hclears.aside hclosed rfl (Nat.le_refl _) fun dial howing => ?_
    have hne : dial ≠ c.dialed := Nat.ne_of_lt howing.1
    refine howing.aside (Nat.le_succ _) (by simp [hne]) ?_
    rcases kept with rfl | rfl
    · rfl
    · rw [Assoc.find?_erase, if_neg hne]
  | goesOn found onTime before attempts silent =>
    exact hclears.aside hclosed rfl (Nat.le_refl _) fun dial howing =>
      howing.aside (Nat.le_refl _) (silent dial) (Assoc.find?_insert_of_ne (howing.ne found before) _ _)
  | @late dial stream found tooLate =>
    -- The dial is under way, so it has not ended: it will take back its own stream, or another's.
    refine ⟨hclosed, fun _ => .inr ⟨dial, hnumbered.begun dial _ found, fun ending hmem => ?_, .inl ?_⟩⟩
    · rw [List.append_nil] at hmem
      have hnone := (hnumbered.ended dial ending hmem).2
      rw [found] at hnone
      cases hnone
    · exact Assoc.find?_insert_self _ _ _
  | installs found wasOpen waits => exact absurd wasOpen hnot
  | takesBack found => exact .cleared hclosed rfl
  | givesUp found onTime fails silent error =>
    refine hclears.aside hclosed rfl (Nat.le_refl _) fun dial howing => ?_
    have hne := howing.ne found onTime
    refine howing.aside (Nat.le_refl _) (fun ending hmem => ?_) ?_
    · rcases List.mem_append.1 hmem with hbefore | hlast
      · exact silent dial ending hbefore
      · simp [hne] at hlast
    · exact (Assoc.find?_erase _ _ _).trans (if_neg hne)
  | dropped gone =>
    refine hclears.aside hclosed rfl (Nat.le_refl _) fun dial howing => ?_
    obtain ⟨hbelow, hnever, hstage⟩ := howing
    refine ⟨hbelow, by simpa using hnever, ?_⟩
    by_cases hself : dial = gone
    · exact .inr ((Assoc.find?_erase _ _ _).trans (if_pos hself))
    · rw [show Assoc.find? dial (Assoc.erase gone c.dials) = Assoc.find? dial c.dials from
        (Assoc.find?_erase _ _ _).trans (if_neg hself)]
      exact hstage

theorem Clears.run (hclears : Clears c effects) (hnumbered : Numbered c effects) (actions : List Action) :
    Clears (c.run actions).1 (effects ++ (c.run actions).2) := by
  induction actions generalizing c effects with
  | nil => simpa [Connection.run] using hclears
  | cons action actions ih => simpa [run_cons] using ih (hclears.step hnumbered action) (hnumbered.step action)

/-! ## After the shutdown -/

/-- On a closed connection no attempt begins. -/
theorem opening_of_closed (hclosed : c.closed = true) (action : Action) {dial number : Nat}
    (hopening : Assoc.find? dial (c.step action).1.dials = some (.opening number)) :
    Assoc.find? dial c.dials = some (.opening number) := by
  have hmove := step_dialMove c action
  have hnot : c.closed ≠ false := by simp [hclosed]
  have herased : ∀ gone, Assoc.find? dial (Assoc.erase gone c.dials) = some (.opening number) →
      Assoc.find? dial c.dials = some (.opening number) := by
    intro gone hfound
    rw [Assoc.find?_erase] at hfound
    split at hfound
    · cases hfound
    · exact hfound
  have hset : ∀ {other : Nat} {stage : Dial}, (∀ attempt, stage ≠ .opening attempt) →
      Assoc.find? dial (Assoc.insert other stage c.dials) = some (.opening number) →
      Assoc.find? dial c.dials = some (.opening number) := by
    intro other stage hstage hfound
    by_cases hself : dial = other
    · rw [hself, Assoc.find?_insert_self] at hfound
      exact absurd (Option.some.inj hfound) (hstage number)
    · rwa [Assoc.find?_insert_of_ne hself] at hfound
  generalize (c.step action).1 = c', (c.step action).2 = effects at hmove hopening
  cases hmove with
  | aside apart dials silent => exact dials ▸ hopening
  | leaves left silent => exact hopening
  | begins waits wasOpen => exact absurd wasOpen hnot
  | refusedAtOnce kept error =>
    rcases kept with rfl | rfl
    · exact hopening
    · exact herased _ hopening
  | goesOn found onTime before attempts silent =>
    exact hset (fun attempt heq => hnot (attempts attempt heq)) hopening
  | late found tooLate => exact hset (fun attempt => Dial.noConfusion) hopening
  | installs found wasOpen waits => exact absurd wasOpen hnot
  | takesBack found => exact herased _ hopening
  | givesUp found onTime fails silent error => exact herased _ hopening
  | dropped gone => exact herased _ hopening

/-- A closed connection tells neither that it is there nor that it is gone. -/
theorem notices_of_closed (hclosed : c.closed = true) (actions : List Action) :
    .told .connected ∉ (c.run actions).2 ∧ farewells (c.run actions).2 = 0 := by
  constructor
  · induction actions generalizing c with
    | nil => simp [Connection.run]
    | cons action actions ih =>
      rw [run_cons, List.mem_append]
      rintro (hnow | hlater)
      · have htells := step_tells c action
        rw [← mem_notices] at hnow
        generalize notices (c.step action).2 = told at htells hnow
        cases htells with
        | connected dialing wasOpen waited closed state =>
          rw [hclosed] at wasOpen
          cases wasOpen
        | nothing | attemptFailed | news | gone => simp at hnow
      · exact ih ((step_callStep c action).closed_of_closed hclosed) hlater
  · have hcount := farewells_run c actions
    rw [hclosed, closed_of_run hclosed actions] at hcount
    simpa using hcount

/-- What a closed connection still writes are requests that had not been written as it was closed. -/
theorem wrote_of_closed (hsound : Sound c) (hclosed : c.closed = true) (actions : List Action) {stream : StreamId}
    {bytes : Bytes} (hwrote : .wrote stream bytes ∈ (c.run actions).2) :
    ∃ number payload, Unsent c number payload ∧
      Wire.frame c.setup.maxFrameBytes { number, payload := some payload : Wire.Request }.encode = .ok bytes := by
  induction actions generalizing c with
  | nil => cases hwrote
  | cons action actions ih =>
    have hstep := step_callStep c action
    rw [run_cons, List.mem_append] at hwrote
    rcases hwrote with hnow | hlater
    · have hmoment : .did (.wrote stream bytes) ∈ c.moments action :=
        List.mem_append_right _ (List.mem_map_of_mem hnow)
      obtain ⟨number, payload, -, hunsent, -, hframe⟩ := hstep.wrote_unsent hmoment
      exact ⟨number, payload, hunsent, hframe⟩
    · obtain ⟨number, payload, hunsent, hframe⟩ := ih (hsound.step hstep) (hstep.closed_of_closed hclosed) hlater
      refine ⟨number, payload, hstep.unsent (fun begun asked hissued => ?_) hunsent, ?_⟩
      · have hmem : begun ∈ numbers (c.moments action) := List.mem_filterMap.2 ⟨_, hissued, rfl⟩
        rw [hsound.numbers_eq_nil hclosed action] at hmem
        cases hmem
      · rwa [hstep.setup_eq] at hframe

theorem shutdown_closes (c : Connection) :
    (c.step .shutdown).1.closed = true ∧ (c.step .shutdown).1.leaving ≠ 0 :=
  ⟨close_closed c none, Nat.succ_ne_zero _⟩

end

/-- A shutdown is the end, whatever has come `before` it and whatever comes `later`: dials at any stage, other shutdowns,
and the end of the stream.

* No attempt to connect begins after it.
* The connection does not come about any more, and nobody is told that it has.
* In the whole life of the connection it is told once that it is gone.
* When all dials and shutdowns have ended, there is no writer.
* A request fails at once, and what is still written had been asked for, and not written, before the shutdown. -/
theorem a_shutdown_is_final (setup : ConnectionSetup) (before later : List Action) :
    let c := (run { setup } (before ++ [.shutdown])).1
    let result := c.run later
    let effects := (run { setup } (before ++ .shutdown :: later)).2
    (∀ action dial number, Assoc.find? dial (result.1.step action).1.dials = some (.opening number) →
      Assoc.find? dial result.1.dials = some (.opening number)) ∧
    (result.1.state ≠ .connected ∧ .told .connected ∉ result.2) ∧
    farewells effects = 1 ∧
    ((∀ dial < result.1.dialed, ∃ ending, .dialed dial ending ∈ effects) → result.1.leaving = 0 →
      result.1.writer = none) ∧
    (∀ payload, result.1.issue payload = .error .notConnected ∧ result.1.step (.issue payload) = (result.1, [])) ∧
    ∀ stream bytes, .wrote stream bytes ∈ result.2 → ∃ number payload, Unsent c number payload ∧
      Wire.frame setup.maxFrameBytes { number, payload := some payload : Wire.Request }.encode = .ok bytes := by
  intro c result effects
  have hc : c = ((run { setup } before).1.step .shutdown).1 := by
    simp only [c, run_append, run_cons]
    rfl
  have heffects : effects = (run { setup } (before ++ [.shutdown])).2 ++ result.2 := by
    rw [show effects = (run { setup } (before ++ [.shutdown] ++ later)).2 by simp [effects], run_append]
  obtain ⟨hclosed, hleaving⟩ := shutdown_closes (run { setup } before).1
  rw [← hc] at hclosed hleaving
  have hclosed' : result.1.closed = true := closed_of_run hclosed later
  have hsound : Sound c := (ledger setup _).1
  have hsound' : Sound result.1 := hsound.run later
  obtain ⟨hsilent, hgone⟩ := notices_of_closed hclosed later
  refine ⟨fun action dial number => opening_of_closed hclosed' action, ⟨fun hconnected => ?_, hsilent⟩, ?_,
    fun hended hleft => ?_, issue_of_closed hsound' hclosed', fun stream bytes hwrote => ?_⟩
  · rw [hsound'.isOpen hconnected] at hclosed'
    cases hclosed'
  · have hcount := farewells_run { setup } (before ++ [.shutdown])
    rw [show (run { setup } (before ++ [.shutdown])).1.closed = true from hclosed] at hcount
    rw [heffects, farewells_append, hgone]
    simpa using hcount
  · have hnumbered := (Numbered.fresh setup).run (before ++ [.shutdown])
    have hclears := Clears.run ⟨hclosed, fun _ => .inl hleaving⟩ hnumbered later
    rw [List.nil_append, ← heffects] at hclears
    refine Decidable.byContradiction fun hwriter => ?_
    rcases hclears.writer hwriter with hstill | ⟨dial, hbelow, hnever, -⟩
    · exact hstill hleft
    · obtain ⟨ending, hmem⟩ := hended dial hbelow
      exact hnever ending hmem
  · have hframe := wrote_of_closed hsound hclosed later hwrote
    rwa [show c.setup = setup from run_setup { setup } _] at hframe

end DebugBridge.Connection
