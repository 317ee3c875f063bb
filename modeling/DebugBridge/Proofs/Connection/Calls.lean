import DebugBridge.Connection.Reply
import DebugBridge.Proofs.Connection.Ledger

/-!
# Calls and their answers

Calls are numbered as they begin, and each that ends with a reply ends with its own: the first message with its number
that came after it had begun. What the reply is worth depends on that message alone.
-/

namespace DebugBridge

/-! ## What a message is worth -/

namespace Query

/-- The content of an answer of the query's own kind. -/
def content? : Query → Wire.Event.Payload → Option Answer
  | listFrames _, .listFrames frames => some (.frames frames)
  | evaluate .., .evaluate result => some (.value (result.getD {}))
  | getChildren .., .getChildren children => some (.children children)
  | setBreakpoints _, .setBreakpoints => some .done
  | continueExecution .., .continueExecution => some .done
  | pauseThread _, .pauseThread => some .done
  | startDebugging, .startDebugging => some .done
  | send _, reply => some (.payload reply)
  | _, _ => none

/-- What a message makes of a query: an error is the server's, and what is not of the query's own kind is unexpected. -/
def verdict (query : Query) (event : Wire.Event) : Except CallError Answer :=
  match event.payload with
  | none => .error (.unexpectedResponse query.payload.kind "empty")
  | some (.error text) => .error (.remote text)
  | some reply =>
    match query.content? reply with
    | some answer => .ok answer
    | none => .error (.unexpectedResponse query.payload.kind reply.kind)

/-- What a caller makes of the result it is told is what the message makes of its query. -/
theorem result_bind_answer (query : Query) (event : Wire.Event) :
    (Connection.result query.payload (.ok event)).bind query.answer = query.verdict event := by
  obtain ⟨number, reply⟩ := event
  cases reply with
  | none => rfl
  | some reply => cases query <;> cases reply <;> rfl

end Query

namespace Connection

/-! ## One message -/

/-- A message whose number is not pending does nothing, but for news, which is told. -/
theorem dispatch_of_not_mem (c : Connection) {event : Wire.Event} (hnot : event.number ∉ c.pending) :
    (c.dispatch event).1 = c ∧ (event.number ≠ 0 → (c.dispatch event).2 = []) := by
  unfold dispatch
  split
  · next hnews => exact ⟨rfl, fun hnonzero => absurd hnews hnonzero⟩
  · exact ⟨rfl, fun _ => rfl⟩

/-- A message ends the waiting of the call with its number, and of no other. -/
theorem dispatch_of_mem (c : Connection) {event : Wire.Event} (hnonzero : event.number ≠ 0)
    (hmem : event.number ∈ c.pending) :
    (c.dispatch event).1.pending = c.pending.erase event.number ∧
      ∀ number, Assoc.find? number (c.dispatch event).1.calls = (Assoc.find? number c.calls).map fun call =>
        if number = event.number then { call with outcome := some (.ok event) } else call := by
  unfold dispatch
  rw [if_neg hnonzero, if_pos hmem]
  dsimp only
  split
  · next call hfound =>
    refine ⟨rfl, fun number => ?_⟩
    by_cases hnumber : number = event.number
    · simp only [hnumber, Assoc.find?_insert_self, if_true]
      rw [show Assoc.find? event.number c.calls = some call from hfound]
      rfl
    · simp [hnumber, Assoc.find?_insert_of_ne hnumber, forget]
  · next hgone =>
    refine ⟨rfl, fun number => ?_⟩
    have hgone : Assoc.find? event.number c.calls = none := hgone
    by_cases hnumber : number = event.number
    · simp [hnumber, forget, hgone]
    · simp [hnumber, forget]

/-! ## Whole runs -/

section

variable {c : Connection} {h : List Moment}

theorem Tied.numbers_eq (htied : Tied c h) (hbound : (numbers h).length < UInt64.size) :
    (numbers h).map UInt64.toNat = List.range' 1 (numbers h).length := by
  -- By induction on how many calls have begun; the bound keeps each number from coming round.
  have hcounted : ∀ count, count ≤ (numbers h).length →
      ((List.range count).map nth).map UInt64.toNat = List.range' 1 count := by
    intro count hcount
    induction count with
    | zero => rfl
    | succ count ih =>
      rw [List.range_succ, List.map_append, List.map_append, ih (by omega), List.range'_concat]
      simp only [nth, List.map_cons, List.map_nil, UInt64.toNat_ofNat_of_lt' (show count + 1 < UInt64.size by omega),
        Nat.one_mul, Nat.add_comm]
  have hall := hcounted _ (Nat.le_refl _)
  rw [← htied.counted] at hall
  exact hall

/-- How a call ends, as its caller is told: for a reason on this side, or with what the first message with its number
makes of it. -/
def EndsAsItShould (h : List Moment) (number : UInt64) (answer : Except CallError Wire.Event.Payload) : Prop :=
  ∃ payload between, since number h = some (payload, between) ∧
    ((∃ error, answer = .error error ∧ error.isLocal = true) ∨
      ∃ event, reply? number between = some event ∧ answer = result payload (.ok event))

theorem Tied.answered (htied : Tied c h) {action : Action} {number : UInt64}
    {answer : Except CallError Wire.Event.Payload} (hanswered : .answered number answer ∈ (c.step action).2) :
    (c.step action).2 = [.answered number answer] ∧ (∀ earlier, .did (.answered number earlier) ∉ h) ∧
      EndsAsItShould h number answer := by
  obtain ⟨call, hmore, hfound, -, hend⟩ := (step_callStep c action).answered (did_mem_moments.2 hanswered)
  obtain ⟨after, hcall⟩ := htied.calls number call hfound
  refine ⟨effects_eq_of_moments hmore hanswered, fun earlier hearlier => ?_, call.payload, after, hcall.since, ?_⟩
  · have hgone := (htied.ended number earlier hearlier).2
    rw [hfound] at hgone
    cases hgone
  · rcases hend with ⟨outcome, houtcome, rfl⟩ | hlocal
    · cases outcome with
      | ok event => exact .inr ⟨event, hcall.replied event houtcome, rfl⟩
      | error error =>
        -- The only outcome that is no message is that the connection was closed.
        have hclosed := (hcall.broken error houtcome).1
        exact .inl ⟨error, rfl, by rw [hclosed]; rfl⟩
    · obtain ⟨error, rfl, hlocal, -⟩ := hlocal
      exact .inl ⟨error, rfl, hlocal⟩

end

/-- Calls are numbered 1, 2, 3 and so on as they begin, and their requests carry these numbers. A caller is told once
how its call ended, and unless that is for a reason on this side it is told what the first message with the call's
number makes of it, which depends on nothing else. A message ends the waiting of the one call whose number it carries
if that is pending, and otherwise changes nothing. -/
theorem calls_end_with_their_own_reply (setup : ConnectionSetup) (actions : List Action)
    (hcount : (numbers (history { setup } actions)).length < UInt64.size) :
    let c := (run { setup } actions).1
    let h := history { setup } actions
    ((numbers h).map UInt64.toNat = List.range' 1 (numbers h).length ∧ (numbers h).Nodup ∧ 0 ∉ numbers h) ∧
    (∀ stream bytes, .did (.wrote stream bytes) ∈ h → ∃ number payload, .issued number payload ∈ h ∧
      Wire.frame setup.maxFrameBytes { number, payload := some payload : Wire.Request }.encode = .ok bytes) ∧
    (∀ action number answer, .answered number answer ∈ (c.step action).2 →
      (c.step action).2 = [.answered number answer] ∧ (∀ earlier, .did (.answered number earlier) ∉ h) ∧
        EndsAsItShould h number answer) ∧
    (∀ (query : Query) event, (result query.payload (.ok event)).bind query.answer = query.verdict event) ∧
    (∀ action event, .received event ∈ c.moments action → ∃ incoming,
      (event.number ∉ c.pending → (c.step action).1 = { c with incoming } ∧
        (event.number ≠ 0 → (c.step action).2 = [])) ∧
      (event.number ∈ c.pending → (c.step action).1.pending = c.pending.erase event.number ∧
        event.number ∉ (c.step action).1.pending ∧
        ∀ number, Assoc.find? number (c.step action).1.calls = (Assoc.find? number c.calls).map fun call =>
          if number = event.number then { call with outcome := some (.ok event) } else call)) := by
  intro c h
  obtain ⟨hsound, htied⟩ := ledger setup actions
  have htied : Tied c h := htied hcount
  have hnumbers := htied.numbers_eq hcount
  have hsetup : c.setup = setup := run_setup { setup } actions
  refine ⟨⟨hnumbers, ?_, ?_⟩, ?_, fun action number answer => htied.answered, Query.result_bind_answer, ?_⟩
  · have hnodup : ((numbers h).map UInt64.toNat).Nodup := by
      rw [hnumbers]
      exact List.nodup_range'
    exact List.Pairwise.of_map UInt64.toNat (fun _ _ hne heq => hne (congrArg UInt64.toNat heq)) hnodup
  · exact fun hzero => htied.ne_zero hcount hzero rfl
  · intro stream bytes hwrote
    rw [← hsetup]
    exact htied.wrote stream bytes hwrote
  · intro action event hreceived
    obtain ⟨incoming, hstep⟩ := step_of_received hreceived
    rw [hstep]
    refine ⟨incoming, fun hnot => dispatch_of_not_mem _ hnot, fun hmem => ?_⟩
    have houtstanding := (htied.outstanding (hsound.open_of_mem hmem) _).1 hmem
    have hnonzero := htied.ne_zero hcount (Tied.mem_of_outstanding houtstanding)
    obtain ⟨hpending, hcalls⟩ := dispatch_of_mem { c with incoming } hnonzero hmem
    refine ⟨hpending, ?_, hcalls⟩
    rw [hpending]
    exact htied.nodup.not_mem_erase

/-- Two calls whose replies come in the other order. -/
theorem calls_end_with_their_own_reply_permuted :
    let reply (number : UInt64) (payload : Wire.Event.Payload) := ({ number, payload := some payload } : Wire.Event)
    let bytes := (Wire.putAll 100 [] ([reply 2 (.listFrames []), reply 1 .startDebugging].map Wire.Event.encode)).1
    let actions : List Action := [.dial, .opened 0 0, .attach 0, .issue .startDebugging, .issue (.listFrames 7),
      .transmit 1, .transmit 2, .arrive bytes, .read, .read]
    (numbers (history {} actions)).length < UInt64.size ∧
      EndsAsItShould (history {} actions) 1 (.ok .startDebugging) ∧
      EndsAsItShould (history {} actions) 2 (.ok (.listFrames [])) := by
  intro reply bytes actions
  have hcount : (numbers (history {} actions)).length < UInt64.size := by decide +kernel
  obtain ⟨-, -, hanswered, -⟩ := calls_end_with_their_own_reply {} actions hcount
  have hone : .ok .startDebugging ∈ answersTo 1 ((run {} actions).1.step (.collect 1)).2 := by decide +kernel
  have htwo : .ok (.listFrames []) ∈ answersTo 2 ((run {} actions).1.step (.collect 2)).2 := by decide +kernel
  exact ⟨hcount, (hanswered _ 1 _ (mem_answersTo.1 hone)).2.2, (hanswered _ 2 _ (mem_answersTo.1 htwo)).2.2⟩

end Connection

end DebugBridge
