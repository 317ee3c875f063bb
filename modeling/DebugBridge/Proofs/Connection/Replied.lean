import DebugBridge.Proofs.Connection.Calls
import DebugBridge.Proofs.Connection.Closing
import DebugBridge.Proofs.Wire.Undeclared

/-!
# Messages of a newer server

What a message holds that is not known here is passed over, and a message that holds nothing else comes out empty. The
connection goes on as before: nobody is told of such a message unless a call waits for it, and then the call ends with
an error of its own. `Due` follows a call from the message that ends its waiting until its caller is told.
-/

namespace DebugBridge.Connection

section

variable {c c' : Connection} {more : List Moment} {number : UInt64}

/-- A number that is pending no more does not become so unless it is given out again. -/
theorem CallStep.not_pending (hstep : CallStep c c' more) (hsettled : number ∉ c.pending)
    (hfresh : number ∉ numbers more) : number ∉ c'.pending := by
  cases hstep with
  | quiet same state silent =>
    rw [same.pending]
    exact hsettled
  | issued payload connected =>
    rw [List.mem_append, not_or]
    exact ⟨hsettled, hfresh⟩
  | sent stream found unsent framed => exact hsettled
  | failed found cause => exact fun hmem => hsettled (List.mem_of_mem_erase hmem)
  | collected found => exact hsettled
  | dropped ended => exact hsettled
  | ignored event same state unawaited silent =>
    rw [same.pending]
    exact hsettled
  | resolved incoming nonzero awaited found => exact fun hmem => hsettled (List.mem_of_mem_erase hmem)
  | resolvedDropped incoming nonzero awaited gone => exact fun hmem => hsettled (List.mem_of_mem_erase hmem)
  | shut wasOpen setup closed state nextNumber pending calls silent =>
    rw [pending]
    exact List.not_mem_nil

/-- A call that is not under way does not come back unless its number is given out again. -/
theorem CallStep.gone (hstep : CallStep c c' more) (hgone : Assoc.find? number c.calls = none)
    (hfresh : number ∉ numbers more) : Assoc.find? number c'.calls = none := by
  cases hafter : Assoc.find? number c'.calls with
  | none => rfl
  | some after =>
    cases hstep.change hafter with
    | begun payload isNext moments eq =>
      rw [moments] at hfresh
      exact absurd List.mem_cons_self hfresh
    | kept before found | replied before event found | broken before found =>
      rw [hgone] at found
      cases found

/-- A call whose number is pending no more keeps its outcome as long as it is under way. -/
theorem CallStep.outcome_eq (hstep : CallStep c c' more) (hsettled : number ∉ c.pending)
    (hfresh : number ∉ numbers more) {after : Call} (hafter : Assoc.find? number c'.calls = some after) :
    ∃ before, Assoc.find? number c.calls = some before ∧ after.payload = before.payload ∧
      after.outcome = before.outcome ∧ (before.sent = true → after.sent = true) := by
  cases hstep.change hafter with
  | begun payload isNext moments eq =>
    rw [moments] at hfresh
    exact absurd List.mem_cons_self hfresh
  | kept before found payload outcome sent strange => exact ⟨before, found, payload, outcome, sent⟩
  | replied before event found payload own awaited => exact absurd awaited hsettled
  | broken before found payload wasOpen closed outcome =>
    -- Closing ends the waiting of those whose numbers are pending only.
    have hcalls := (hstep.closing wasOpen closed).1
    rw [hcalls, find?_failPending, found, Option.map_some, failCall, if_neg hsettled] at hafter
    cases hafter
    exact ⟨after, found, rfl, rfl, id⟩

end

/-! ## A call that is due -/

/-- What becomes of a call after its message has come, and what its caller has been told: it still has to notice, or it
has ended. If its request was sent it ends with what the message makes of it. -/
inductive Due (number : UInt64) (awaiting : Prop) (answer : Except CallError Wire.Event.Payload) (c : Connection) :
    List (Except CallError Wire.Event.Payload) → Prop
  | waits (call : Call) (event : Wire.Event) (found : Assoc.find? number c.calls = some call)
      (outcome : call.outcome = some (.ok event)) (worth : result call.payload (.ok event) = answer)
      (sent : awaiting → call.sent = true) (settled : number ∉ c.pending) : Due number awaiting answer c []
  | ended (told : Except CallError Wire.Event.Payload) (gone : Assoc.find? number c.calls = none)
      (reason : awaiting → told = answer) : Due number awaiting answer c [told]

namespace Due

variable {c : Connection} {number : UInt64} {awaiting : Prop} {answer : Except CallError Wire.Event.Payload}
  {answers : List (Except CallError Wire.Event.Payload)}

theorem step (hdue : Due number awaiting answer c answers) {action : Action} (hkept : action ≠ .dropCall number)
    (hfresh : number ∉ numbers (c.moments action)) :
    Due number awaiting answer (c.step action).1 (answers ++ answersTo number (c.step action).2) := by
  have hstep := step_callStep c action
  cases hdue with
  | waits call event found outcome worth sent settled =>
    have hsettled := hstep.not_pending settled hfresh
    cases hafter : Assoc.find? number (c.step action).1.calls with
    | some after =>
      obtain ⟨before, hbefore, hpayload, houtcome, hsent⟩ := hstep.outcome_eq settled hfresh hafter
      rw [found] at hbefore
      cases hbefore
      rw [answersTo_of_kept hafter]
      refine .waits after event hafter (houtcome.trans outcome) ?_ (fun hawaiting => hsent (sent hawaiting)) hsettled
      rw [hpayload]
      exact worth
    | none =>
      rcases hstep.lost found hafter with ⟨told, hanswered⟩ | hdropped
      · obtain ⟨call', hmoments, hfound, -, hend⟩ := hstep.answered hanswered
        rw [found] at hfound
        cases hfound
        rw [effects_eq_of_moments hmoments (did_mem_moments.1 hanswered), answersTo_singleton]
        refine .ended told hafter ?_
        intro hawaiting
        rcases hend with ⟨ended, hended, rfl⟩ | ⟨error, rfl, -, hunanswered⟩
        · rw [outcome] at hended
          cases hended
          exact worth
        · -- It is too late to time out.
          rw [hunanswered (sent hawaiting)] at outcome
          cases outcome
      · exact absurd (dropped_mem_moments hdropped) hkept
  | ended told gone reason =>
    rw [answersTo_of_gone gone]
    exact .ended told (hstep.gone gone hfresh) reason

theorem run (hdue : Due number awaiting answer c answers) {actions : List Action} (hkept : .dropCall number ∉ actions)
    (hfresh : number ∉ numbers (c.history actions)) :
    Due number awaiting answer (c.run actions).1 (answers ++ answersTo number (c.run actions).2) := by
  induction actions generalizing c answers with
  | nil =>
    rw [Connection.run, show answersTo number [] = [] from rfl, List.append_nil]
    exact hdue
  | cons action actions ih =>
    rw [List.mem_cons, not_or] at hkept
    rw [history, numbers_append, List.mem_append, not_or] at hfresh
    have hone := hdue.step (Ne.symm hkept.1) hfresh.1
    rw [run_cons, answersTo_append, ← List.append_assoc]
    exact ih hone hkept.2 hfresh.2

/-- A call that is given its turns, one to send its request and one to notice its outcome, is over. -/
theorem ended_of_turns (hdue : Due number awaiting answer c answers) :
    ∃ told, answers ++ answersTo number (c.run [.transmit number, .collect number]).2 = [told] ∧
      (awaiting → told = answer) := by
  have hfirst := hdue.step (show Action.transmit number ≠ .dropCall number by simp) (by simp [moments, intake])
  rw [answersTo_turns, ← List.append_assoc]
  generalize answers ++ answersTo number (c.step (.transmit number)).2 = told at hfirst ⊢
  cases hfirst with
  | waits call event found outcome worth sent settled =>
    refine ⟨answer, ?_, fun _ => rfl⟩
    rw [show ∀ c : Connection, c.step (.collect number) = c.collect number from fun _ => rfl,
      collect_of_found found (sent_of_transmit found) outcome, answersTo_singleton, worth]
    rfl
  | ended told gone reason =>
    refine ⟨told, ?_, reason⟩
    rw [answersTo_of_gone gone]
    rfl

end Due

/-! ## A message without payload -/

section

variable {c : Connection} {event : Wire.Event}

/-- A message leaves the calls of other numbers as they were. -/
theorem find?_dispatch_of_ne (hnonzero : event.number ≠ 0) (hmem : event.number ∈ c.pending) {number : UInt64}
    (hother : number ≠ event.number) :
    Assoc.find? number (c.dispatch event).1.calls = Assoc.find? number c.calls := by
  rw [(c.dispatch_of_mem hnonzero hmem).2 number]
  simp only [if_neg hother, Option.map_id']

/-- A message is the outcome of the call of its number. -/
theorem find?_dispatch (hnonzero : event.number ≠ 0) (hmem : event.number ∈ c.pending) {call : Call}
    (hfound : Assoc.find? event.number c.calls = some call) :
    Assoc.find? event.number (c.dispatch event).1.calls = some { call with outcome := some (.ok event) } := by
  rw [(c.dispatch_of_mem hnonzero hmem).2, hfound, Option.map_some, if_pos rfl]

/-- A message makes the call of its number due. -/
theorem Due.of_dispatch (hnodup : c.pending.Nodup) (hnonzero : event.number ≠ 0) (hmem : event.number ∈ c.pending)
    {call : Call} (hfound : Assoc.find? event.number c.calls = some call) :
    Due event.number (call.sent = true) (result call.payload (.ok event)) (c.dispatch event).1 [] := by
  refine .waits _ event (find?_dispatch hnonzero hmem hfound) rfl rfl id ?_
  rw [(c.dispatch_of_mem hnonzero hmem).1]
  exact hnodup.not_mem_erase

/-- A message that holds nothing leaves a connection where it stood, and nobody is told of it. -/
theorem dispatch_of_empty (hempty : event.payload = none) :
    (c.dispatch event).2 = [] ∧ (c.dispatch event).1.state = c.state ∧ (c.dispatch event).1.closed = c.closed ∧
      (c.dispatch event).1.incoming = c.incoming := by
  unfold dispatch
  split
  · rw [hempty]
    exact ⟨rfl, rfl, rfl, rfl⟩
  · split
    · dsimp only
      split
      · exact ⟨rfl, rfl, rfl, rfl⟩
      · exact ⟨rfl, rfl, rfl, rfl⟩
    · exact ⟨rfl, rfl, rfl, rfl⟩

end

/-- Before the counter comes round a connection fits its history, and no number is given out again. -/
theorem tied_of_later {setup : ConnectionSetup} {actions later : List Action}
    (hbound : (numbers (history { setup } (actions ++ later))).length < UInt64.size) :
    Tied (run { setup } actions).1 (history { setup } actions) ∧
      ∀ number ∈ numbers (history { setup } actions), number ∉ numbers ((run { setup } actions).1.history later) := by
  have hnodup := ((ledger setup (actions ++ later)).2 hbound).nodup_numbers hbound
  rw [history_append, numbers_append] at hbound hnodup
  rw [List.length_append] at hbound
  refine ⟨(ledger setup actions).2 (by omega), ?_⟩
  intro number hnumber hagain
  exact (List.nodup_append.1 hnodup).2.2 number hnumber number hagain rfl

/-- Fields that are not declared may stand anywhere between the fields of an event's encoding, or between those of the
messages in it. With any of them put in, the event is read from a frame as it was.

So an event whose only payload is not declared is read as one without payload. It leaves the connection in its state,
and nobody is told of it. With number 0, or one that is not pending, that is all. If its number is pending, the message
is the outcome of the call with this number, and no other call changes. Whatever happens next, if the call is not dropped
and gets its turns then its caller is told once, and if its request was sent this is that the response was unexpected. -/
theorem undeclared_fields_are_passed_over :
    (∀ e : Wire.Event, e.encode.length < UInt64.size → Wire.Grown Wire.Event.layout e.encode e.encode) ∧
    (∀ (number : UInt64) (key : Wire.Key) (field : Bytes), Wire.Event.layout.field key.tag = none →
      Wire.IsField key field →
        Wire.Grown Wire.Event.layout ({ number } : Wire.Event).encode (Wire.writeUInt64 1 number ++ field)) ∧
    (∀ (e : Wire.Event) (limit : Nat) (frame body rest : Bytes), Wire.Grown Wire.Event.layout e.encode body →
      Wire.Carries limit frame body → Wire.next limit Wire.Event.decode (frame ++ rest) = .message e rest) ∧
    ∀ (setup : ConnectionSetup) (actions : List Action) (number : UInt64) (incoming : Incoming) (frame body rest : Bytes),
      let c := (run { setup } actions).1
      let after := (c.step .read).1
      Wire.Grown Wire.Event.layout ({ number } : Wire.Event).encode body →
      Wire.Carries setup.maxFrameBytes frame body → c.incoming = some incoming → incoming.unread = frame ++ rest →
      ((c.step .read).2 = [] ∧ after.state = c.state ∧ after.closed = c.closed ∧
        after.incoming = some { incoming with unread := rest }) ∧
      (number = 0 ∨ number ∉ c.pending → after = { c with incoming := some { incoming with unread := rest } }) ∧
      (number ≠ 0 → number ∈ c.pending → after.pending = c.pending.erase number ∧
        (∀ other, other ≠ number → Assoc.find? other after.calls = Assoc.find? other c.calls) ∧
        ∀ call, Assoc.find? number c.calls = some call →
          Assoc.find? number after.calls = some { call with outcome := some (.ok { number }) } ∧
          ∀ later, .dropCall number ∉ later →
            (numbers (history { setup } (actions ++ .read :: later))).length < UInt64.size →
            ∃ answer,
              answersTo number (c.run (.read :: (later ++ [.transmit number, .collect number]))).2 = [answer] ∧
              (call.sent = true → answer = .error (.unexpectedResponse call.payload.kind "empty"))) := by
  refine ⟨fun e => e.whole, fun number key field => Wire.Event.grown_of_undeclared number,
    fun e limit frame body rest hgrown hcarries => Wire.Event.next_grown hgrown hcarries rest, ?_⟩
  intro setup actions number incoming frame body rest c after hgrown hcarries hincoming hunread
  have hread : c.step .read
      = { c with incoming := some { incoming with unread := rest } }.dispatch { number } := by
    have hsetup : c.setup = setup := run_setup { setup } actions
    have hnext := Wire.Event.next_grown hgrown hcarries rest
    rw [← hunread, ← hsetup] at hnext
    simp only [step, read, hincoming, hnext]
  have hafter : after = ({ c with incoming := some { incoming with unread := rest } }.dispatch { number }).1 := by
    rw [← hread]
  refine ⟨?_, ?_, ?_⟩
  · rw [hafter, hread]
    exact dispatch_of_empty rfl
  · intro hnone
    rw [hafter]
    rcases hnone with rfl | hnot
    · rfl
    · exact (dispatch_of_not_mem _ hnot).1
  · intro hnonzero hmem
    refine ⟨?_, ?_, ?_⟩
    · rw [hafter]
      exact (dispatch_of_mem _ hnonzero hmem).1
    · intro other hother
      rw [hafter]
      exact find?_dispatch_of_ne hnonzero hmem hother
    · intro call hfound
      constructor
      · rw [hafter]
        exact @find?_dispatch { c with incoming := some { incoming with unread := rest } } { number } hnonzero hmem
          call hfound
      · intro later hkept hbound
        obtain ⟨htied, hfresh⟩ := tied_of_later hbound
        have hnodup : c.pending.Nodup := htied.nodup
        have hdue : Due number (call.sent = true) (.error (.unexpectedResponse call.payload.kind "empty")) after [] := by
          rw [hafter]
          exact @Due.of_dispatch { c with incoming := some { incoming with unread := rest } } { number } hnodup
            hnonzero hmem call hfound
        have hfresh' : number ∉ numbers (after.history later) := by
          have hagain := hfresh number (htied.mem_of_found hfound)
          rw [history, numbers_append, List.mem_append, not_or] at hagain
          exact hagain.2
        obtain ⟨answer, htold, hreason⟩ := (hdue.run hkept hfresh').ended_of_turns
        refine ⟨answer, ?_, hreason⟩
        have hsilent : (c.step .read).2 = [] := by
          rw [hread]
          exact (dispatch_of_empty rfl).1
        rw [run_cons, run_append, hsilent]
        simpa only [answersTo_append, List.nil_append] using htold

/-- A call that is answered by a message of a kind that is not known here. -/
theorem undeclared_fields_are_passed_over_by_a_call :
    let body := Wire.writeUInt64 1 1 ++ Wire.writeDelimited 1003 [5]
    let frame := Wire.Varint.write (UInt64.ofNat body.length) ++ body
    let actions : List Action := [.dial, .opened 0 0, .attach 0, .issue .startDebugging, .transmit 1, .arrive frame]
    let c := (run {} actions).1
    Wire.Grown Wire.Event.layout ({ number := 1 } : Wire.Event).encode body ∧
      Wire.Carries ({} : ConnectionSetup).maxFrameBytes frame body ∧
      (c.step .read).2 = [] ∧ (c.step .read).1.state = .connected ∧
      ∃ answer, answersTo 1 (c.run [.read, .transmit 1, .collect 1]).2 = [answer] ∧
        answer = .error (.unexpectedResponse "startDebugging" "empty") := by
  intro body frame actions c
  have hunknown : Wire.IsField ⟨1003, .lengthDelimited⟩ (Wire.writeDelimited 1003 [5]) :=
    ⟨_, _, List.append_assoc _ _ _, Wire.isKey_write (by decide), .lengthDelimited (Wire.spells_length (by decide))⟩
  have hcarries : Wire.Carries ({} : ConnectionSetup).maxFrameBytes frame body :=
    ⟨_, rfl, Wire.spells_length (by decide), by decide⟩
  have hincoming : c.incoming = some { stream := 0, unread := frame } := by decide +kernel
  have hcall : (Assoc.find? 1 c.calls).map (fun call => (call.payload, call.sent, call.outcome))
      = some (.startDebugging, true, none) := by decide +kernel
  have hstate : c.state = .connected := by decide +kernel
  have hmem : 1 ∈ c.pending := by decide +kernel
  have hbound : (numbers (history {} (actions ++ [.read]))).length < UInt64.size := by decide +kernel
  obtain ⟨-, hpayload, -, hread⟩ := undeclared_fields_are_passed_over
  have hgrown := hpayload 1 _ _ rfl hunknown
  obtain ⟨⟨hsilent, hstays, -⟩, -, hends⟩ :=
    hread {} actions 1 _ frame body [] hgrown hcarries hincoming (List.append_nil _).symm
  obtain ⟨-, -, hcalls⟩ := hends (by decide) hmem
  obtain ⟨⟨payload, sent, outcome⟩, hfound, hsame⟩ := Option.map_eq_some_iff.1 hcall
  obtain ⟨rfl, rfl, rfl⟩ : payload = .startDebugging ∧ sent = true ∧ outcome = none := by simpa using hsame
  obtain ⟨answer, htold, hreason⟩ := (hcalls _ hfound).2 [] List.not_mem_nil hbound
  exact ⟨hgrown, hcarries, hsilent, hstays.trans hstate, answer, htold, hreason rfl⟩

end DebugBridge.Connection
