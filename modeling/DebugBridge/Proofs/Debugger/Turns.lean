import DebugBridge.Debugger.Exchange
import DebugBridge.Proofs.Connection.Ledger
import DebugBridge.Proofs.Connection.Streams
import DebugBridge.Proofs.Debugger.BreakpointSets
import DebugBridge.Proofs.Debugger.Entries
import DebugBridge.Proofs.Debugger.Moves
import DebugBridge.Proofs.Wire.Frames

/-!
# Turns

Only one `setBreakpoints` has its turn at a time, and it keeps that until its call has ended. The invariant `Lined` says
what this is worth: as long as its request is not written, no other can be, so requests to set breakpoints are
written in the order of the turns, and each holds all that was set up to its own turn.
-/

namespace DebugBridge.Debugger

/-! ## What is remembered -/

namespace State

section

variable {s : State}

/-- Apart from `setBreakpoints`, operations do not begin with a change of the breakpoints, and wait for something else
than that they are set. -/
theorem start_breakpoints {what : Operation} (hother : ∀ path breakpoints, what ≠ .setBreakpoints path breakpoints) :
    (s.start what).2.breakpoints = s.breakpoints ∧
      ∀ request waiting, (s.start what).1 = .asks request waiting →
        (∀ breakpoints, request ≠ .setBreakpoints breakpoints) ∧ ∀ lines, waiting ≠ .breakpoints lines := by
  have hkept := (start_adds s what).breakpoints
  cases what with
  | setBreakpoints path breakpoints => exact absurd rfl (hother path breakpoints)
  | scopes frame => exact ⟨hkept, fun request waiting hasks => by cases hasks⟩
  | listVariables reference =>
    refine ⟨hkept, fun request waiting hasks => ?_⟩
    simp only [start, startVariables] at hasks
    split at hasks
    · split at hasks <;> cases hasks
    · split at hasks
      · cases hasks
        simp
      · cases hasks
    · cases hasks
  | evaluate frame expression =>
    refine ⟨hkept, fun request waiting hasks => ?_⟩
    simp only [start] at hasks
    split at hasks
    · cases hasks
      simp
    · cases hasks
  | _ =>
    refine ⟨hkept, fun request waiting hasks => ?_⟩
    cases hasks
    simp

end

end State

/-! ## Beginnings -/

/-- What was not sent before a call begins is not sent after it, and nor is that call. -/
theorem unsent_of_calling {c : Connection} {payload other : Wire.Request.Payload} {number : UInt64}
    (hunsent : (calling c payload).Unsent number other) :
    number = c.nextNumber ∧ other = payload ∨ c.Unsent number other := by
  obtain ⟨call, hfound, hpayload, hsent⟩ := hunsent
  by_cases hnumber : number = c.nextNumber
  · simp only [calling, hnumber, Assoc.find?_insert_self, Option.some.injEq] at hfound
    rw [← hfound] at hpayload
    exact .inl ⟨hnumber, hpayload.symm⟩
  · simp only [calling, Assoc.find?_insert_of_ne hnumber] at hfound
    exact .inr ⟨call, hfound, hpayload, hsent⟩

/-! ## The requests of the turns -/

/-- The request that a turn makes, if it makes one: to set all breakpoints after it. -/
def Turn.request? (turn : Turn) (before : Breakpoints) : Option Wire.Request :=
  turn.number.map fun number =>
    { number
      payload := some (.setBreakpoints (before.set turn.queued.path turn.queued.breakpoints).toWire) }

/-- The requests that turns make, in their order. -/
def requestsOf (before : Breakpoints) : List Turn → List Wire.Request
  | [] => []
  | turn :: turns =>
    (turn.request? before).toList ++ requestsOf (before.set turn.queued.path turn.queued.breakpoints) turns

theorem requestsOf_concat (before : Breakpoints) (turns : List Turn) (turn : Turn) :
    requestsOf before (turns ++ [turn])
      = requestsOf before turns ++ (turn.request? (before.after (turns.map (·.queued)))).toList := by
  induction turns generalizing before with
  | nil => simp [requestsOf, Breakpoints.after]
  | cons first turns ih =>
    rw [List.cons_append, requestsOf, ih, requestsOf, List.append_assoc]
    rfl

/-! ## The numbers of the requests -/

/-- The counter fits the operations that have begun and are not in line, and requests were numbered by it. -/
def Numbered (next : UInt64) (begun waiting : Nat) (made : List Wire.Request) : Prop :=
  ∃ count, next = Connection.nth count ∧ count + waiting ≤ begun ∧
    (∀ request ∈ made, ∃ earlier < count, request.number = Connection.nth earlier) ∧
    (count < UInt64.size → made.Pairwise (·.number ≠ ·.number))

section

variable {next : UInt64} {begun waiting : Nat} {made : List Wire.Request}

theorem Numbered.mono (hnumbered : Numbered next begun waiting made) {begun' waiting' : Nat}
    (hroom : begun + waiting' ≤ begun' + waiting) : Numbered next begun' waiting' made := by
  obtain ⟨count, hnext, hcount, hrest⟩ := hnumbered
  exact ⟨count, hnext, by omega, hrest⟩

/-- A call takes the next number, for a request to set breakpoints or for another. -/
theorem Numbered.issue (hnumbered : Numbered next begun waiting made) {begun' waiting' : Nat}
    (hroom : begun + waiting' < begun' + waiting) {more : List Wire.Request}
    (hmore : more = [] ∨ ∃ payload, more = [{ number := next, payload }]) :
    Numbered (next + 1) begun' waiting' (made ++ more) := by
  obtain ⟨count, rfl, hcount, hearlier, hdistinct⟩ := hnumbered
  have hold : ∀ request ∈ made, ∃ earlier < count + 1, request.number = Connection.nth earlier := by
    intro request hrequest
    obtain ⟨earlier, hlt, hnumber⟩ := hearlier request hrequest
    exact ⟨earlier, by omega, hnumber⟩
  refine ⟨count + 1, Connection.nth_succ count, by omega, ?_, fun hbound => ?_⟩
  · rcases hmore with rfl | ⟨payload, rfl⟩
    · simpa using hold
    · intro request hrequest
      rcases List.mem_append.1 hrequest with hmade | hnew
      · exact hold request hmade
      · rw [List.mem_singleton.1 hnew]
        exact ⟨count, by omega, rfl⟩
  · have hbefore := hdistinct (by omega)
    rcases hmore with rfl | ⟨payload, rfl⟩
    · simpa using hbefore
    · refine List.pairwise_append.2 ⟨hbefore, List.pairwise_singleton _ _, fun request hrequest other hother => ?_⟩
      rw [List.mem_singleton.1 hother]
      obtain ⟨earlier, hlt, hnumber⟩ := hearlier request hrequest
      intro heq
      have := Connection.nth_injective (by omega) (by omega) (hnumber.symm.trans heq)
      omega

end

/-! ## The line -/

/-- A request to set breakpoints. -/
def SetsBreakpoints (request : Wire.Request) : Bool :=
  (breakpointsOf? request).isSome

namespace Exchange

/-- The updates that have had their turns. -/
def updates (e : Exchange) : List Queued :=
  e.turns.map (·.queued)

/-- What was written is a line of requests, in which those to set breakpoints are requests of turns, in their order. One
that is not written yet is the last, and who waits for it has the turn. -/
structure Lined (e : Exchange) (requests : List Wire.Request) : Prop where
  wire : e.wire = Wire.frames Wire.Request.encode requests
  fits : ∀ request ∈ requests, request.encode.length ≤ e.session.connection.setup.maxFrameBytes
  sorted : Assoc.Sorted e.session.running
  named : ∀ operation running, (operation, running) ∈ e.session.running → operation < e.begun
  syncs : ∀ operation, e.session.syncing = some operation → operation < e.begun
  ascending : e.asked.Pairwise (·.operation < ·.operation)
  old : ∀ queued ∈ e.asked, queued.operation < e.begun
  gone : ∀ operation ∈ e.withdrawn, operation < e.begun
  line : e.asked.filter (·.operation ∉ e.withdrawn) = e.updates ++ e.session.queue
  numbered : Numbered e.session.connection.nextNumber e.begun e.session.queue.length (requestsOf {} e.turns)
  remembered : e.session.state.breakpoints = ({} : Breakpoints).after e.updates
  holder : ∀ operation number lines, (operation, ⟨number, .breakpoints lines⟩) ∈ e.session.running →
    e.session.syncing = some operation ∧ ∃ before queued, e.turns = before ++ [⟨queued, some number⟩]
  ordered : (requests.filter SetsBreakpoints).Sublist (requestsOf {} e.turns)
  unsent : ∀ number set, e.session.connection.Unsent number (.setBreakpoints set) →
    ∃ operation lines before, (operation, ⟨number, .breakpoints lines⟩) ∈ e.session.running ∧
      requestsOf {} e.turns = before ++ [{ number, payload := some (.setBreakpoints set) }] ∧
      (requests.filter SetsBreakpoints).Sublist before

section

variable {e : Exchange} {requests : List Wire.Request}

/-- An operation that ends, and whose call is no more, leaves the line as it is, and gives away its turn. -/
theorem Lined.release (hlined : Lined e requests) {operation : Nat} {state : State}
    (hstate : state.breakpoints = e.session.state.breakpoints)
    (hgone : ∀ running, (operation, running) ∈ e.session.running →
      ∀ set, ¬ e.session.connection.Unsent running.number (.setBreakpoints set)) :
    Lined { e with session := { e.session with state }.release operation } requests where
  wire := hlined.wire
  fits := hlined.fits
  sorted := hlined.sorted.erase operation
  named other running hmem := hlined.named other running (Assoc.mem_erase.1 hmem).1
  syncs other hsyncing := by
    simp only [Session.release] at hsyncing
    split at hsyncing
    · cases hsyncing
    · exact hlined.syncs other hsyncing
  ascending := hlined.ascending
  old := hlined.old
  gone := hlined.gone
  line := hlined.line
  numbered := hlined.numbered
  remembered := hstate.trans hlined.remembered
  holder other number lines hmem := by
    obtain ⟨hmem, hne⟩ := Assoc.mem_erase.1 hmem
    obtain ⟨hsyncing, hlast⟩ := hlined.holder other number lines hmem
    refine ⟨?_, hlast⟩
    simp only [Session.release, hsyncing]
    rw [if_neg]
    exact fun heq => hne (Option.some.inj heq)
  ordered := hlined.ordered
  unsent number set hunsent := by
    obtain ⟨other, lines, before, hmem, hlast⟩ := hlined.unsent number set hunsent
    refine ⟨other, lines, before, Assoc.mem_erase.2 ⟨hmem, ?_⟩, hlast⟩
    rintro rfl
    exact hgone _ hmem _ hunsent

/-- A step of the connection that begins no call writes at most one request, and only if that is in line. -/
theorem Lined.connect (hlined : Lined e requests) {action : Connection.Action}
    (hnew : ∀ payload, action ≠ .issue payload) :
    ∃ more, written ((e.session.connection.step action).2.map .link) = Wire.frames Wire.Request.encode more ∧
      Lined { e with
        session := { e.session with connection := (e.session.connection.step action).1 }
        wire := e.wire ++ Wire.frames Wire.Request.encode more } (requests ++ more) := by
  have hstep := Connection.step_callStep e.session.connection action
  have hunsent : ∀ number payload, (e.session.connection.step action).1.Unsent number payload →
      e.session.connection.Unsent number payload :=
    fun number payload => hstep.unsent (Connection.not_issued hnew)
  have hnumbered : Numbered (e.session.connection.step action).1.nextNumber e.begun e.session.queue.length
      (requestsOf {} e.turns) := by
    rw [Connection.nextNumber_eq hnew]
    exact hlined.numbered
  by_cases hwrote : ∃ stream bytes, .wrote stream bytes ∈ (e.session.connection.step action).2
  · obtain ⟨stream, bytes, hmem⟩ := hwrote
    obtain ⟨number, payload, hmoments, hbefore, hafter, hframed⟩ :=
      hstep.wrote_unsent (Connection.did_mem_moments.2 hmem)
    obtain ⟨hsize, rfl⟩ := Wire.eq_of_frame hframed
    refine ⟨[{ number, payload := some payload }], ?_, ?_⟩
    · rw [Connection.effects_eq_of_moments hmoments hmem]
      simp [written, Wire.frames]
    · exact { hlined with
        wire := by rw [hlined.wire, Wire.frames_append]
        fits := by
          rw [hstep.setup_eq]
          intro request hrequest
          rcases List.mem_append.1 hrequest with hold | hnew
          · exact hlined.fits request hold
          · exact List.mem_singleton.1 hnew ▸ hsize
        numbered := hnumbered
        ordered := by
          rw [List.filter_append]
          cases hset : SetsBreakpoints { number, payload := some payload } with
          | false => simpa [hset] using hlined.ordered
          | true =>
            obtain ⟨set, rfl⟩ : ∃ set, payload = .setBreakpoints set := by
              cases payload <;> first | exact ⟨_, rfl⟩ | cases hset
            obtain ⟨_, _, before, -, hlast, hordered⟩ := hlined.unsent number set hbefore
            rw [hlast]
            exact hordered.append (by simp [hset])
        unsent := fun other set hstill => by
          obtain ⟨operation, lines, before, hwaits, hlast, hordered⟩ := hlined.unsent other set (hunsent _ _ hstill)
          refine ⟨operation, lines, before, hwaits, hlast, ?_⟩
          -- What is written now is another request, but two that set breakpoints cannot both be the last.
          cases hset : SetsBreakpoints { number, payload := some payload } with
          | false => simpa [List.filter_append, hset] using hordered
          | true =>
            obtain ⟨set', rfl⟩ : ∃ set, payload = .setBreakpoints set := by
              cases payload <;> first | exact ⟨_, rfl⟩ | cases hset
            obtain ⟨_, _, before', -, hlast', -⟩ := hlined.unsent number set' hbefore
            have hsame := List.append_inj_right' (hlast.symm.trans hlast') rfl
            simp only [List.cons.injEq, Wire.Request.mk.injEq, and_true] at hsame
            exact absurd (hsame.1 ▸ hstill) (hafter _) }
  · have hnone : written ((e.session.connection.step action).2.map .link) = [] := by
      unfold written
      rw [List.flatMap_map, List.flatMap_eq_nil_iff]
      intro effect heffect
      cases effect with
      | wrote stream bytes => exact absurd ⟨stream, bytes, heffect⟩ hwrote
      | _ => rfl
    refine ⟨[], hnone, ?_⟩
    simp only [Wire.frames, List.flatMap_nil, List.append_nil]
    exact { hlined with
      fits := by rw [hstep.setup_eq]; exact hlined.fits
      numbered := hnumbered
      unsent := fun number set hstill => hlined.unsent number set (hunsent _ _ hstill) }

/-- What the server does is no concern of the line. -/
theorem Lined.elsewhere (hlined : Lined e requests) (server : DebugServer) (coming : Bytes) :
    Lined { e with server, coming } requests :=
  { hlined with }

/-- The session has moved, and has written some requests with that. -/
theorem Lined.pass {moved : Session × List SessionEffect} {more : List Wire.Request}
    (hwritten : written moved.2 = Wire.frames Wire.Request.encode more)
    (hlined : Lined { e with session := moved.1, wire := e.wire ++ Wire.frames Wire.Request.encode more } requests) :
    Lined (e.pass moved) requests := by
  unfold Exchange.pass
  rw [hwritten]
  exact hlined.elsewhere _ _

theorem Lined.pass_silent {moved : Session × List SessionEffect} (hwritten : written moved.2 = [])
    (hlined : Lined { e with session := moved.1 } requests) : Lined (e.pass moved) requests := by
  unfold Exchange.pass
  simp only [hwritten, List.append_nil]
  exact hlined.elsewhere _ _

/-- A step of the connection, with what it does to the operation that it answers. -/
theorem Lined.link (hlined : Lined e requests) {action : Connection.Action}
    (hnew : ∀ payload, action ≠ .issue payload) :
    ∃ more, written (e.session.link (·.step action)).2 = Wire.frames Wire.Request.encode more ∧
      Lined (e.pass (e.session.link (·.step action))) (requests ++ more) := by
  obtain ⟨more, hwritten, hconnected⟩ := hlined.connect hnew
  refine ⟨more, ?_⟩
  rcases e.session.link_cases action with ⟨answer, operation, running, heffects, hmem, hlink⟩ | ⟨-, hlink⟩
  · -- The call that is answered is no more.
    have hanswered := (Connection.step_callStep e.session.connection action).answered
      (Connection.did_mem_moments.2 (heffects ▸ List.mem_singleton_self _))
    obtain ⟨call, -, -, hgone, -⟩ := hanswered
    have hreleased := @Lined.release _ _ hconnected operation _
      (State.finish_adds _ e.session.files e.session.root running.waiting answer).breakpoints (by
        rintro other hother set ⟨found, hfound, -⟩
        obtain rfl := hlined.sorted.unique hmem hother
        rw [hgone] at hfound
        cases hfound)
    rw [heffects] at hwritten
    rw [hlink]
    exact ⟨hwritten, hreleased.pass hwritten⟩
  · rw [hlink]
    exact ⟨hwritten, hconnected.pass hwritten⟩

/-! ## Beginnings -/

/-- Another operation has begun, with nothing to set. -/
theorem Lined.later (hlined : Lined e requests) : Lined { e with begun := e.begun + 1 } requests :=
  { hlined with
    named := fun operation running hmem => Nat.lt_succ_of_lt (hlined.named operation running hmem)
    syncs := fun operation hsyncing => Nat.lt_succ_of_lt (hlined.syncs operation hsyncing)
    old := fun queued hmem => Nat.lt_succ_of_lt (hlined.old queued hmem)
    gone := fun operation hmem => Nat.lt_succ_of_lt (hlined.gone operation hmem)
    numbered := hlined.numbered.mono (by dsimp only; omega) }

/-- A `setBreakpoints` has begun, and waits in line. -/
theorem Lined.enqueue (hlined : Lined e requests) (path : String) (breakpoints : List SourceBreakpoint) :
    Lined { e with
      begun := e.begun + 1
      asked := e.asked ++ [{ operation := e.begun, path, breakpoints }]
      session := { e.session with queue := e.session.queue ++ [{ operation := e.begun, path, breakpoints }] } }
      requests :=
  { hlined.later with
    ascending := by
      refine List.pairwise_append.2 ⟨hlined.ascending, List.pairwise_singleton _ _, fun queued hmem other hother => ?_⟩
      rw [List.mem_singleton.1 hother]
      exact hlined.old queued hmem
    old := fun queued hmem => by
      rcases List.mem_append.1 hmem with hold | hnew
      · exact Nat.lt_succ_of_lt (hlined.old queued hold)
      · rw [List.mem_singleton.1 hnew]
        exact Nat.lt_succ_self _
    line := by
      have hnew : e.begun ∉ e.withdrawn := fun hmem => Nat.lt_irrefl _ (hlined.gone _ hmem)
      rw [List.filter_append, hlined.line, List.append_assoc]
      simp [hnew, updates]
    numbered := hlined.numbered.mono (by simp only [List.length_append, List.length_singleton]; omega) }

theorem prepare_written (s : Session) (operation : Nat) (what : Operation) :
    written (s.prepare operation what).2 = [] := by
  unfold Session.prepare
  split
  · rfl
  · split <;> rfl

/-- An operation other than `setBreakpoints` begins. -/
theorem Lined.begin_other (hlined : Lined e requests) {what : Operation}
    (hother : ∀ path breakpoints, what ≠ .setBreakpoints path breakpoints) :
    Lined { e with begun := e.begun + 1, session := (e.session.prepare e.begun what).1 } requests := by
  obtain ⟨hbreakpoints, hasks⟩ := @State.start_breakpoints e.session.state what hother
  rcases e.session.prepare_cases e.begun what with ⟨state, -, -, hprepared⟩ | ⟨request, waiting, hstart, -, hprepared⟩
  · have hstate := congrArg State.breakpoints (e.session.prepare_state e.begun what)
    rw [hprepared] at hstate ⊢
    have hreleased := @Lined.release _ _ hlined e.begun state (hstate.trans hbreakpoints) fun running hmem =>
      absurd (hlined.named _ running hmem) (Nat.lt_irrefl _)
    exact hreleased.later
  · obtain ⟨hrequest, hwaiting⟩ := hasks request waiting hstart
    rw [hprepared]
    exact { hlined.later with
      sorted := hlined.sorted.insert _ _
      named := fun operation running hmem => by
        rcases Assoc.mem_insert hmem with heq | hold
        · cases heq
          exact Nat.lt_succ_self _
        · exact Nat.lt_succ_of_lt (hlined.named operation running hold)
      numbered := by
        have hissued : Numbered (e.session.connection.nextNumber + 1) (e.begun + 1) e.session.queue.length
            (requestsOf {} e.turns ++ []) := hlined.numbered.issue (by omega) (.inl rfl)
        rwa [List.append_nil] at hissued
      remembered := hbreakpoints.trans hlined.remembered
      holder := fun operation number lines hmem => by
        rcases Assoc.mem_insert hmem with heq | hold
        · cases heq
          exact absurd rfl (hwaiting lines)
        · exact hlined.holder operation number lines hold
      unsent := fun number set hunsent => by
        rcases unsent_of_calling hunsent with ⟨-, heq⟩ | hold
        · exact absurd heq.symm (hrequest set)
        · obtain ⟨operation, lines, before, hmem, hlast⟩ := hlined.unsent number set hold
          -- The new operation has a name of its own.
          have hne : operation ≠ e.begun := Nat.ne_of_lt (hlined.named _ _ hmem)
          exact ⟨operation, lines, before, Assoc.mem_insert_of_mem hmem hne, hlast⟩ }

/-- No `setBreakpoints` waits for its reply while nobody has the turn. -/
theorem Lined.none_waiting (hlined : Lined e requests) (hfree : e.session.syncing = none) (operation : Nat)
    (number : UInt64) (lines : List Int32) : (operation, ⟨number, .breakpoints lines⟩) ∉ e.session.running := by
  intro hmem
  have hsyncing := (hlined.holder operation number lines hmem).1
  rw [hfree] at hsyncing
  cases hsyncing

/-- A `setBreakpoints` gets its turn, from the front of the line or at once. -/
theorem Lined.turn (hlined : Lined e requests) (hfree : e.session.syncing = none) {queued : Queued}
    {asked queue : List Queued} {begun : Nat} (hbegun : e.begun ≤ begun)
    (hascending : asked.Pairwise (·.operation < ·.operation)) (hold : ∀ other ∈ asked, other.operation < begun)
    (hline : asked.filter (·.operation ∉ e.withdrawn) = e.updates ++ queued :: queue)
    (hroom : e.begun + queue.length < begun + e.session.queue.length) :
    let s : Session := { e.session with syncing := some queued.operation, queue }
    Lined ({ e with asked, begun }.passTurn queued
      (s.prepare queued.operation (.setBreakpoints queued.path queued.breakpoints))) requests := by
  intro s
  have hunsent : ∀ number set, ¬ e.session.connection.Unsent number (.setBreakpoints set) := by
    intro number set hunsent
    obtain ⟨operation, lines, before, hmem, -⟩ := hlined.unsent number set hunsent
    exact hlined.none_waiting hfree _ _ _ hmem
  have hop : queued.operation < begun := by
    have hmem : queued ∈ asked.filter (·.operation ∉ e.withdrawn) := by
      rw [hline]
      exact List.mem_append_right _ List.mem_cons_self
    exact hold _ (List.mem_filter.1 hmem).1
  -- What is remembered of the turn does not depend on whether its call got a number.
  have hupdates : ∀ number, (e.turns ++ [Turn.mk queued number]).map Turn.queued = e.updates ++ [queued] := by
    simp [updates]
  have hline' : ∀ number, asked.filter (·.operation ∉ e.withdrawn)
      = (e.turns ++ [Turn.mk queued number]).map Turn.queued ++ queue := by
    intro number
    rw [hline, hupdates, List.append_assoc]
    rfl
  have hremembered : ∀ number, e.session.state.breakpoints.set queued.path queued.breakpoints
      = ({} : Breakpoints).after ((e.turns ++ [Turn.mk queued number]).map Turn.queued) := by
    intro number
    rw [hupdates, Breakpoints.after_concat, hlined.remembered]
  have hnone : requestsOf {} (e.turns ++ [Turn.mk queued none]) = requestsOf {} e.turns := by
    rw [requestsOf_concat, Turn.request?, Option.map_none, Option.toList_none, List.append_nil]
  have hsome : ∀ number, requestsOf {} (e.turns ++ [Turn.mk queued (some number)]) = requestsOf {} e.turns ++
      [{ number
         payload := some (.setBreakpoints
           (e.session.state.breakpoints.set queued.path queued.breakpoints).toWire) }] := by
    intro number
    rw [requestsOf_concat, Turn.request?, hlined.remembered]
    rfl
  -- The turn as it would be had it come and gone without a call.
  have hturned : Lined { e with
      asked, begun
      turns := e.turns ++ [Turn.mk queued none]
      session := { e.session with
        queue
        state := (e.session.state.start (.setBreakpoints queued.path queued.breakpoints)).2 } } requests :=
    { hlined with
      named := fun operation running hmem => Nat.lt_of_lt_of_le (hlined.named operation running hmem) hbegun
      syncs := fun operation hsyncing => Nat.lt_of_lt_of_le (hlined.syncs operation hsyncing) hbegun
      ascending := hascending
      old := hold
      gone := fun operation hmem => Nat.lt_of_lt_of_le (hlined.gone operation hmem) hbegun
      line := hline' none
      numbered := hnone ▸ hlined.numbered.mono (by dsimp only; omega)
      remembered := hremembered none
      holder := fun operation number lines hmem => absurd hmem (hlined.none_waiting hfree operation number lines)
      ordered := hnone ▸ hlined.ordered
      unsent := fun number set hstill => absurd hstill (hunsent number set) }
  unfold passTurn Exchange.pass
  rw [prepare_written]
  simp only [List.append_nil]
  rcases s.prepare_cases queued.operation (.setBreakpoints queued.path queued.breakpoints) with
    ⟨state, -, -, hprepared⟩ | ⟨request, waiting, hstart, -, hprepared⟩
  · have hstate := congrArg State.breakpoints
      (s.prepare_state queued.operation (.setBreakpoints queued.path queued.breakpoints))
    rw [hprepared] at hstate ⊢
    simp only [Session.release, Assoc.find?_erase, if_true, Option.map_none]
    have hreleased := @Lined.release _ _ hturned queued.operation state hstate fun running _ => hunsent running.number
    have hreturned : (if s.syncing = some queued.operation then none else s.syncing) = none := if_pos rfl
    rw [hreturned]
    simp only [Session.release, hfree, reduceCtorEq, if_false] at hreleased
    exact hreleased
  · cases hstart
    rw [hprepared]
    simp only [Assoc.find?_insert_self, Option.map_some]
    exact { hturned with
      sorted := hlined.sorted.insert _ _
      named := fun operation running hmem => by
        rcases Assoc.mem_insert hmem with heq | hmem
        · cases heq
          exact hop
        · exact hturned.named operation running hmem
      syncs := fun operation hsyncing => by
        cases hsyncing
        exact hop
      line := hline' _
      numbered := by
        rw [hsome]
        exact hlined.numbered.issue hroom (.inr ⟨_, rfl⟩)
      remembered := hremembered _
      holder := fun operation number lines hmem => by
        rcases Assoc.mem_insert hmem with heq | hmem
        · cases heq
          exact ⟨rfl, e.turns, queued, rfl⟩
        · exact absurd hmem (hlined.none_waiting hfree operation number lines)
      ordered := by
        rw [hsome]
        exact hlined.ordered.trans (List.sublist_append_left _ _)
      unsent := fun number set hstill => by
        rcases unsent_of_calling hstill with ⟨rfl, heq⟩ | hbefore
        · cases heq
          exact ⟨queued.operation, _, _, Assoc.mem_of_find? (Assoc.find?_insert_self _ _ _), hsome _, hlined.ordered⟩
        · exact absurd hbefore (hunsent number set) }

/-! ## Steps -/

/-- A `setBreakpoints` that is dropped while it waits leaves the line. -/
theorem Lined.withdraw (hlined : Lined e requests) (operation : Nat) :
    Lined { e with
      session := { e.session with queue := e.session.queue.filter (·.operation ≠ operation) }
      withdrawn := if e.session.queue.any (·.operation = operation) then operation :: e.withdrawn else e.withdrawn }
      requests := by
  have hroom : (e.session.queue.filter (·.operation ≠ operation)).length ≤ e.session.queue.length :=
    List.length_filter_le _ _
  by_cases hwaits : e.session.queue.any (·.operation = operation) = true
  · obtain ⟨queued, hmem, hname⟩ := List.any_eq_true.1 hwaits
    obtain rfl : queued.operation = operation := by simpa using hname
    have hascending : (e.updates ++ e.session.queue).Pairwise (·.operation < ·.operation) :=
      hlined.line ▸ hlined.ascending.sublist List.filter_sublist
    have hasked : queued ∈ e.asked := by
      have hmem : queued ∈ e.updates ++ e.session.queue := List.mem_append_right _ hmem
      rw [← hlined.line] at hmem
      exact (List.mem_filter.1 hmem).1
    -- What is in line has not had its turn.
    have hkept : e.updates.filter (·.operation ≠ queued.operation) = e.updates := by
      refine List.filter_eq_self.2 fun other hother => ?_
      have hlt := (List.pairwise_append.1 hascending).2.2 other hother queued hmem
      simpa using Nat.ne_of_lt hlt
    simp only [hwaits, if_true]
    exact { hlined with
      gone := fun other hother => by
        rcases List.mem_cons.1 hother with rfl | hold
        · exact hlined.old queued hasked
        · exact hlined.gone other hold
      line := by
        have hfilter := congrArg (List.filter (·.operation ≠ queued.operation)) hlined.line
        rw [List.filter_append, hkept, List.filter_filter] at hfilter
        rw [updates] at hfilter ⊢
        rw [← hfilter]
        refine List.filter_congr fun other _ => ?_
        simp [not_or]
      numbered := hlined.numbered.mono (by dsimp only; omega) }
  · have hsame : e.session.queue.filter (·.operation ≠ operation) = e.session.queue := by
      refine List.filter_eq_self.2 fun other hother => ?_
      by_contra heq
      exact hwaits (List.any_eq_true.2 ⟨other, hother, by simpa using heq⟩)
    simp only [hwaits, hsame]
    exact hlined

theorem Lined.drop (hlined : Lined e requests) (operation : Nat) : Lined (e.drop operation) requests := by
  have hwithdrawn := hlined.withdraw operation
  unfold Exchange.drop Session.drop
  cases hfound : Assoc.find? operation e.session.running with
  | none =>
    refine @Lined.release _ _ hwithdrawn operation _ rfl fun running hmem => ?_
    rw [hlined.sorted.find?_of_mem hmem] at hfound
    cases hfound
  | some running =>
    obtain ⟨more, hwritten, hdropped⟩ := @Lined.connect _ _ hwithdrawn (.dropCall running.number) (by simp)
    obtain rfl := Wire.eq_nil_of_frames hwritten.symm
    rw [List.append_nil] at hdropped
    simp only [Wire.frames, List.flatMap_nil, List.append_nil] at hdropped
    refine @Lined.release _ _ hdropped operation _ rfl fun other hmem => ?_
    obtain rfl := hlined.sorted.unique (Assoc.mem_of_find? hfound) hmem
    rintro set ⟨call, hcall, -⟩
    simp [Connection.step, Connection.dropCall, Assoc.find?_erase] at hcall

theorem Lined.begin (hlined : Lined e requests) (what : Operation) : Lined (e.begin what).1 requests := by
  unfold Exchange.begin
  dsimp only
  split
  · next path breakpoints =>
    have henqueued := hlined.enqueue path breakpoints
    split
    · next hfree =>
      obtain ⟨hsyncing, hqueue⟩ := hfree
      simp only [Session.move, hsyncing, hqueue, and_self, if_true]
      have hline := henqueued.line
      rw [hqueue, List.nil_append] at hline
      exact @Lined.turn _ _ hlined hsyncing { operation := e.begun, path, breakpoints } _ [] _ (Nat.le_succ _)
        henqueued.ascending henqueued.old hline (by rw [List.length_nil]; omega)
    · next hbusy =>
      simp only [Session.move, hbusy, if_false]
      exact henqueued.pass_silent rfl
  · next hother =>
    have hmove : e.session.move (.prepare e.begun what) = e.session.prepare e.begun what := by
      cases what with
      | setBreakpoints path breakpoints => exact absurd rfl (hother path breakpoints)
      | _ => rfl
    rw [hmove]
    exact (hlined.begin_other hother).pass_silent (prepare_written e.session e.begun what)

theorem Lined.takeTurn (hlined : Lined e requests) : Lined e.takeTurn.1 requests := by
  unfold Exchange.takeTurn
  dsimp only
  split
  · next first queue hsyncing hqueue =>
    simp only [Session.move, hsyncing, hqueue]
    exact hlined.turn hsyncing (Nat.le_refl _) hlined.ascending hlined.old (by rw [hlined.line, hqueue])
      (by rw [hqueue, List.length_cons]; omega)
  · exact hlined

theorem Lined.handleEvent (hlined : Lined e requests) (payload : Wire.Event.Payload) :
    Lined (e.pass (e.session.handleEvent payload)) requests := by
  have hbreakpoints : (e.session.state.handleEvent payload).2.breakpoints = e.session.state.breakpoints := by
    rw [State.handleEvent_eq]
  refine Lined.pass_silent rfl ?_
  exact { hlined with remembered := hbreakpoints.trans hlined.remembered }

end

end Exchange

end DebugBridge.Debugger
