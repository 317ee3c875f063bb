import DebugBridge.Proofs.Debugger.Hovers
import DebugBridge.Proofs.Debugger.Sending

/-!
# Operations that fail

Two operations change what is remembered before the server has agreed: one that resumes a thread, and one that sets the
breakpoints of a source. Where the server refuses, or cannot be asked, the operation ends with an error, and that is all:
what was changed before is not taken back. But nothing else is touched either. The other threads are listed as before,
a thread that stops again is listed again, and of the breakpoints those of the one source are the ones that were asked
for: `failures_concern_their_own`.
-/

namespace DebugBridge.Debugger

/-! ## The signs of a thread -/

namespace Sign

variable {history later : List Sign} {id : Int64}

theorem last?_append (history later : List Sign) (id : Int64) :
    last? (history ++ later) id = (last? later id).or (last? history id) := by
  unfold last?
  rw [List.filter_append, List.getLast?_append]

/-- Signs of other threads do not matter. -/
theorem last?_append_of_other (hother : ∀ sign ∈ later, sign.thread ≠ id) :
    last? (history ++ later) id = last? history id := by
  have hnone : later.filter (·.thread = id) = [] :=
    List.filter_eq_nil_iff.2 fun sign hmem => by simpa using hother sign hmem
  rw [last?_append, last?, hnone]
  rfl

end Sign

namespace State

/-- A half of an operation that ends with an error changes nothing. -/
theorem finish_of_error {s : State} {files : FileTree} {root : Option String} {waiting : Waiting}
    {reply : Except CallError Wire.Event.Payload} {error : Error}
    (herror : (s.finish files root waiting reply).1 = .error error) : (s.finish files root waiting reply).2 = s := by
  cases waiting with
  | frames thread epoch =>
    simp only [finish] at herror ⊢
    split at herror
    · rfl
    · split at herror <;> cases herror
  | listing thread epoch =>
    simp only [finish] at herror ⊢
    split at herror
    · rfl
    · split at herror <;> cases herror
  | evaluation thread epoch expression =>
    simp only [finish] at herror ⊢
    split at herror
    · cases herror
    · cases herror
    · rfl
  | _ => rfl

end State

namespace Session

/-! ## The breakpoints of a source -/

/-- The updates of breakpoints that get their turns in these moves. -/
def updates (s : Session) : List Move → List (String × List SourceBreakpoint)
  | [] => []
  | m :: rest => ((s.turn? m).bind (·.2.update?)).toList ++ (s.move m).1.updates rest

section

variable {s : Session} {m : Move} {path : String}

theorem breakpoints_link (s : Session) (action : Connection.Action) :
    (s.link (·.step action)).1.state.breakpoints = s.state.breakpoints := by
  rcases s.link_state action with hsame | ⟨waiting, reply, hended⟩
  · rw [hsame]
  · rw [hended]
    exact (State.finish_adds s.state s.files s.root waiting reply).breakpoints

theorem breakpoints_linkFor (s : Session) (running : Option Running) (action : UInt64 → Connection.Action) :
    (match running with
      | some running => s.link (·.step (action running.number))
      | none => (s, [])).1.state.breakpoints = s.state.breakpoints := by
  cases running with
  | some running => exact breakpoints_link s (action running.number)
  | none => rfl

theorem breakpoints_prepare (s : Session) (operation : Nat) (what : Operation) :
    (s.prepare operation what).1.state.breakpoints = what.remember s.state.breakpoints := by
  rw [prepare_state, start_remembers]

theorem breakpoints_submits {moved result : Session × List SessionEffect} (hsubmits : Submits moved result) :
    result.1.state.breakpoints = moved.1.state.breakpoints := by
  rcases hsubmits with rfl | ⟨operation, rfl⟩
  · rfl
  · exact breakpoints_linkFor moved.1 (Assoc.find? operation moved.1.running) .transmit

/-- What a move makes of the breakpoints. -/
def breakpointsAfter (s : Session) (m : Move) : Breakpoints :=
  match s.turn? m with
  | some (_, what) => what.remember s.state.breakpoints
  | none => s.state.breakpoints

theorem breakpoints_prepareMove (s : Session) (operation : Nat) (what : Operation) :
    (s.move (.prepare operation what)).1.state.breakpoints = s.breakpointsAfter (.prepare operation what) := by
  have hother : what.update? = none → s.breakpointsAfter (.prepare operation what) = what.remember s.state.breakpoints := by
    intro hnone
    simp [breakpointsAfter, turn?, hnone]
  cases what with
  | setBreakpoints path breakpoints =>
    simp only [move, breakpointsAfter, turn?]
    by_cases hline : s.syncing = none ∧ s.queue = []
    · rw [if_pos hline, breakpoints_prepare]
      simp [hline]
    · rw [if_neg hline, if_pos ⟨rfl, hline⟩]
  | _ => exact (breakpoints_prepare s operation _).trans (hother rfl).symm

theorem breakpoints_prepareTurn (s : Session) :
    (s.move .prepareTurn).1.state.breakpoints = s.breakpointsAfter .prepareTurn := by
  simp only [move, breakpointsAfter, turn?]
  cases s.syncing with
  | some operation => rfl
  | none =>
    cases s.queue with
    | nil => rfl
    | cons first queue => exact breakpoints_prepare _ _ _

/-- Breakpoints are set by the turns of those that set them, and by nothing else. -/
theorem breakpoints_move (s : Session) (m : Move) : (s.move m).1.state.breakpoints = s.breakpointsAfter m := by
  cases m with
  | prepare operation what => exact breakpoints_prepareMove s operation what
  | prepareTurn => exact breakpoints_prepareTurn s
  | step action =>
    cases action with
    | start operation what =>
      exact (breakpoints_submits (s.start_submits operation what)).trans (breakpoints_prepareMove s operation what)
    | takeTurn => exact (breakpoints_submits s.takeTurn_submits).trans (breakpoints_prepareTurn s)
    | collect operation => exact breakpoints_linkFor s (Assoc.find? operation s.running) .collect
    | expire operation => exact breakpoints_linkFor s (Assoc.find? operation s.running) .expire
    | drop operation => rfl
    | handleEvent payload =>
      have hsame : (s.state.handleEvent payload).2.breakpoints = s.state.breakpoints := by
        rw [State.handleEvent_eq]
      exact hsame
    | link action => exact breakpoints_link s action

/-- A source for which nothing is set keeps its list. -/
theorem get_move (hother : ∀ update ∈ (s.turn? m).bind (·.2.update?), update.1 ≠ path) :
    (s.move m).1.state.breakpoints.get path = s.state.breakpoints.get path := by
  rw [breakpoints_move, breakpointsAfter]
  cases hturn : s.turn? m with
  | none => rfl
  | some turn =>
    obtain ⟨operation, what⟩ := turn
    rw [hturn] at hother
    simp only [Operation.remember]
    cases hupdate : what.update? with
    | none => rfl
    | some update =>
      obtain ⟨other, breakpoints⟩ := update
      have hne : other ≠ path := hother (other, breakpoints) hupdate
      simp only [Breakpoints.get_set, if_neg hne.symm]

theorem get_moves {moves : List Move} (hother : ∀ update ∈ s.updates moves, update.1 ≠ path) :
    (s.moves moves).1.state.breakpoints.get path = s.state.breakpoints.get path := by
  -- On the moves, from every session on.
  induction moves generalizing s with
  | nil => rfl
  | cons m rest ih =>
    have hone := get_move (s := s) (m := m) fun update hmem =>
      hother update (List.mem_append_left _ (Option.mem_toList.2 hmem))
    exact (ih fun update hmem => hother update (List.mem_append_right _ hmem)).trans hone

/-! ## What ends with an error -/

/-- A step that ends an operation with an error changes nothing that is remembered. -/
theorem link_of_failed {action : Connection.Action} {operation : Nat} {error : Error}
    (hfailed : .ended operation (.error error) ∈ (s.link (·.step action)).2) :
    (s.link (·.step action)).1.state = s.state := by
  rcases s.link_cases action with ⟨answer, owner, running, -, -, hlink⟩ | ⟨-, hlink⟩
  · rw [hlink] at hfailed ⊢
    obtain ⟨-, hresult⟩ : operation = owner ∧
        .error error = (s.state.finish s.files s.root running.waiting answer).1 := by
      simpa [finish] using hfailed
    exact State.finish_of_error hresult.symm
  · rw [hlink]

/-! ## Turns and signs -/

variable {operation : Nat} {what : Operation}

theorem ofMove?_of_begins (hbegins : m.begins? = some (operation, what)) :
    Sign.ofMove? m = Sign.ofOperation? what := by
  rcases Move.begins_cases hbegins with rfl | rfl <;> rfl

theorem turn?_of_resume {thread : Int64} {stepping : Wire.Stepping}
    (hbegins : m.begins? = some (operation, .resume thread stepping)) :
    s.turn? m = some (operation, .resume thread stepping) := by
  rcases Move.begins_cases hbegins with rfl | rfl <;> simp [turn?, Operation.update?]

/-- The turn of an operation that sets breakpoints is a sign of no thread. -/
theorem ofMove?_of_update {breakpoints : List SourceBreakpoint}
    (hturn : s.turn? m = some (operation, .setBreakpoints path breakpoints)) : Sign.ofMove? m = none := by
  have hbegun : ∀ (other : Nat) (what : Operation),
      (if what.update?.isSome ∧ ¬ (s.syncing = none ∧ s.queue = []) then none else some (other, what))
        = some (operation, .setBreakpoints path breakpoints) → Sign.ofOperation? what = none := by
    intro other what heq
    split at heq
    · cases heq
    · cases heq
      rfl
  cases m with
  | prepare other what => exact hbegun other what hturn
  | prepareTurn => rfl
  | step action =>
    cases action with
    | start other what => exact hbegun other what hturn
    | handleEvent payload => cases hturn
    | _ => rfl

end

/-- A session goes by the signs from its start on. -/
theorem recalls_moves (connection : Connection) (files : FileTree) (root : Option String) (moves : List Move) :
    (({ connection, files, root } : Session).moves moves).1.state.Recalls (moves.filterMap Sign.ofMove?) := by
  have hinitial : ({ connection, files, root } : Session).state.Recalls [] := ⟨List.Pairwise.nil, fun _ => rfl⟩
  have hafter := State.recalls_invariant.moves hinitial (Sign.account.whenReading_trivial _ _ moves)
  rwa [Sign.account_after, List.nil_append] at hafter

/-- From the beginning of an operation that resumes it on, whatever the operation ends with, a thread is listed only if it
has stopped again, as it was when it last did. -/
theorem listed_after_resume (connection : Connection) (files : FileTree) (root : Option String)
    (before later : List Move) {m : Move} {operation : Nat} {thread : Int64} {stepping : Wire.Stepping}
    (hbegins : m.begins? = some (operation, .resume thread stepping)) (name : String) :
    { id := thread, name } ∈ (({ connection, files, root } : Session).moves (before ++ m :: later)).1.state.threads ↔
      ∃ pause, Sign.last? (later.filterMap Sign.ofMove?) thread = some (.paused pause) ∧
        name = State.listedName pause := by
  have hrecalls := recalls_moves connection files root (before ++ m :: later)
  have hsign : Sign.ofMove? m = some (.resumed thread) := ofMove?_of_begins hbegins
  have hresumed : Sign.last? (before.filterMap Sign.ofMove? ++ [.resumed thread]) thread = some (.resumed thread) := by
    rw [Sign.last?_concat]
    exact if_pos rfl
  rw [List.filterMap_append, List.filterMap_cons_some hsign, List.append_cons (before.filterMap _)] at hrecalls
  rw [hrecalls.mem_threads, Sign.last?_append, hresumed]
  -- Without a later sign the last one is that it is to go on, which is no pause.
  cases Sign.last? (later.filterMap Sign.ofMove?) thread with
  | none => simp
  | some sign => simp

/-- An operation that fails concerns its own thread or source alone. The step in which it ends with an error changes
nothing that is remembered. If it was to resume a thread, then from its beginning on the other threads are listed as
they were until there is a sign of them, its own thread is listed as it stops again, and no breakpoints change but by
those who set some. If it was to set the breakpoints of a source, then from its turn on these are remembered for that
source, and of the others what was, until somebody sets them; and the threads are listed as they were until there is a
sign of them. -/
theorem failures_concern_their_own (connection : Connection) (files : FileTree) (root : Option String)
    (before later : List Move) (m : Move) (operation : Nat) :
    let s := (({ connection, files, root } : Session).moves before).1
    let s' := (s.moves (m :: later)).1
    let signs := later.filterMap Sign.ofMove?
    let updates := (s.move m).1.updates later
    (∀ action error, .ended operation (.error error) ∈ (s'.link (·.step action)).2 →
      (s'.link (·.step action)).1.state = s'.state) ∧
    (∀ thread stepping, m.begins? = some (operation, .resume thread stepping) →
      (∀ id name, id ≠ thread → (∀ sign ∈ signs, sign.thread ≠ id) →
        ({ id, name } ∈ s'.state.threads ↔ { id, name } ∈ s.state.threads)) ∧
      (∀ pause, Sign.last? signs thread = some (.paused pause) → ∀ name,
        { id := thread, name } ∈ s'.state.threads ↔ name = State.listedName pause) ∧
      ∀ path, (∀ update ∈ updates, update.1 ≠ path) →
        s'.state.breakpoints.get path = s.state.breakpoints.get path) ∧
    ∀ path list, s.turn? m = some (operation, .setBreakpoints path list) →
      (∀ other, (∀ update ∈ updates, update.1 ≠ other) →
        s'.state.breakpoints.get other = if other = path then list else s.state.breakpoints.get other) ∧
      ∀ id name, (∀ sign ∈ signs, sign.thread ≠ id) →
        ({ id, name } ∈ s'.state.threads ↔ { id, name } ∈ s.state.threads) := by
  intro s s' signs updates
  have hrecalls : s.state.Recalls (before.filterMap Sign.ofMove?) := recalls_moves connection files root before
  have hafter : s'.state.Recalls (before.filterMap Sign.ofMove? ++ ((Sign.ofMove? m).toList ++ signs)) := by
    have hall := recalls_moves connection files root (before ++ m :: later)
    rw [moves_append, List.filterMap_append, List.filterMap_cons] at hall
    cases hsign : Sign.ofMove? m <;> rw [hsign] at hall <;> exact hall
  refine ⟨fun action error => link_of_failed, fun thread stepping hbegins => ⟨?_, ?_, ?_⟩,
    fun path list hturn => ⟨?_, ?_⟩⟩
  · intro id name hne hsilent
    rw [hafter.mem_threads, hrecalls.mem_threads, Sign.last?_append_of_other]
    intro sign hmem
    rw [ofMove?_of_begins hbegins] at hmem
    rcases List.mem_append.1 hmem with hown | hlater
    · cases List.mem_singleton.1 hown
      exact hne.symm
    · exact hsilent sign hlater
  · intro pause hlast name
    have hlisted := listed_after_resume connection files root before later hbegins name
    rw [moves_append, hlast] at hlisted
    simpa using hlisted
  · intro path hother
    refine (get_moves hother).trans (get_move fun update hmem => ?_)
    rw [turn?_of_resume hbegins] at hmem
    cases hmem
  · intro other hother
    rw [show s'.state.breakpoints.get other = (s.move m).1.state.breakpoints.get other from get_moves hother,
      breakpoints_move, breakpointsAfter, hturn]
    exact Breakpoints.get_set s.state.breakpoints path other list
  · intro id name hsilent
    rw [hafter.mem_threads, hrecalls.mem_threads, Sign.last?_append_of_other]
    rw [ofMove?_of_update hturn]
    exact hsilent

/-- The server refuses to resume a thread, and to set breakpoints. Another thread is listed and other breakpoints are
remembered as before, in spite of both; and the thread is listed again when it stops. -/
theorem failures_concern_their_own_refused :
    let bytes (number : UInt64) (payload : Wire.Event.Payload) : Bytes :=
      (Wire.putAll 1000 [] [({ number, payload := some payload } : Wire.Event).encode]).1
    let pause (id : Int64) (name : String) : Action := .handleEvent (.threadPaused (some { id, name }))
    let lines : List SourceBreakpoint := [{ line := 3, condition := none }]
    let before : List Move := ([.link .dial, .link (.opened 0 0), .link (.attach 0), pause 7 "main", pause 8 "side",
      .start 0 (.setBreakpoints "/w/a.star" lines), .link (.arrive (bytes 1 .setBreakpoints)), .link .read,
      .collect 0] : List Action).map .step
    let refused : List Move := ([.link (.arrive (bytes 2 (.error "no"))), .link .read] : List Action).map .step
    let s := (({ connection := {} } : Session).moves before).1
    let resume : Move := .step (.start 1 (.resume 7 .none))
    let update : Move := .step (.start 1 (.setBreakpoints "/w/b.star" lines))
    let resumed := (s.moves (resume :: refused)).1
    let set := (s.moves (update :: refused)).1
    let stopping := refused ++ [.step (pause 7 "main")]
    let stopped := (s.moves (resume :: stopping)).1
    (∀ s' ∈ [resumed, set], .ended 1 (.error (.call (.remote "no"))) ∈ (s'.link (·.step (.collect 2))).2 ∧
      (s'.link (·.step (.collect 2))).1.state = s'.state ∧
      { id := 8, name := "side" } ∈ s'.state.threads ∧ s'.state.breakpoints.get "/w/a.star" = lines) ∧
    { id := 7, name := "main" } ∈ stopped.state.threads := by
  intro bytes pause lines before refused s resume update resumed set stopping stopped
  have hs : (({ connection := {} } : Session).moves before).1 = s := rfl
  have hresumed : (s.moves (resume :: refused)).1 = resumed := rfl
  have hset : (s.moves (update :: refused)).1 = set := rfl
  have hstopped : (s.moves (resume :: stopping)).1 = stopped := rfl
  have honResume := failures_concern_their_own {} {} none before refused resume 1
  have honUpdate := failures_concern_their_own {} {} none before refused update 1
  have honStop := failures_concern_their_own {} {} none before stopping resume 1
  dsimp only at honResume honUpdate honStop
  rw [hs, hresumed] at honResume
  rw [hs, hset] at honUpdate
  rw [hs, hstopped] at honStop
  -- No sign of a thread comes with the refusal, and nobody sets breakpoints then.
  have hquiet : ∀ sign ∈ refused.filterMap Sign.ofMove?, sign.thread ≠ 8 := by
    have hnone : refused.filterMap Sign.ofMove? = [] := rfl
    simp [hnone]
  have hupdates : (s.move resume).1.updates refused = [] ∧ (s.move update).1.updates refused = [] := by decide +kernel
  have hside : { id := 8, name := "side" } ∈ s.state.threads := by decide +kernel
  have hlines : s.state.breakpoints.get "/w/a.star" = lines := by decide +kernel
  have hturn : s.turn? update = some (1, .setBreakpoints "/w/b.star" lines) := by decide +kernel
  obtain ⟨hfailed, honResume, -⟩ := honResume
  obtain ⟨hfailedToo, -, honUpdate⟩ := honUpdate
  obtain ⟨hothers, -, hkept⟩ := honResume 7 .none rfl
  obtain ⟨hkeptToo, hothersToo⟩ := honUpdate "/w/b.star" lines hturn
  have hended : .ended 1 (.error (.call (.remote "no"))) ∈ (resumed.link (·.step (.collect 2))).2 := by
    rw [← mem_endingsOf]
    decide +kernel
  have hendedToo : .ended 1 (.error (.call (.remote "no"))) ∈ (set.link (·.step (.collect 2))).2 := by
    rw [← mem_endingsOf]
    decide +kernel
  refine ⟨List.forall_mem_cons.2 ⟨⟨hended, hfailed _ _ hended, (hothers 8 "side" (by decide) hquiet).2 hside, ?_⟩,
    List.forall_mem_singleton.2 ⟨hendedToo, hfailedToo _ _ hendedToo, (hothersToo 8 "side" hquiet).2 hside, ?_⟩⟩, ?_⟩
  · rw [hkept "/w/a.star" (by simp [hupdates.1]), hlines]
  · rw [hkeptToo "/w/a.star" (by simp [hupdates.2]), if_neg (by decide), hlines]
  · have hpause : Sign.last? (stopping.filterMap Sign.ofMove?) 7 = some (.paused { id := 7, name := "main" }) := rfl
    exact ((honStop.2.1 7 .none rfl).2.1 _ hpause "main").2 rfl

/-- A thread whose resume the server refuses is not listed any more, though nothing has been heard of it. And the
breakpoints that the server refuses to set are remembered nevertheless. -/
theorem failures_are_not_taken_back :
    let bytes (number : UInt64) (payload : Wire.Event.Payload) : Bytes :=
      (Wire.putAll 1000 [] [({ number, payload := some payload } : Wire.Event).encode]).1
    let before : List Action := [.link .dial, .link (.opened 0 0), .link (.attach 0),
      .handleEvent (.threadPaused (some { id := 7, name := "main" }))]
    let refused (what : Operation) : List Action := [.start 1 what, .link (.arrive (bytes 1 (.error "no"))),
      .link .read, .collect 1]
    let s := (({ connection := {} } : Session).moves (before.map .step)).1
    let resumed := s.moves ((refused (.resume 7 .none)).map .step)
    let set := s.moves ((refused (.setBreakpoints "/w/a.star" [{ line := 3, condition := none }])).map .step)
    s.state.threads = [{ id := 7, name := "main" }] ∧ s.state.breakpoints.get "/w/a.star" = [] ∧
      endingsOf resumed.2 = [(1, .error (.call (.remote "no")))] ∧ resumed.1.state.threads = [] ∧
      endingsOf set.2 = [(1, .error (.call (.remote "no")))] ∧
      set.1.state.breakpoints.get "/w/a.star" = [{ line := 3, condition := none }] := by
  decide +kernel

end Session

end DebugBridge.Debugger
