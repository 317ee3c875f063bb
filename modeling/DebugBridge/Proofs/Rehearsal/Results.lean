import DebugBridge.Proofs.Rehearsal.Dialogue

/-!
# Queries give what the table says

Whatever happens in between, a query ends with what the table gives for it, or it is given up when it has waited as long
as calls may. The server is asked what was put, in order, though it may be behind with queries that were given up. A
dialogue can always be brought to its end, and it does not go on for ever by itself.
-/

namespace DebugBridge.Rehearsal

open Connection (nth)

namespace Dialogue

/-- A dialogue along a schedule, after so many of its steps. -/
def after (d : Dialogue) (schedule : Nat → Action) : Nat → Dialogue
  | 0 => d
  | count + 1 => (d.after schedule count).step (schedule count)

theorem after_add (d : Dialogue) (schedule : Nat → Action) (first second : Nat) :
    d.after schedule (first + second)
      = (d.after schedule first).after (fun index => schedule (first + index)) second := by
  induction second with
  | zero => rfl
  | succ second ih =>
    show (d.after schedule (first + second)).step _ = _
    rw [ih]
    rfl

theorem pass_connection (d : Dialogue) (effects : List Effect) : (d.pass effects).connection = d.connection := by
  induction effects generalizing d with
  | nil => rfl
  | cons effect effects ih =>
    cases effect with
    | answered number result =>
      unfold pass
      split
      · split
        · exact ih _
        · exact ih d
      · exact ih d
    | wrote stream bytes => exact ih _
    | told notification => exact ih d
    | dialed dial result => exact ih d
    | hungUp stream => exact ih d

namespace Situation

section

variable {setup : ConnectionSetup} {answers : CannedAnswers} {queries : List Query} {s : Situation}

/-! ## At rest -/

/-- Where a message can be read, something happens. -/
theorem read_moves {event : Wire.Event} {rest : Bytes}
    (hnext : Wire.next setup.maxFrameBytes Wire.Event.decode s.unread = .message event rest) :
    (s.dialogue setup answers).step .read ≠ s.dialogue setup answers := by
  intro hsame
  have hread : ((s.connection setup answers).read).1.incoming = some { stream := 0, unread := rest } := by
    unfold Connection.read
    simp only [connection, hnext]
    exact (Connection.dispatch_reads _ event).1
  have hincoming := congrArg (fun d : Dialogue => d.connection.incoming) hsame
  have hlink : ((s.dialogue setup answers).step .read).connection = ((s.connection setup answers).read).1 :=
    pass_connection _ _
  simp only [hlink, hread] at hincoming
  -- What was read is no longer unread.
  have hunread : rest = s.unread := by
    simpa [dialogue, connection] using hincoming
  have hshorter := Wire.length_lt_of_next hnext
  rw [hunread] at hshorter
  exact Nat.lt_irrefl _ hshorter

/-- Where nothing more happens, all that was sent has arrived and is answered, and there is nothing left to be read. -/
theorem Sound.settled (hfitting : Fitting setup answers queries) (hsound : s.Sound setup answers queries)
    (hrest : (s.dialogue setup answers).AtRest) : s.handled = s.sent.length ∧ s.saying = [] ∧ s.coming = [] := by
  have hstill : ∀ (time : Nat) (action : Action), action.byItself = true →
      ((s.later time).dialogue setup answers).step action = (s.later time).dialogue setup answers := hrest
  -- What there is to say would be said when it is due.
  have hsaying : s.saying = [] := by
    cases hsaying : s.saying with
    | nil => rfl
    | cons event more =>
      have hevent := hsound.fits event (by rw [hsaying]; exact List.mem_append_right _ List.mem_cons_self)
      have hsay : (served answers (s.sent.take s.handled) s.held s.saying s.resumes).say (s.clock + s.resumes) = _ :=
        say_of_due hsaying (Nat.le_add_left _ _) hevent.2
      have hsame : ((served answers (s.sent.take s.handled) s.held s.saying s.resumes).say (s.clock + s.resumes)).2.saying
          = s.saying :=
        congrArg (fun d : Dialogue => d.server.saying) (hstill s.resumes .say rfl)
      rw [hsay, hsaying] at hsame
      have hshorter := congrArg List.length hsame
      simp at hshorter
  have houtward : s.outward.drop s.outward.length = s.outward :=
    congrArg Dialogue.outward (hstill 0 (.carry s.outward.length) rfl)
  have hinward : s.inward.drop s.inward.length = s.inward :=
    congrArg Dialogue.inward (hstill 0 (.bring s.inward.length) rfl)
  rw [List.drop_length] at houtward hinward
  refine ⟨?_, hsaying, ?_⟩
  · -- A request that has arrived would be taken up.
    rcases @take_served answers (s.clock + 0) s.resumes s.sent s.handled hsound.handled _ _ (hsound.requests_fit hfitting)
      hsound.requests with ⟨-, hall | hmore⟩ | ⟨query, held, hquery, -, htake⟩
    · exact hall
    · exact absurd houtward.symm hmore
    · have hsame : ((served answers (s.sent.take s.handled) s.held s.saying s.resumes).take (s.clock + 0)).requests
          = numbered (s.sent.take s.handled) :=
        congrArg (fun d : Dialogue => d.server.requests) (hstill 0 .take rfl)
      rw [hsaying, htake] at hsame
      have hlonger := congrArg List.length hsame
      simp only [served, length_numbered, List.length_take] at hlonger
      have hindex := (List.getElem?_eq_some_iff.1 hquery).1
      omega
  · -- An event that has arrived would be read.
    have hevents := hsound.events
    rw [← hinward, List.append_nil] at hevents
    cases hcoming : s.coming with
    | nil => rfl
    | cons event more =>
      have hevent := hsound.fits event (by rw [hcoming]; exact List.mem_append_left _ List.mem_cons_self)
      have hnext := Wire.next_frames_cons Wire.Event.decode_encode hevent.lt_size hevent.1 more
      rw [hcoming] at hevents
      rw [← hevents] at hnext
      have hread : (s.dialogue setup answers).step .read = s.dialogue setup answers := hstill 0 .read rfl
      exact absurd hread (read_moves hnext)

/-- Where nothing more happens, every query has its result, and the server has taken up all of them. -/
theorem Sound.finished (hfitting : Fitting setup answers queries) (hsound : s.Sound setup answers queries)
    (hrest : (s.dialogue setup answers).AtRest) : queries = s.asked ∧ s.sent = queries ∧ s.handled = queries.length := by
  obtain ⟨hhandled, hsaying, hcoming⟩ := hsound.settled hfitting hrest
  have hstill : ∀ action : Action, action.byItself = true →
      (s.dialogue setup answers).step action = s.dialogue setup answers := hrest 0
  have hsplit := hsound.split
  have hsent := hsound.sent
  cases hstage : s.stage with
  | idle =>
    cases hqueries : s.rest with
    | nil =>
      rw [hstage, hqueries] at hsplit
      rw [hstage] at hsent
      have hall : queries = s.asked := by simpa [Stage.query?] using hsplit
      have hsame : s.sent = queries := by
        rw [hsent, hall]
        exact List.append_nil _
      exact ⟨hall, hsame, by rw [hhandled, hsame]⟩
    | cons query more =>
      -- The next query could be put.
      have hask := congrArg (fun d : Dialogue => d.queries.length) (hstill .ask rfl)
      rw [step_ask_idle hstage hqueries] at hask
      simp only [dialogue, put, hqueries, List.length_cons] at hask
      omega
  | begun query =>
    have hfirst : queries[s.asked.length]? = some query := by
      rw [hsplit, hstage]
      simp [Stage.query?]
    have hrequest := hfitting.requests _ (Situation.mem_numbered hfirst)
    have hsend := congrArg Dialogue.outward (hstill .transmit rfl)
    rw [step_transmit_begun hstage hsound.handled hrequest] at hsend
    cases Wire.eq_nil_of_frames (List.append_right_eq_self.1 hsend)
  | waiting query since =>
    -- Its reply would still be due or on its way.
    have hreply := ((hsound.waiting query since hstage).due hhandled).1
    rw [hsaying, hcoming] at hreply
    cases hreply
  | replied query since =>
    have hresults := congrArg (fun d => d.results.length) (hstill .collect rfl)
    rw [step_collect_replied hstage] at hresults
    simp [dialogue, Situation.done] at hresults

/-! ## Coming to rest -/

theorem closer_wellFounded : WellFounded Closer :=
  InvImage.wf ahead (Prod.lex ⟨_, Nat.lt_wfRel.wf⟩ (Prod.lex ⟨_, Nat.lt_wfRel.wf⟩ (Prod.lex ⟨_, Nat.lt_wfRel.wf⟩
    (Prod.lex ⟨_, Nat.lt_wfRel.wf⟩ (Prod.lex ⟨_, Nat.lt_wfRel.wf⟩ ⟨_, Nat.lt_wfRel.wf⟩))))).wf

theorem leads_of_byItself (hfitting : Fitting setup answers queries) (hsound : s.Sound setup answers queries)
    {action : Action} (hitself : action.byItself = true) :
    LeadsTo setup answers queries s ((s.dialogue setup answers).step action) := by
  apply hsound.leads hfitting
  · rintro payload rfl
    cases hitself
  · rintro time rfl
    cases hitself

/-- Whatever has happened, the dialogue can go on until nothing more happens, without anybody giving up. -/
theorem Sound.comes_to_rest (hfitting : Fitting setup answers queries) (hsound : s.Sound setup answers queries) :
    ∃ more : List Action, (∀ action ∈ more, action.byItself = true ∨ ∃ time, action = .wait time) ∧
      ((s.dialogue setup answers).run more).AtRest := by
  induction s using closer_wellFounded.induction with
  | _ s ih =>
    by_cases hrest : (s.dialogue setup answers).AtRest
    · refine ⟨[], ?_, hrest⟩
      intro action hmem
      cases hmem
    · -- Some step does something at some time, and with what it leaves there is less ahead.
      obtain ⟨time, hrest⟩ := Classical.not_forall.1 hrest
      obtain ⟨action, hrest⟩ := Classical.not_forall.1 hrest
      obtain ⟨hitself, hmoves⟩ := Classical.not_imp.1 hrest
      obtain ⟨s', hstep, hsound', rfl | hcloser⟩ := leads_of_byItself hfitting (hsound.later time) hitself
      · exact absurd hstep hmoves
      · obtain ⟨more, hall, hmore⟩ := ih s' hcloser hsound'
        refine ⟨.wait time :: action :: more, ?_, ?_⟩
        · intro other hother
          rcases List.mem_cons.1 hother with rfl | hother
          · exact .inr ⟨time, rfl⟩
          · rcases List.mem_cons.1 hother with rfl | hother
            · exact .inl hitself
            · exact hall other hother
        · show (((((s.later time).dialogue setup answers).step action).run more)).AtRest
          rw [hstep]
          exact hmore

/-- Along a schedule without unasked news, a dialogue stays as it is but for the time, or there is less ahead at some
point. -/
theorem Sound.stays_or_moves (hfitting : Fitting setup answers queries) (hsound : s.Sound setup answers queries)
    {schedule : Nat → Action} (hunasked : ∀ index payload, schedule index ≠ .emit payload) (count : Nat) :
    (∃ time, (s.dialogue setup answers).after schedule count = (s.later time).dialogue setup answers) ∨
      ∃ first s', (s.dialogue setup answers).after schedule first = Situation.dialogue setup answers s' ∧
        s'.Sound setup answers queries ∧ s'.Closer s := by
  induction count with
  | zero => exact .inl ⟨0, rfl⟩
  | succ count ih =>
    rcases ih with ⟨time, hsame⟩ | hmoved
    · have hnext : (s.dialogue setup answers).after schedule (count + 1)
          = ((s.later time).dialogue setup answers).step (schedule count) := by
        show ((s.dialogue setup answers).after schedule count).step _ = _
        rw [hsame]
      by_cases hwait : ∃ more, schedule count = .wait more
      · obtain ⟨more, hwait⟩ := hwait
        left
        refine ⟨time + more, ?_⟩
        rw [hnext, hwait]
        simp only [Dialogue.step, dialogue, Situation.later, Nat.add_assoc]
        rfl
      · obtain ⟨s', hstep, hsound', rfl | hcloser⟩ :=
          (hsound.later time).leads hfitting (hunasked count) (not_exists.1 hwait)
        · exact .inl ⟨time, hnext.trans hstep⟩
        · exact .inr ⟨count + 1, s', hnext.trans hstep, hsound', hcloser⟩
    · exact .inr hmoved

theorem Sound.stands_still (hfitting : Fitting setup answers queries) (hsound : s.Sound setup answers queries)
    {schedule : Nat → Action} (hunasked : ∀ index payload, schedule index ≠ .emit payload) :
    ∃ index, ∀ count, ∃ time, (s.dialogue setup answers).after schedule (index + count)
      = ((s.dialogue setup answers).after schedule index).step (.wait time) := by
  induction s using closer_wellFounded.induction generalizing schedule with
  | _ s ih =>
    by_cases hmoves : ∃ first s', (s.dialogue setup answers).after schedule first = Situation.dialogue setup answers s' ∧
        s'.Sound setup answers queries ∧ s'.Closer s
    · obtain ⟨first, s', hfirst, hsound', hcloser⟩ := hmoves
      have hunasked' : ∀ index payload, schedule (first + index) ≠ .emit payload := fun index => hunasked (first + index)
      obtain ⟨index, hstill⟩ := ih s' hcloser hsound' hunasked'
      refine ⟨first + index, ?_⟩
      intro count
      obtain ⟨time, hsame⟩ := hstill count
      refine ⟨time, ?_⟩
      rw [Nat.add_assoc, after_add, hfirst, hsame, after_add _ schedule first index, hfirst]
    · refine ⟨0, ?_⟩
      intro count
      rw [Nat.zero_add]
      exact (hsound.stays_or_moves hfitting hunasked count).resolve_right hmoves

end

end Situation

end Dialogue

/-! ## Every way through -/

section

variable {setup : ConnectionSetup} {answers : CannedAnswers} {queries : List Query}

/-- A dialogue comes to a standstill along any schedule on which the server says nothing of its own accord: from some
point on only time passes. -/
theorem dialogues_stand_still (hfitting : Dialogue.Fitting setup answers queries) {actions : List Dialogue.Action}
    (hactions : ∀ action ∈ actions, action.Fits setup) {schedule : Nat → Dialogue.Action}
    (hunasked : ∀ index payload, schedule index ≠ .emit payload) :
    let d := (Dialogue.new setup answers queries).run actions
    ∃ index, ∀ count, ∃ time, d.after schedule (index + count) = (d.after schedule index).step (.wait time) := by
  obtain ⟨hstart, hsound⟩ := Dialogue.Situation.Sound.start setup answers queries
  obtain ⟨s, hrun, hsound⟩ := hsound.run hfitting actions hactions
  rw [hstart, hrun]
  exact hsound.stands_still hfitting hunasked

/-- Results of queries of which none can be given up. -/
theorem results_of_gives {asked : List Query} {results : List Ended}
    (hgives : List.Forall₂ (Dialogue.Gives setup answers) asked results) (hlimit : setup.replyTimeoutMs = none) :
    results.map (·.result) = asked.map answers.outcome := by
  induction hgives with
  | nil => rfl
  | @cons query ended asked results hfirst hrest ih =>
    have hresult : ended.result = answers.outcome query := by
      cases hfirst with
      | answered hresult => exact hresult
      | givenUp hlimited => rw [hlimit] at hlimited; cases hlimited
    rw [List.map_cons, List.map_cons, hresult, ih]

/-- Queries that are put to a canned server one after another give what its table gives for them, or are given up, but
only where calls may not wait for ever, and not before they have waited as long as they may. So they give exactly what
the table gives where nobody gives up.

That is so no matter when and in what pieces bytes arrive, how long the server holds back what it has to say, what news
the queries make, what else the server tells in between, and what replies come too late. At any time the server has been
asked the first so many of the queries, numbered from 1, with all among them that were answered and at most the one under
way besides, and it holds the breakpoints of the last of these that set any. Where nothing more happens by itself, all
queries have their results and the server has been asked all of them; and from everywhere things can go on to there
without anybody giving up. -/
theorem queries_give_what_the_table_gives (setup : ConnectionSetup) (answers : CannedAnswers) (queries : List Query)
    (hfitting : Dialogue.Fitting setup answers queries) (actions : List Dialogue.Action)
    (hactions : ∀ action ∈ actions, action.Fits setup) :
    let d := (Dialogue.new setup answers queries).run actions
    List.Forall₂ (Dialogue.Gives setup answers) (queries.take d.results.length) d.results ∧
      (setup.replyTimeoutMs = none →
        d.results.map (·.result) = (queries.take d.results.length).map answers.outcome) ∧
      (∃ handled ≤ d.results.length + 1,
        d.server.requests = numbered (queries.take handled) ∧ d.server.breakpoints = lastSet (queries.take handled) ∧
        ∀ index ended, d.results[index]? = some ended → ended.result ≠ .error .timeout → index < handled) ∧
      (d.AtRest → d.results.length = queries.length ∧
        d.server.requests = numbered queries ∧ d.server.breakpoints = lastSet queries) ∧
      ∃ more : List Dialogue.Action, (∀ action ∈ more, action.byItself = true ∨ ∃ time, action = .wait time) ∧
        (d.run more).AtRest := by
  intro d
  obtain ⟨hstart, hsound⟩ := Dialogue.Situation.Sound.start setup answers queries
  obtain ⟨s, hrun, hsound⟩ := hsound.run hfitting actions hactions
  have hd : d = s.dialogue setup answers := by
    rw [← hrun, ← hstart]
  have hcount : s.asked.length = s.results.length := hsound.gives.length_eq
  have hasked : queries.take s.results.length = s.asked := by
    rw [hsound.split, ← hcount, List.take_left]
  have hgives : List.Forall₂ (Dialogue.Gives setup answers) (queries.take s.results.length) s.results := by
    rw [hasked]
    exact hsound.gives
  rw [hd]
  refine ⟨hgives, results_of_gives hgives, ?_, ?_, hsound.comes_to_rest hfitting⟩
  · obtain ⟨later, hsplit⟩ := hsound.sent_split
    have hserved : queries.take s.handled = s.sent.take s.handled := by
      rw [hsplit, List.take_append_of_le_length hsound.handled]
    refine ⟨s.handled, ?_, ?_, ?_, hsound.answered⟩
    · have hhandled := hsound.handled
      have hlength := hsound.sent_length
      have hone := s.stage.length_sent_le
      show s.handled ≤ s.results.length + 1
      omega
    · rw [hserved]
      rfl
    · rw [hserved]
      rfl
  · intro hrest
    obtain ⟨hall, hsent, hhandled⟩ := hsound.finished hfitting hrest
    have hserved : s.sent.take s.handled = queries := by
      rw [hsent, hhandled, List.take_length]
    refine ⟨?_, ?_, ?_⟩
    · show s.results.length = queries.length
      rw [← hcount, ← hall]
    · show numbered (s.sent.take s.handled) = _
      rw [hserved]
    · show lastSet (s.sent.take s.handled) = _
      rw [hserved]

/-- Frames that are held back for longer than calls may wait come too late: the caller has given up. The next query gets
its own value all the same, behind the late reply and news that nobody asked for. -/
theorem queries_give_what_the_table_gives_late :
    let setup : ConnectionSetup := { replyTimeoutMs := some 20 }
    let answers : CannedAnswers :=
      { frames := [(1, [{ functionName := "main" }])], evaluations := [("x", .value { label := "x" })],
        framesDelayMs := some 60 }
    let queries : List Query := [.listFrames 1, .evaluate 1 "x"]
    let actions : List Dialogue.Action :=
      [.ask, .transmit, .carry 3, .carry 5, .take, .wait 20, .expire, .ask, .transmit, .carry 11, .wait 39, .say,
        .emit (.threadContinued 1), .wait 1, .say, .take, .say, .bring 5, .bring 50, .read, .read, .read, .collect]
    let d := (Dialogue.new setup answers queries).run actions
    Dialogue.Fitting setup answers queries ∧ (∀ action ∈ actions, action.Fits setup) ∧
      d.results.map (·.result) = [.error .timeout, .ok (.value { label := "x" })] ∧
      List.Forall₂ (Dialogue.Gives setup answers) queries d.results ∧
      ∃ more, (d.run more).AtRest := by
  intro setup answers queries actions d
  have hfitting : Dialogue.Fitting setup answers queries := ⟨by decide, by decide +kernel, by decide +kernel⟩
  have hactions : ∀ action ∈ actions, action.Fits setup := by decide +kernel
  have hresults : d.results.map (·.result) = [.error .timeout, .ok (.value { label := "x" })] := by decide +kernel
  have hall : queries.take d.results.length = queries := by
    rw [← List.length_map (·.result), hresults]
    rfl
  obtain ⟨hgives, -, -, -, more, -, hrest⟩ :=
    queries_give_what_the_table_gives setup answers queries hfitting actions hactions
  exact ⟨hfitting, hactions, hresults, hall ▸ hgives, more, hrest⟩

/-- So what the table gives is not what queries give in every case, even where all messages fit. -/
theorem queries_may_run_out_of_time :
    ¬ ∀ (setup : ConnectionSetup) (answers : CannedAnswers) (queries : List Query) (actions : List Dialogue.Action),
      Dialogue.Fitting setup answers queries → (∀ action ∈ actions, action.Fits setup) →
      let d := (Dialogue.new setup answers queries).run actions
      d.results.map (·.result) = (queries.take d.results.length).map answers.outcome := by
  intro hall
  let setup : ConnectionSetup := { replyTimeoutMs := some 20 }
  let answers : CannedAnswers := { frames := [(1, [{ functionName := "main" }])], framesDelayMs := some 60 }
  let actions : List Dialogue.Action := [.ask, .transmit, .carry 8, .take, .wait 20, .expire]
  have hgives := hall setup answers [.listFrames 1] actions ⟨by decide, by decide +kernel, by decide +kernel⟩
    (by decide +kernel)
  -- The caller has given up, 40 milliseconds before its frames are due.
  have hresults : ((Dialogue.new setup answers [.listFrames 1]).run actions).results.map (·.result)
      = [.error .timeout] := by decide +kernel
  have hone : ((Dialogue.new setup answers [.listFrames 1]).run actions).results.length = 1 := by
    rw [← List.length_map (·.result), hresults]
    rfl
  dsimp only at hgives
  rw [hresults, hone] at hgives
  exact outcome_ne_timeout answers _ (List.cons.inj hgives).1.symm

end

end DebugBridge.Rehearsal
