import DebugBridge.Proofs.Connection.Streams
import DebugBridge.Proofs.Rehearsal.Situations

/-!
# What a step of a dialogue does

Every step leads from one sound situation to another. Time only lets more happen, and what the server says unasked only
adds to what is to be read. All other steps do nothing, or leave less ahead.
-/

namespace DebugBridge.Rehearsal.Dialogue

open Connection (nth)

namespace Situation

section

variable {setup : ConnectionSetup} {answers : CannedAnswers} {queries : List Query} {s : Situation} {query : Query}
  {since : Nat}

/-! ## Steps of the caller -/

/-- A step of the connection that does nothing is none of the dialogue. -/
theorem link_eq_self {d : Dialogue} {action : Connection.Action} (hnone : d.connection.step action = (d.connection, [])) :
    d.link action = d := by
  unfold link
  rw [hnone]
  rfl

/-- The call under way is found under its number. -/
theorem find?_calls {call : Call} (hcalls : s.stage.calls answers s.number = [(s.number, call)]) :
    Assoc.find? s.number (s.connection setup answers).calls = some call := by
  unfold connection
  rw [hcalls, Assoc.find?_cons, if_pos rfl]

/-- A call that waits has no result. -/
theorem collect_of_none {c : Connection} {number : UInt64} {call : Call}
    (hfound : Assoc.find? number c.calls = some call) (hnone : call.outcome = none) : c.collect number = (c, []) := by
  obtain ⟨payload, sent, outcome⟩ := call
  cases hnone
  unfold Connection.collect
  rw [hfound]
  cases sent <;> rfl

/-- A call that has its reply is not given up. -/
theorem expire_of_outcome {c : Connection} {number : UInt64} {call : Call}
    (hfound : Assoc.find? number c.calls = some call) (houtcome : call.outcome ≠ none) :
    c.expire number = (c, []) := by
  obtain ⟨payload, sent, outcome⟩ := call
  unfold Connection.expire
  rw [hfound]
  cases outcome with
  | none => exact absurd rfl houtcome
  | some outcome => cases sent <;> rfl

/-- The steps of the caller are about the call under way. -/
theorem step_collect (hquery : s.stage.query? = some query) :
    (s.dialogue setup answers).step .collect = (s.dialogue setup answers).link (.collect s.number) := by
  obtain ⟨since, hasking⟩ := Stage.asking?_of_query? s.number hquery
  have hcurrent : (s.dialogue setup answers).current = some { number := s.number, query, since } := hasking
  show Dialogue.collect _ = _
  unfold Dialogue.collect
  rw [hcurrent]

theorem expire_cases (d : Dialogue) :
    d.expire = d ∨ ∃ asking, d.current = some asking ∧ d.expire = d.link (.expire asking.number) := by
  unfold Dialogue.expire
  split
  case h_1 number query since timeout hcurrent hlimit =>
    split
    · exact .inr ⟨_, hcurrent, rfl⟩
    · exact .inl rfl
  case h_2 => exact .inl rfl

/-- The situation in which the next query was just put. -/
def put (s : Situation) (query : Query) (rest : List Query) : Situation :=
  { s with stage := .begun query, rest }

theorem step_ask_idle (hstage : s.stage = .idle) {rest : List Query} (hrest : s.rest = query :: rest) :
    (s.dialogue setup answers).step .ask = (s.put query rest).dialogue setup answers := by
  have hissue : (s.connection setup answers).issue query.payload
      = .ok (s.number, (s.put query rest).connection setup answers) := by
    simp only [Connection.issue, connection, hstage, Stage.next, Stage.pending, Stage.calls]
    rfl
  simp only [Dialogue.step, Dialogue.ask, dialogue, hstage, hrest, Stage.asking?, hissue]
  rfl

/-- An idle dialogue puts its next query. -/
theorem Sound.ask (hsound : s.Sound setup answers queries) :
    LeadsTo setup answers queries s ((s.dialogue setup answers).step .ask) := by
  cases hstage : s.stage with
  | idle =>
    cases hrest : s.rest with
    | nil => exact .stay hsound (by simp only [Dialogue.step, Dialogue.ask, dialogue, hstage, hrest, Stage.asking?])
    | cons query rest =>
      obtain ⟨hsplit, hsent, hhandled, hrequests, hevents, hfits, htells, hgives, hanswered, -, -⟩ := hsound
      rw [hstage, hrest] at hsplit
      rw [hstage] at hsent
      refine ⟨s.put query rest, step_ask_idle hstage hrest, ⟨hsplit, hsent, hhandled, hrequests, hevents, hfits, htells,
        hgives, hanswered, ?_, ?_⟩, .inr (closer_of_lt ?_)⟩
      · rintro other since ⟨⟩
      · rintro other since ⟨⟩
      · rw [hstage, hrest]
        simp only [put, Stage.ahead, List.length_cons]
        omega
  | _ => exact .stay hsound (by simp only [Dialogue.step, Dialogue.ask, dialogue, hstage, Stage.asking?])

/-- What is handed to the writer for a query. -/
def request (s : Situation) (query : Query) : Wire.Request where
  number := s.number
  payload := some query.payload

/-- The situation in which a query's request was just sent. -/
def transmitted (s : Situation) (query : Query) : Situation :=
  { s with
    stage := .waiting query s.clock
    sent := s.sent ++ [query]
    outward := s.outward ++ Wire.frames Wire.Request.encode [s.request query] }

/-- The request of a query that was put goes out whole. -/
theorem step_transmit_begun (hstage : s.stage = .begun query) (hhandled : s.handled ≤ s.sent.length)
    (hfits : Fits setup (s.request query).encode) :
    (s.dialogue setup answers).step .transmit = (s.transmitted query).dialogue setup answers := by
  have hframe := Wire.frame_of_le hfits.1
  rw [← @Wire.frames_singleton _ Wire.Request.encode] at hframe
  have hfound := @find?_calls setup answers s _ (by rw [hstage]; rfl)
  have hsent : Assoc.insert s.number { payload := query.payload, sent := true } ((Stage.begun query).calls answers s.number)
      = (Stage.waiting query s.clock).calls answers s.number := by
    simp [Stage.calls, Assoc.insert]
  have hstep : (s.connection setup answers).step (.transmit s.number)
      = ((s.transmitted query).connection setup answers,
          [.wrote 0 (Wire.frames Wire.Request.encode [s.request query])]) := by
    show (s.connection setup answers).transmit s.number = _
    unfold Connection.transmit
    rw [hfound]
    unfold request at hframe
    simp only [Bool.false_eq_true, if_false, connection, hframe, hstage, hsent]
    rfl
  have hserved : (s.sent ++ [query]).take s.handled = s.sent.take s.handled := List.take_append_of_le_length hhandled
  simp only [Dialogue.step, Dialogue.transmit, link, dialogue, hstage, Stage.asking?, hstep, pass, transmitted, hserved]
  rfl

/-- A query that was put is sent. -/
theorem Sound.transmit (hfitting : Fitting setup answers queries) (hsound : s.Sound setup answers queries) :
    LeadsTo setup answers queries s ((s.dialogue setup answers).step .transmit) := by
  cases hstage : s.stage with
  | begun query =>
    have hquery : s.stage.query? = some query := by
      rw [hstage]
      rfl
    have hunsent : s.stage.sent = [] := by
      rw [hstage]
      rfl
    have hnone := fun {event} => @number_ne_of_unsent _ _ _ _ _ hfitting hsound hquery hunsent event
    obtain ⟨hsplit, hsent, hhandled, hrequests, hevents, hfits, htells, hgives, hanswered, -, -⟩ := hsound
    rw [hunsent, List.append_nil] at hsent
    have hfirst : queries[s.asked.length]? = some query := by
      rw [hsplit, hquery]
      simp
    have hrequest := hfitting.requests _ (Situation.mem_numbered hfirst)
    refine ⟨s.transmitted query, step_transmit_begun hstage hhandled hrequest, ⟨?_, ?_, ?_, ?_, hevents, hfits,
      ?_, hgives, hanswered, ?_, ?_⟩, .inr (closer_of_lt ?_)⟩
    · rw [hstage] at hsplit
      exact hsplit
    · show s.sent ++ [query] = s.asked ++ [query]
      rw [hsent]
    · show s.handled ≤ (s.sent ++ [query]).length
      rw [List.length_append]
      omega
    · show s.held ++ (s.outward ++ _) = Wire.frames _ ((numbered (s.sent ++ [query])).drop s.handled)
      rw [← List.append_assoc, hrequests, numbered_concat, hsent, ← Wire.frames_append,
        List.drop_append_of_le_length (by rw [length_numbered, ← hsent]; exact hhandled)]
      rfl
    · intro event hevent
      refine (htells event hevent).imp_right ?_
      rintro ⟨index, asked, hindex, hasked, hreply⟩
      refine ⟨index, asked, hindex, ?_, hreply⟩
      show (s.sent ++ [query])[index]? = some asked
      rw [List.getElem?_append_left (Nat.lt_of_lt_of_le hindex hhandled)]
      exact hasked
    · -- Nothing carries the number of a request that was only just sent.
      rintro other since ⟨⟩
      refine ⟨Nat.le_refl _, ?_, ?_⟩
      · intro hall
        have hlater : s.handled = (s.sent ++ [query]).length := hall
        rw [List.length_append, List.length_singleton] at hlater
        omega
      · intro hcoming
        exact absurd rfl (hnone (List.mem_append_left _ hcoming))
    · rintro other since ⟨⟩
    · rw [hstage]
      exact Nat.lt_succ_self _
  | _ => exact .stay hsound (by simp only [Dialogue.step, Dialogue.transmit, dialogue, hstage, Stage.asking?])

/-! ## The end of a call -/

/-- The situation in which the call under way has just ended. -/
def done (s : Situation) (query : Query) (ended : Ended) : Situation :=
  { s with asked := s.asked ++ [query], results := s.results ++ [ended], stage := .idle }

theorem number_done (s : Situation) (query : Query) (ended : Ended) : (s.done query ended).number = s.number + 1 := by
  unfold number done
  rw [List.length_append]
  exact (Connection.nth_succ _).symm

/-- A call that is over has its place among those that have ended. -/
theorem Sound.done (hsound : s.Sound setup answers queries) (hquery : s.stage.query? = some query)
    (hsent : s.stage.sent = [query]) {ended : Ended} (hgives : Gives setup answers query ended)
    (hanswered : ended.result ≠ .error .timeout → s.handled = s.sent.length) :
    (s.done query ended).Sound setup answers queries := by
  have hlength := hsound.sent_length
  rw [hsent, List.length_singleton] at hlength
  have hasked : s.asked.length = s.results.length := hsound.gives.length_eq
  obtain ⟨hsplit, hall, hhandled, hrequests, hevents, hfits, htells, hgave, hbefore, -, -⟩ := hsound
  rw [hquery] at hsplit
  rw [hsent] at hall
  refine ⟨?_, ?_, hhandled, hrequests, hevents, hfits, htells, ?_, ?_, ?_, ?_⟩
  · show queries = (s.asked ++ [query]) ++ s.rest
    rw [hsplit, List.append_assoc]
    rfl
  · show s.sent = (s.asked ++ [query]) ++ []
    rw [List.append_nil]
    exact hall
  · exact List.rel_append hgave (.cons hgives .nil)
  · intro index other hother hresult
    show index < s.handled
    have hplace : (s.results ++ [ended])[index]? = some other := hother
    rcases Nat.lt_or_ge index s.results.length with hold | hnew
    · rw [List.getElem?_append_left hold] at hplace
      exact hbefore index other hplace hresult
    · have hlast := (List.getElem?_eq_some_iff.1 hplace).1
      rw [List.length_append, List.length_singleton] at hlast
      have hindex : index = s.results.length := by omega
      rw [hindex, List.getElem?_concat_length] at hplace
      cases hplace
      rw [hanswered hresult]
      omega
  · rintro other since ⟨⟩
  · rintro other since ⟨⟩

/-- A call whose reply has come ends with it. -/
theorem step_collect_replied (hstage : s.stage = .replied query since) :
    (s.dialogue setup answers).step .collect
      = (s.done query { result := answers.outcome query, waited := s.clock - since }).dialogue setup answers := by
  have hfound := @find?_calls setup answers s _ (by rw [hstage]; rfl)
  have hended : Assoc.erase s.number ((Stage.replied query since).calls answers s.number) = [] := by
    simp [Stage.calls, Assoc.erase]
  have hstep : (s.connection setup answers).step (.collect s.number)
      = ((s.done query { result := answers.outcome query, waited := s.clock - since }).connection setup answers,
          [.answered s.number (Connection.result query.payload (.ok (reply answers s.number query)))]) := by
    show (s.connection setup answers).collect s.number = _
    unfold Connection.collect
    rw [hfound]
    simp only [Connection.endCall, connection, hstage, hended, Stage.next, Stage.pending, number_done]
    rfl
  simp only [Dialogue.step, Dialogue.collect, link, dialogue, hstage, Stage.asking?, hstep, pass, if_true, reply,
    outcome_of_reply, Option.getD_some]
  rfl

/-- A call whose time is over, and whose reply has not come, is given up. -/
theorem step_expire_waiting (hstage : s.stage = .waiting query since) {timeout : Nat}
    (hlimited : setup.replyTimeoutMs = some timeout) (hover : since + timeout ≤ s.clock) :
    (s.dialogue setup answers).step .expire
      = (s.done query { result := .error .timeout, waited := s.clock - since }).dialogue setup answers := by
  have hfound := @find?_calls setup answers s _ (by rw [hstage]; rfl)
  have hended : Assoc.erase s.number ((Stage.waiting query since).calls answers s.number) = [] := by
    simp [Stage.calls, Assoc.erase]
  have hstep : (s.connection setup answers).step (.expire s.number)
      = ((s.done query { result := .error .timeout, waited := s.clock - since }).connection setup answers,
          [.answered s.number (.error .timeout)]) := by
    show (s.connection setup answers).expire s.number = _
    unfold Connection.expire
    rw [hfound]
    simp only [Connection.endCall, Connection.forget, connection, hstage, hended, Stage.next, Stage.pending, number_done,
      List.erase_cons_head]
    rfl
  have hsetup : (s.connection setup answers).setup.replyTimeoutMs = some timeout := hlimited
  simp only [Dialogue.step, Dialogue.expire, link, dialogue, hstage, Stage.asking?, hsetup, if_pos hover, hstep, pass,
    if_true, Option.getD_some]
  rfl

/-- A caller whose reply has come takes what the table gives. -/
theorem Sound.collect (hsound : s.Sound setup answers queries) :
    LeadsTo setup answers queries s ((s.dialogue setup answers).step .collect) := by
  -- A call that waits looks in vain.
  have hwaits : ∀ {query : Query} {call : Call}, s.stage.query? = some query →
      s.stage.calls answers s.number = [(s.number, call)] → call.outcome = none →
      LeadsTo setup answers queries s ((s.dialogue setup answers).step .collect) := by
    intro query call hquery hcalls hnone
    apply LeadsTo.stay hsound
    rw [step_collect hquery]
    exact link_eq_self (collect_of_none (find?_calls hcalls) hnone)
  cases hstage : s.stage with
  | idle => exact .stay hsound (by simp only [Dialogue.step, Dialogue.collect, dialogue, hstage, Stage.asking?])
  | begun query => exact hwaits (by rw [hstage]; rfl) (by rw [hstage]; rfl) rfl
  | waiting query since => exact hwaits (by rw [hstage]; rfl) (by rw [hstage]; rfl) rfl
  | replied query since =>
    obtain ⟨hall, htime⟩ := hsound.replied query since hstage
    refine ⟨_, step_collect_replied hstage, hsound.done (by rw [hstage]; rfl) (by rw [hstage]; rfl) (.answered rfl ?_)
      fun _ => hall, .inr (closer_of_lt ?_)⟩
    · show answers.delay query.payload ≤ s.clock - since
      omega
    · rw [hstage]
      exact Nat.lt_succ_self _

/-- A caller gives up only when it has waited as long as it may. -/
theorem Sound.expire (hsound : s.Sound setup answers queries) :
    LeadsTo setup answers queries s ((s.dialogue setup answers).step .expire) := by
  cases hstage : s.stage with
  | waiting query since =>
    cases hlimit : setup.replyTimeoutMs with
    | none =>
      apply LeadsTo.stay hsound
      simp only [Dialogue.step, Dialogue.expire, dialogue, connection, hstage, Stage.asking?, hlimit]
    | some timeout =>
      by_cases hover : since + timeout ≤ s.clock
      · refine ⟨_, step_expire_waiting hstage hlimit hover, hsound.done (by rw [hstage]; rfl) (by rw [hstage]; rfl)
          (.givenUp hlimit rfl ?_) fun hresult => absurd rfl hresult, .inr (closer_of_lt ?_)⟩
        · show timeout ≤ s.clock - since
          omega
        · rw [hstage]
          exact Nat.lt_add_of_pos_right Nat.two_pos
      · apply LeadsTo.stay hsound
        simp only [Dialogue.step, Dialogue.expire, dialogue, connection, hstage, Stage.asking?, hlimit, if_neg hover]
  | replied query since =>
    -- The reply has come in time, whatever the clock says.
    apply LeadsTo.stay hsound
    rcases expire_cases (s.dialogue setup answers) with hnone | ⟨asking, hcurrent, hlink⟩
    · exact hnone
    · have hasking : s.stage.asking? s.number = some asking := hcurrent
      rw [hstage] at hasking
      cases hasking
      exact hlink.trans (link_eq_self (expire_of_outcome (find?_calls (by rw [hstage]; rfl)) (by simp)))
  | _ => exact .stay hsound (by simp only [Dialogue.step, Dialogue.expire, dialogue, hstage, Stage.asking?])

/-! ## The server -/

/-- Either nothing arrives, or less is on its way. -/
theorem arrive_cases (count : Nat) (bytes : Bytes) :
    bytes.take count = [] ∧ bytes.drop count = bytes ∨ (bytes.drop count).length < bytes.length := by
  by_cases hnone : bytes.take count = []
  · left
    have hdrop := List.take_append_drop count bytes
    rw [hnone, List.nil_append] at hdrop
    exact ⟨hnone, hdrop⟩
  · right
    have hpos := List.length_pos_iff.2 hnone
    rw [List.length_take] at hpos
    rw [List.length_drop]
    omega

/-- Bytes reach the server. -/
theorem Sound.carry (hsound : s.Sound setup answers queries) (count : Nat) :
    LeadsTo setup answers queries s ((s.dialogue setup answers).step (.carry count)) := by
  have hrequests : s.held ++ s.outward.take count ++ s.outward.drop count
      = Wire.frames Wire.Request.encode ((numbered s.sent).drop s.handled) := by
    rw [List.append_assoc, List.take_append_drop]
    exact hsound.requests
  refine ⟨{ s with held := s.held ++ s.outward.take count, outward := s.outward.drop count }, rfl,
    ⟨hsound.split, hsound.sent, hsound.handled, hrequests, hsound.events, hsound.fits, hsound.tells, hsound.gives,
      hsound.answered, ?_, hsound.replied⟩, ?_⟩
  · intro query since hstage
    obtain ⟨hpast, hdue, hinTime⟩ := hsound.waiting query since hstage
    exact ⟨hpast, hdue, hinTime⟩
  · rcases arrive_cases count s.outward with ⟨hnone, hsame⟩ | hshorter
    · left
      rw [hnone, hsame, List.append_nil]
    · exact .inr (.right _ (.right _ (.left _ _ hshorter)))

/-- The situation in which the server has just taken up a query. -/
def taken (s : Situation) (answers : CannedAnswers) (query : Query) (held : Bytes) : Situation :=
  { s with
    handled := s.handled + 1
    held
    saying := saidTo answers (nth s.handled) query
    resumes := s.clock + answers.delay query.payload }

/-- The reply to a request is among what is said to it. -/
theorem reply_mem_saidTo (answers : CannedAnswers) (number : UInt64) (query : Query) :
    reply answers number query ∈ saidTo answers number query := by
  obtain ⟨news, -, hsaid⟩ := saidTo_eq answers number query
  rw [hsaid]
  exact List.mem_cons_self

/-- What is said to a request that the server has just taken up is its reply and news. -/
theorem Sound.taken (hfitting : Fitting setup answers queries) (hsound : s.Sound setup answers queries)
    (hidle : s.saying = []) {held : Bytes} (hquery : s.sent[s.handled]? = some query)
    (hrequests : held ++ s.outward = Wire.frames Wire.Request.encode ((numbered s.sent).drop (s.handled + 1))) :
    (s.taken answers query held).Sound setup answers queries := by
  have hindex := (List.getElem?_eq_some_iff.1 hquery).1
  have hmem := hsound.mem_numbered hquery
  have hlength := hsound.sent_length
  obtain ⟨news, hnews, hsaid⟩ := saidTo_eq answers (nth s.handled) query
  obtain ⟨hsplit, hsent, hhandled, -, hevents, hfits, htells, hgives, hanswered, hwaiting, hreplied⟩ := hsound
  rw [hidle, List.append_nil] at hfits htells
  refine ⟨hsplit, hsent, hindex, hrequests, hevents, ?_, ?_, hgives, ?_, ?_, ?_⟩
  · intro event hevent
    rcases List.mem_append.1 hevent with hbefore | hsays
    · exact hfits event hbefore
    · exact hfitting.events _ hmem event hsays
  · intro event hevent
    rcases List.mem_append.1 hevent with hbefore | hsays
    · refine (htells event hbefore).imp_right ?_
      rintro ⟨index, asked, hless, hasked, hreply⟩
      exact ⟨index, asked, Nat.lt_succ_of_lt hless, hasked, hreply⟩
    · have hsays : event ∈ saidTo answers (nth s.handled) query := hsays
      rw [hsaid] at hsays
      rcases List.mem_cons.1 hsays with hreply | hnew
      · exact .inr ⟨s.handled, query, Nat.lt_succ_self _, hquery, hreply⟩
      · exact .inl (hnews event hnew)
  · intro index ended hended hresult
    exact Nat.lt_succ_of_lt (hanswered index ended hended hresult)
  · intro asked since hstage
    have hstage : s.stage = .waiting asked since := hstage
    obtain ⟨hpast, hdue, hinTime⟩ := hwaiting asked since hstage
    refine ⟨hpast, ?_, hinTime⟩
    -- If nothing else was sent, what was taken up is the request of the call that waits.
    intro hall
    have hall : s.handled + 1 = s.sent.length := hall
    rw [hstage] at hsent hlength
    simp only [Stage.sent, List.length_singleton] at hlength hsent
    have hlast : s.handled = s.asked.length := by omega
    rw [hsent, hlast, List.getElem?_concat_length] at hquery
    cases hquery
    constructor
    · apply List.mem_append_right
      show reply answers s.number query ∈ saidTo answers (nth s.handled) query
      rw [hlast]
      exact reply_mem_saidTo answers _ query
    · exact Nat.add_le_add_right hpast _
  · intro asked since hstage
    have hall := (hreplied asked since hstage).1
    omega

/-- The server takes up the next request that is complete, when it has nothing more to say. -/
theorem Sound.take (hfitting : Fitting setup answers queries) (hsound : s.Sound setup answers queries) :
    LeadsTo setup answers queries s ((s.dialogue setup answers).step .take) := by
  by_cases hidle : s.saying = []
  · rcases @take_served answers s.clock s.resumes s.sent s.handled hsound.handled _ _ (hsound.requests_fit hfitting)
      hsound.requests with ⟨hwait, -⟩ | ⟨query, held, hquery, hrequests, htake⟩
    · apply LeadsTo.stay hsound
      simp only [Dialogue.step, dialogue, hidle, hwait]
    · refine ⟨s.taken answers query held, ?_, hsound.taken hfitting hidle hquery hrequests, .inr (.right _ (.left _ _ ?_))⟩
      · simp only [Dialogue.step, dialogue, hidle, htake]
        rfl
      · have hindex := (List.getElem?_eq_some_iff.1 hquery).1
        show s.sent.length - (s.handled + 1) < s.sent.length - s.handled
        omega
  · apply LeadsTo.stay hsound
    have hbusy : (served answers (s.sent.take s.handled) s.held s.saying s.resumes).take s.clock = _ :=
      take_of_busy hidle s.clock
    simp only [Dialogue.step, dialogue, hbusy]

/-- The server says the next thing when it is due. -/
theorem Sound.say (hfitting : Fitting setup answers queries) (hsound : s.Sound setup answers queries) :
    LeadsTo setup answers queries s ((s.dialogue setup answers).step .say) := by
  by_cases hwaits : s.clock < s.resumes ∨ s.saying = []
  · apply LeadsTo.stay hsound
    have hsay : (served answers (s.sent.take s.handled) s.held s.saying s.resumes).say s.clock = _ :=
      say_of_waiting hwaits
    simp only [Dialogue.step, Dialogue.say, dialogue, hsay, List.append_nil]
  · obtain ⟨hready, hsome⟩ := not_or.1 hwaits
    obtain ⟨event, rest, hsaying⟩ := List.exists_cons_of_ne_nil hsome
    have hown := fun (query : Query) hquery hevent hnumber =>
      (@Sound.reply_of_number _ _ _ _ query hfitting hsound hquery event hevent hnumber).2.1
    obtain ⟨hsplit, hsent, hhandled, hrequests, hevents, hfits, htells, hgives, hanswered, hwaiting, hreplied⟩ := hsound
    have hsame : (s.coming ++ [event]) ++ rest = s.coming ++ s.saying := by
      rw [hsaying, List.append_assoc]
      rfl
    have hmem : event ∈ s.coming ++ s.saying := by
      rw [hsaying]
      exact List.mem_append_right _ List.mem_cons_self
    have hsay : (served answers (s.sent.take s.handled) s.held s.saying s.resumes).say s.clock = _ :=
      say_of_due hsaying (Nat.le_of_not_lt hready) (hfits event hmem).2
    refine ⟨{ s with
      saying := rest
      inward := s.inward ++ Wire.frames Wire.Event.encode [event]
      coming := s.coming ++ [event] }, ?_, ⟨hsplit, hsent, hhandled, hrequests, ?_, ?_, ?_, hgives, hanswered, ?_,
        hreplied⟩, .inr (.right _ (.right _ (.right _ (.left _ _ ?_))))⟩
    · simp only [Dialogue.step, Dialogue.say, dialogue, hsay]
      rfl
    · show s.unread ++ (s.inward ++ _) = _
      rw [← List.append_assoc, hevents, Wire.frames_append]
    · show ∀ other ∈ (s.coming ++ [event]) ++ rest, _
      rw [hsame]
      exact hfits
    · show ∀ other ∈ (s.coming ++ [event]) ++ rest, _
      rw [hsame]
      exact htells
    · intro query since hstage
      have hstage : s.stage = .waiting query since := hstage
      obtain ⟨hpast, hdue, hinTime⟩ := hwaiting query since hstage
      refine ⟨hpast, ?_, ?_⟩
      · show _ → reply answers s.number query ∈ (s.coming ++ [event]) ++ rest ∧ _
        rw [hsame]
        exact hdue
      · intro hcoming
        rcases List.mem_append.1 hcoming with hbefore | hnow
        · exact hinTime hbefore
        · -- The reply is said just now, so its time has come.
          have hall := hown query (by rw [hstage]; rfl) hmem (by rw [← List.mem_singleton.1 hnow]; rfl)
          exact Nat.le_trans (hdue hall).2 (Nat.le_of_not_lt hready)
    · rw [hsaying]
      exact Nat.lt_succ_self _

/-- What the server says of its own accord is news like any other. -/
theorem Sound.emit (hfitting : Fitting setup answers queries) (hsound : s.Sound setup answers queries)
    {payload : Wire.Event.Payload}
    (hlimit : ({ payload := some payload } : Wire.Event).encode.length ≤ setup.maxFrameBytes) :
    ∃ s' : Situation, (s.dialogue setup answers).step (.emit payload) = s'.dialogue setup answers ∧
      s'.Sound setup answers queries := by
  by_cases hsent : ({ payload := some payload } : Wire.Event).encode.length ≤ Wire.maxFrameBytes
  · have hframe := Wire.frame_of_le hsent
    rw [← @Wire.frames_singleton _ Wire.Event.encode] at hframe
    let news : Wire.Event := { payload := some payload }
    have hmem : ∀ event ∈ (s.coming ++ [news]) ++ s.saying, event ∈ s.coming ++ s.saying ∨ event = news := by
      intro event hevent
      rcases List.mem_append.1 hevent with hcoming | hsaying
      · rcases List.mem_append.1 hcoming with hbefore | hnews
        · exact .inl (List.mem_append_left _ hbefore)
        · exact .inr (List.mem_singleton.1 hnews)
      · exact .inl (List.mem_append_right _ hsaying)
    refine ⟨{ s with inward := s.inward ++ Wire.frames Wire.Event.encode [news], coming := s.coming ++ [news] }, ?_,
      ⟨hsound.split, hsound.sent, hsound.handled, hsound.requests, ?_, ?_, ?_, hsound.gives, hsound.answered, ?_,
        hsound.replied⟩⟩
    · simp only [Dialogue.step, Dialogue.emit, hframe]
      rfl
    · show s.unread ++ (s.inward ++ _) = _
      rw [← List.append_assoc, hsound.events, Wire.frames_append]
    · intro event hevent
      rcases hmem event hevent with hbefore | rfl
      · exact hsound.fits event hbefore
      · exact ⟨hlimit, hsent⟩
    · intro event hevent
      rcases hmem event hevent with hbefore | rfl
      · exact hsound.tells event hbefore
      · exact .inl rfl
    · intro query since hstage
      have hstage : s.stage = .waiting query since := hstage
      obtain ⟨hpast, hdue, hinTime⟩ := hsound.waiting query since hstage
      refine ⟨hpast, ?_, ?_⟩
      · intro hall
        obtain ⟨hreply, htime⟩ := hdue hall
        refine ⟨?_, htime⟩
        rcases List.mem_append.1 hreply with hcoming | hsaying
        · exact List.mem_append_left _ (List.mem_append_left _ hcoming)
        · exact List.mem_append_right _ hsaying
      · intro hcoming
        rcases List.mem_append.1 hcoming with hbefore | hnews
        · exact hinTime hbefore
        · -- News has no number.
          have hquery : s.stage.query? = some query := by
            rw [hstage]
            rfl
          have hnumber := hsound.number_ne_zero hfitting hquery
          exact absurd (congrArg Wire.Event.number (List.mem_singleton.1 hnews)) hnumber
  · refine ⟨s, ?_, hsound⟩
    have hframe : Wire.frame Wire.maxFrameBytes ({ payload := some payload } : Wire.Event).encode
        = .error (.outgoingTooLarge ({ payload := some payload } : Wire.Event).encode.length Wire.maxFrameBytes) := by
      unfold Wire.frame
      rw [if_pos (by omega)]
    simp only [Dialogue.step, Dialogue.emit, hframe]

/-! ## Reading -/

/-- Bytes reach the connection. -/
theorem Sound.bring (hsound : s.Sound setup answers queries) (count : Nat) :
    LeadsTo setup answers queries s ((s.dialogue setup answers).step (.bring count)) := by
  have hevents : s.unread ++ s.inward.take count ++ s.inward.drop count = Wire.frames Wire.Event.encode s.coming := by
    rw [List.append_assoc, List.take_append_drop]
    exact hsound.events
  refine ⟨{ s with unread := s.unread ++ s.inward.take count, inward := s.inward.drop count }, rfl,
    ⟨hsound.split, hsound.sent, hsound.handled, hsound.requests, hevents, hsound.fits, hsound.tells, hsound.gives,
      hsound.answered, ?_, hsound.replied⟩, ?_⟩
  · intro query since hstage
    obtain ⟨hpast, hdue, hinTime⟩ := hsound.waiting query since hstage
    exact ⟨hpast, hdue, hinTime⟩
  · rcases arrive_cases count s.inward with ⟨hnone, hsame⟩ | hshorter
    · left
      rw [hnone, hsame, List.append_nil]
    · exact .inr (.right _ (.right _ (.right _ (.right _ (.left _ _ hshorter)))))

/-- Where nothing is complete, there is nothing to read. -/
theorem read_wait (hnext : Wire.next setup.maxFrameBytes Wire.Event.decode s.unread = .wait) :
    (s.dialogue setup answers).step .read = s.dialogue setup answers := by
  refine link_eq_self ?_
  show (s.connection setup answers).read = _
  unfold Connection.read
  simp only [connection, hnext, Bool.not_false, if_true]
  rfl

theorem dispatch_of_nobody {c : Connection} {event : Wire.Event} (hnobody : event.number ∉ c.pending) :
    c.dispatch event
      = (c, if event.number = 0 then (event.payload.map fun payload => Effect.told (.debug payload)).toList else []) := by
  unfold Connection.dispatch
  by_cases hnews : event.number = 0
  · rw [if_pos hnews, if_pos hnews]
  · rw [if_neg hnews, if_neg hnobody, if_neg hnews]

/-- What nobody waits for changes nothing about the call under way: it is news, or too late. -/
theorem read_passed {event : Wire.Event} {rest : Bytes}
    (hnext : Wire.next setup.maxFrameBytes Wire.Event.decode s.unread = .message event rest)
    (hnobody : event.number ∉ s.stage.pending s.number) :
    (s.dialogue setup answers).step .read = { s with unread := rest }.dialogue setup answers := by
  have hstep : (s.connection setup answers).step .read = ({ s with unread := rest }.connection setup answers,
      if event.number = 0 then (event.payload.map fun payload => Effect.told (.debug payload)).toList else []) := by
    show (s.connection setup answers).read = _
    unfold Connection.read
    simp only [connection, hnext]
    exact dispatch_of_nobody hnobody
  have hconnection : (s.dialogue setup answers).connection = s.connection setup answers := rfl
  show (s.dialogue setup answers).link .read = _
  unfold link
  rw [hconnection, hstep]
  split
  · cases event.payload <;> rfl
  · rfl

/-- The reply ends the waiting of the call. -/
theorem read_reply {rest : Bytes} (hstage : s.stage = .waiting query since) (hnumber : s.number ≠ 0)
    (hnext : Wire.next setup.maxFrameBytes Wire.Event.decode s.unread = .message (reply answers s.number query) rest) :
    (s.dialogue setup answers).step .read
      = { s with stage := .replied query since, unread := rest }.dialogue setup answers := by
  have hinsert : Assoc.insert s.number
      { payload := query.payload, sent := true, outcome := some (.ok (reply answers s.number query)) }
      ((Stage.waiting query since).calls answers s.number) = (Stage.replied query since).calls answers s.number := by
    simp [Stage.calls, Assoc.insert]
  have hfound : Assoc.find? s.number ((Stage.waiting query since).calls answers s.number)
      = some { payload := query.payload, sent := true } := by
    simp [Stage.calls, Assoc.find?_cons]
  have hreply : (reply answers s.number query).number = s.number := rfl
  have hstep : (s.connection setup answers).step .read
      = ({ s with stage := .replied query since, unread := rest }.connection setup answers, []) := by
    show (s.connection setup answers).read = _
    unfold Connection.read
    simp only [connection, hnext, hstage, Connection.dispatch, Connection.forget, hreply, if_neg hnumber,
      Stage.pending, List.mem_singleton, if_true, hfound, hinsert, List.erase_cons_head]
    rfl
  have hconnection : (s.dialogue setup answers).connection = s.connection setup answers := rfl
  show (s.dialogue setup answers).link .read = _
  unfold link
  rw [hconnection, hstep]
  simp only [pass, dialogue, hstage]
  rfl

/-- What is read next is the reply that is waited for, or changes nothing. -/
theorem Sound.read (hfitting : Fitting setup answers queries) (hsound : s.Sound setup answers queries) :
    LeadsTo setup answers queries s ((s.dialogue setup answers).step .read) := by
  have hcome : ∀ event ∈ s.coming, event ∈ s.coming ++ s.saying := fun event => List.mem_append_left _
  rcases Wire.next_of_fitting Wire.Event.decode_encode (fun event hevent => (hsound.fits event (hcome event hevent)).lt_size)
    (fun event hevent => (hsound.fits event (hcome event hevent)).1) hsound.events with
    hwait | ⟨event, later, rest, hcoming, hnext, hrest⟩
  · exact .stay hsound (read_wait hwait)
  have hmem : event ∈ s.coming ++ s.saying := hcome event (by rw [hcoming]; exact List.mem_cons_self)
  have hlater : ∀ other ∈ later ++ s.saying, other ∈ s.coming ++ s.saying := by
    intro other hother
    rw [hcoming]
    exact List.mem_cons_of_mem _ hother
  by_cases hpending : event.number ∈ s.stage.pending s.number
  · cases hstage : s.stage with
    | waiting query since =>
      have hquery : s.stage.query? = some query := by
        rw [hstage]
        rfl
      rw [hstage] at hpending
      obtain ⟨-, hall, hreply⟩ := hsound.reply_of_number hfitting hquery hmem (List.mem_singleton.1 hpending)
      rw [hreply] at hnext hcoming
      have htime := (hsound.waiting query since hstage).inTime (by rw [hcoming]; exact List.mem_cons_self)
      have hnumber := hsound.number_ne_zero hfitting hquery
      obtain ⟨hsplit, hsent, hhandled, hrequests, -, hfits, htells, hgives, hanswered, -, -⟩ := hsound
      rw [hstage] at hsplit hsent
      refine ⟨{ s with stage := .replied query since, unread := rest, coming := later }, read_reply hstage hnumber hnext,
        ⟨hsplit, hsent, hhandled, hrequests, hrest, fun other hother => hfits other (hlater other hother),
          fun other hother => htells other (hlater other hother), hgives, hanswered, ?_, ?_⟩, .inr (closer_of_lt ?_)⟩
      · rintro other since ⟨⟩
      · rintro other since ⟨⟩
        exact ⟨hall, htime⟩
      · rw [hstage]
        exact Nat.lt_succ_self _
    | begun query =>
      rw [hstage] at hpending
      exact absurd (List.mem_singleton.1 hpending)
        (hsound.number_ne_of_unsent hfitting (by rw [hstage]; rfl) (by rw [hstage]; rfl) hmem)
    | idle =>
      rw [hstage] at hpending
      cases hpending
    | replied query since =>
      rw [hstage] at hpending
      cases hpending
  · obtain ⟨hsplit, hsent, hhandled, hrequests, -, hfits, htells, hgives, hanswered, hwaiting, hreplied⟩ := hsound
    refine ⟨{ s with unread := rest, coming := later }, read_passed hnext hpending,
      ⟨hsplit, hsent, hhandled, hrequests, hrest, fun other hother => hfits other (hlater other hother),
        fun other hother => htells other (hlater other hother), hgives, hanswered, ?_, hreplied⟩,
      .inr (.right _ (.right _ (.right _ (.right _ (.right _ ?_)))))⟩
    · intro query since hstage
      have hstage : s.stage = .waiting query since := hstage
      obtain ⟨hpast, hdue, hinTime⟩ := hwaiting query since hstage
      refine ⟨hpast, ?_, ?_⟩
      · -- The reply is still among what comes after.
        intro hall
        refine ⟨?_, (hdue hall).2⟩
        have hreply := (hdue hall).1
        rw [hcoming] at hreply
        rcases List.mem_cons.1 hreply with hown | hother
        · rw [hstage, ← hown] at hpending
          exact absurd (List.mem_singleton_self _) hpending
        · exact hother
      · intro hreply
        apply hinTime
        rw [hcoming]
        exact List.mem_cons_of_mem _ hreply
    · rw [hcoming]
      exact Nat.lt_succ_self _

/-! ## Whole runs -/

/-- The situation some time later. -/
def later (s : Situation) (time : Nat) : Situation :=
  { s with clock := s.clock + time }

/-- Time does not change what is to come. -/
theorem Sound.later (hsound : s.Sound setup answers queries) (time : Nat) :
    (s.later time).Sound setup answers queries := by
  have hclock : s.clock ≤ s.clock + time := Nat.le_add_right _ _
  refine ⟨hsound.split, hsound.sent, hsound.handled, hsound.requests, hsound.events, hsound.fits, hsound.tells,
    hsound.gives, hsound.answered, ?_, ?_⟩
  · intro query since hstage
    obtain ⟨hpast, hdue, hinTime⟩ := hsound.waiting query since hstage
    exact ⟨Nat.le_trans hpast hclock, hdue, fun hcoming => Nat.le_trans (hinTime hcoming) hclock⟩
  · intro query since hstage
    obtain ⟨hall, htime⟩ := hsound.replied query since hstage
    exact ⟨hall, Nat.le_trans htime hclock⟩

/-- Every step leads on, unless the server speaks of its own accord or time passes. -/
theorem Sound.leads (hfitting : Fitting setup answers queries) (hsound : s.Sound setup answers queries) {action : Action}
    (hunasked : ∀ payload, action ≠ .emit payload) (htime : ∀ time, action ≠ .wait time) :
    LeadsTo setup answers queries s ((s.dialogue setup answers).step action) := by
  cases action with
  | ask => exact hsound.ask
  | transmit => exact hsound.transmit hfitting
  | carry count => exact hsound.carry count
  | take => exact hsound.take hfitting
  | say => exact hsound.say hfitting
  | bring count => exact hsound.bring count
  | read => exact hsound.read hfitting
  | collect => exact hsound.collect
  | expire => exact hsound.expire
  | wait time => exact absurd rfl (htime time)
  | emit payload => exact absurd rfl (hunasked payload)

theorem Sound.step (hfitting : Fitting setup answers queries) (hsound : s.Sound setup answers queries) {action : Action}
    (hfits : action.Fits setup) :
    ∃ s' : Situation, (s.dialogue setup answers).step action = s'.dialogue setup answers ∧
      s'.Sound setup answers queries := by
  by_cases hunasked : ∃ payload, action = .emit payload
  · obtain ⟨payload, rfl⟩ := hunasked
    exact hsound.emit hfitting hfits
  by_cases htime : ∃ time, action = .wait time
  · obtain ⟨time, rfl⟩ := htime
    exact ⟨s.later time, rfl, hsound.later time⟩
  · obtain ⟨s', hstep, hsound', -⟩ := hsound.leads hfitting (not_exists.1 hunasked) (not_exists.1 htime)
    exact ⟨s', hstep, hsound'⟩

theorem Sound.run (hfitting : Fitting setup answers queries) (hsound : s.Sound setup answers queries)
    (actions : List Action) (hfits : ∀ action ∈ actions, action.Fits setup) :
    ∃ s' : Situation, (s.dialogue setup answers).run actions = s'.dialogue setup answers ∧
      s'.Sound setup answers queries := by
  induction actions generalizing s with
  | nil => exact ⟨s, rfl, hsound⟩
  | cons action actions ih =>
    obtain ⟨s', hstep, hsound'⟩ := hsound.step hfitting (hfits action List.mem_cons_self)
    obtain ⟨s'', hrun, hsound''⟩ := ih hsound' fun other hother => hfits other (List.mem_cons_of_mem _ hother)
    refine ⟨s'', ?_, hsound''⟩
    rw [← hrun, ← hstep]
    rfl

end

end Situation

end DebugBridge.Rehearsal.Dialogue
