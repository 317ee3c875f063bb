import DebugBridge.Proofs.Connection.Streams
import DebugBridge.Proofs.Rehearsal.CannedServer
import DebugBridge.Rehearsal.Dialogue

/-!
# What a dialogue looks like

At most one call is under way, and it is at one of four stages. Calls before it may have been given up, so that the
server has not even seen their requests, or their replies are still on their way. But every reply carries the number of
its own call, and news has none. So nothing that the connection reads is taken for the reply to another call than the
one that it is for, and a call that ends with a reply ends with what the table gives.
-/

namespace DebugBridge.Rehearsal.Dialogue

open Connection (nth)

/-! ## Stages of a call -/

/-- How far the call under way has come. -/
inductive Stage where
  | idle
  | begun (query : Query)
  /-- Its request was sent at that time. -/
  | waiting (query : Query) (since : Nat)
  | replied (query : Query) (since : Nat)

/-- The reply to a query. -/
def reply (answers : CannedAnswers) (number : UInt64) (query : Query) : Wire.Event :=
  { number, payload := some (answers.reply query.payload) }

namespace Stage

/-- The query under way. -/
def query? : Stage → Option Query
  | idle => none
  | begun query | waiting query _ | replied query _ => some query

/-- The query under way, if its request was sent. -/
def sent : Stage → List Query
  | waiting query _ | replied query _ => [query]
  | _ => []

/-- The call under way. -/
def asking? (number : UInt64) : Stage → Option Asking
  | idle => none
  | begun query => some { number, query }
  | waiting query since | replied query since => some { number, query, since := some since }

/-- The number that the next call gets, where the call under way has this one. -/
def next (number : UInt64) : Stage → UInt64
  | idle => number
  | _ => number + 1

/-- The numbers that are waited for. -/
def pending (number : UInt64) : Stage → List UInt64
  | begun _ | waiting .. => [number]
  | _ => []

/-- The calls under way. -/
def calls (answers : CannedAnswers) (number : UInt64) : Stage → List (UInt64 × Call)
  | idle => []
  | begun query => [(number, { payload := query.payload })]
  | waiting query _ => [(number, { payload := query.payload, sent := true })]
  | replied query _ =>
    [(number, { payload := query.payload, sent := true, outcome := some (.ok (reply answers number query)) })]

/-- How many steps the call under way has ahead. -/
def ahead : Stage → Nat
  | idle => 0
  | begun _ => 3
  | waiting .. => 2
  | replied .. => 1

theorem asking?_of_query? {stage : Stage} {query : Query} (number : UInt64) (hquery : stage.query? = some query) :
    ∃ since, stage.asking? number = some { number, query, since } := by
  cases stage <;> cases hquery <;> exact ⟨_, rfl⟩

theorem query?_split (stage : Stage) : ∃ unsent, stage.query?.toList = stage.sent ++ unsent := by
  cases stage with
  | idle => exact ⟨[], rfl⟩
  | begun query => exact ⟨[query], rfl⟩
  | waiting query since => exact ⟨[], rfl⟩
  | replied query since => exact ⟨[], rfl⟩

theorem length_sent_le (stage : Stage) : stage.sent.length ≤ 1 := by
  cases stage <;> simp [sent]

theorem sent_of_query? {stage : Stage} {query : Query} (hquery : stage.query? = some query) :
    stage.sent = [] ∨ stage.sent = [query] := by
  cases stage with
  | idle => exact .inl rfl
  | begun other => exact .inl rfl
  | waiting other since =>
    cases hquery
    exact .inr rfl
  | replied other since =>
    cases hquery
    exact .inr rfl

end Stage

/-- How a query may end. -/
inductive Gives (setup : ConnectionSetup) (answers : CannedAnswers) (query : Query) (ended : Ended) : Prop
  /-- With what the table gives, and not before the server may have said so. -/
  | answered (result : ended.result = answers.outcome query) (held : answers.delay query.payload ≤ ended.waited)
  /-- It was given up, and not before it had waited as long as calls may. -/
  | givenUp {timeout : Nat} (limited : setup.replyTimeoutMs = some timeout) (result : ended.result = .error .timeout)
      (waited : timeout ≤ ended.waited)

/-! ## Situations -/

/-- All that a dialogue's state depends on. -/
structure Situation where
  clock : Nat := 0
  /-- The queries that have ended, and how. -/
  asked : List Query := []
  results : List Ended := []
  stage : Stage := .idle
  rest : List Query
  /-- The queries whose requests were sent, and how many of these the server has taken up. -/
  sent : List Query := []
  handled : Nat := 0
  /-- What has reached the server and was not taken up. -/
  held : Bytes := []
  outward : Bytes := []
  saying : List Wire.Event := []
  resumes : Nat := 0
  inward : Bytes := []
  /-- What has reached the connection and was not read. -/
  unread : Bytes := []
  /-- The events that the server has said and the connection has still to read. -/
  coming : List Wire.Event := []

namespace Situation

/-- The number of the call under way, or of the next one. -/
def number (s : Situation) : UInt64 :=
  nth s.asked.length

/-- The connection's side. -/
def connection (setup : ConnectionSetup) (answers : CannedAnswers) (s : Situation) : Connection where
  setup
  state := .connected
  nextNumber := s.stage.next s.number
  pending := s.stage.pending s.number
  calls := s.stage.calls answers s.number
  writer := some 0
  incoming := some { stream := 0, unread := s.unread }
  dialed := 1

/-- The whole dialogue. -/
def dialogue (setup : ConnectionSetup) (answers : CannedAnswers) (s : Situation) : Dialogue where
  clock := s.clock
  connection := s.connection setup answers
  server := served answers (s.sent.take s.handled) s.held s.saying s.resumes
  outward := s.outward
  inward := s.inward
  queries := s.rest
  current := s.stage.asking? s.number
  results := s.results

/-- An event is the reply to a request that the server has taken up. -/
def Replies (s : Situation) (answers : CannedAnswers) (event : Wire.Event) : Prop :=
  ∃ index query, index < s.handled ∧ s.sent[index]? = some query ∧ event = reply answers (nth index) query

/-- What is known of a call that waits for its reply. As soon as its request was taken up, the reply is due or on its
way, and it is not said before its time. -/
structure Awaits (s : Situation) (answers : CannedAnswers) (query : Query) (since : Nat) : Prop where
  past : since ≤ s.clock
  due : s.handled = s.sent.length →
    reply answers s.number query ∈ s.coming ++ s.saying ∧ since + answers.delay query.payload ≤ s.resumes
  inTime : reply answers s.number query ∈ s.coming → since + answers.delay query.payload ≤ s.clock

/-- The parts fit together. -/
structure Sound (s : Situation) (setup : ConnectionSetup) (answers : CannedAnswers) (queries : List Query) : Prop where
  split : queries = s.asked ++ (s.stage.query?.toList ++ s.rest)
  sent : s.sent = s.asked ++ s.stage.sent
  handled : s.handled ≤ s.sent.length
  requests : s.held ++ s.outward = Wire.frames Wire.Request.encode ((numbered s.sent).drop s.handled)
  events : s.unread ++ s.inward = Wire.frames Wire.Event.encode s.coming
  fits : ∀ event ∈ s.coming ++ s.saying, Fits setup event.encode
  tells : ∀ event ∈ s.coming ++ s.saying, event.number = 0 ∨ s.Replies answers event
  gives : List.Forall₂ (Gives setup answers) s.asked s.results
  answered : ∀ index ended, s.results[index]? = some ended → ended.result ≠ .error .timeout → index < s.handled
  waiting : ∀ query since, s.stage = .waiting query since → s.Awaits answers query since
  replied : ∀ query since, s.stage = .replied query since →
    s.handled = s.sent.length ∧ since + answers.delay query.payload ≤ s.clock

/-- What is still ahead: steps of calls first, then what is on its way to the server and back. -/
def ahead (s : Situation) : Nat × Nat × Nat × Nat × Nat × Nat :=
  (4 * s.rest.length + s.stage.ahead, s.sent.length - s.handled, s.outward.length, s.saying.length, s.inward.length,
    s.coming.length)

/-- Less is ahead. -/
def Closer (s' s : Situation) : Prop :=
  Prod.Lex (· < ·) (Prod.Lex (· < ·) (Prod.Lex (· < ·) (Prod.Lex (· < ·) (Prod.Lex (· < ·) (· < ·))))) s'.ahead s.ahead

/-- A step leads to a dialogue that is as before or closer to its end. -/
def LeadsTo (setup : ConnectionSetup) (answers : CannedAnswers) (queries : List Query) (s : Situation) (d : Dialogue) :
    Prop :=
  ∃ s' : Situation, d = s'.dialogue setup answers ∧ s'.Sound setup answers queries ∧ (s' = s ∨ s'.Closer s)

end Situation

/-- All messages of queries fit, and there are not more queries than numbers. -/
structure Fitting (setup : ConnectionSetup) (answers : CannedAnswers) (queries : List Query) : Prop where
  count : queries.length < UInt64.size
  requests : ∀ request ∈ numbered queries, Fits setup request.encode
  events : ∀ request ∈ numbered queries, ∀ event ∈ answers.events request, Fits setup event.encode

/-- What the server says unasked, if anything, is not too large for the connection. -/
def Action.Fits (setup : ConnectionSetup) : Action → Prop
  | .emit payload => ({ payload := some payload } : Wire.Event).encode.length ≤ setup.maxFrameBytes
  | _ => True

instance (setup : ConnectionSetup) : DecidablePred (Action.Fits setup)
  | .emit _ => inferInstanceAs (Decidable (_ ≤ _))
  | .ask | .transmit | .carry _ | .take | .say | .bring _ | .read | .collect | .expire | .wait _ =>
    inferInstanceAs (Decidable True)

namespace Situation

section

variable {setup : ConnectionSetup} {answers : CannedAnswers} {queries : List Query} {s : Situation} {query : Query}
  {since : Nat}

theorem LeadsTo.stay (hsound : s.Sound setup answers queries) {d : Dialogue} (hsame : d = s.dialogue setup answers) :
    LeadsTo setup answers queries s d :=
  ⟨s, hsame, hsound, .inl rfl⟩

/-- A step of the call under way comes before all that is on its way. -/
theorem closer_of_lt {s' : Situation} (hless : 4 * s'.rest.length + s'.stage.ahead < 4 * s.rest.length + s.stage.ahead) :
    s'.Closer s :=
  .left _ _ hless

/-! ## Numbers -/

theorem Sound.sent_length (hsound : s.Sound setup answers queries) :
    s.sent.length = s.asked.length + s.stage.sent.length := by
  rw [hsound.sent, List.length_append]

/-- The queries whose requests were sent come first. -/
theorem Sound.sent_split (hsound : s.Sound setup answers queries) : ∃ later, queries = s.sent ++ later := by
  obtain ⟨unsent, hquery⟩ := s.stage.query?_split
  refine ⟨unsent ++ s.rest, ?_⟩
  rw [hsound.split, hsound.sent, hquery, List.append_assoc, List.append_assoc]

theorem mem_numbered {index : Nat} (hquery : queries[index]? = some query) :
    ({ number := nth index, payload := some query.payload } : Wire.Request) ∈ numbered queries := by
  apply List.mem_of_getElem? (i := index)
  rw [getElem?_numbered, hquery]
  rfl

/-- A request that was sent is one of the queries'. -/
theorem Sound.mem_numbered (hsound : s.Sound setup answers queries) {index : Nat} (hquery : s.sent[index]? = some query) :
    ({ number := nth index, payload := some query.payload } : Wire.Request) ∈ numbered queries := by
  obtain ⟨later, hsplit⟩ := hsound.sent_split
  apply Situation.mem_numbered
  rw [hsplit, List.getElem?_append_left (List.getElem?_eq_some_iff.1 hquery).1]
  exact hquery

theorem Sound.requests_fit (hfitting : Fitting setup answers queries) (hsound : s.Sound setup answers queries) :
    ∀ request ∈ numbered s.sent, request.encode.length ≤ Wire.maxFrameBytes := by
  intro request hrequest
  refine (hfitting.requests request ?_).2
  obtain ⟨index, hindex⟩ := List.mem_iff_getElem?.1 hrequest
  rw [getElem?_numbered] at hindex
  obtain ⟨query, hquery, hnumber⟩ := Option.map_eq_some_iff.1 hindex
  rw [← hnumber]
  exact hsound.mem_numbered hquery

/-- There is a number for the query under way. -/
theorem Sound.asked_lt (hfitting : Fitting setup answers queries) (hsound : s.Sound setup answers queries)
    (hquery : s.stage.query? = some query) : s.asked.length + 1 < UInt64.size := by
  have hcount := hfitting.count
  rw [hsound.split, hquery] at hcount
  simp only [Option.toList_some, List.length_append, List.length_singleton] at hcount
  omega

theorem Sound.number_ne_zero (hfitting : Fitting setup answers queries) (hsound : s.Sound setup answers queries)
    (hquery : s.stage.query? = some query) : s.number ≠ 0 :=
  Connection.nth_ne_zero (hsound.asked_lt hfitting hquery)

/-- Only the reply to the call under way carries its number, and the server has then taken up all that was sent. -/
theorem Sound.reply_of_number (hfitting : Fitting setup answers queries) (hsound : s.Sound setup answers queries)
    (hquery : s.stage.query? = some query) {event : Wire.Event} (hevent : event ∈ s.coming ++ s.saying)
    (hnumber : event.number = s.number) :
    s.stage.sent = [query] ∧ s.handled = s.sent.length ∧ event = reply answers s.number query := by
  have hlt := hsound.asked_lt hfitting hquery
  rcases hsound.tells event hevent with hnews | ⟨index, asked, hhandled, hasked, rfl⟩
  · rw [hnews] at hnumber
    exact absurd hnumber.symm (hsound.number_ne_zero hfitting hquery)
  have hindex := (List.getElem?_eq_some_iff.1 hasked).1
  have hsent := hsound.sent_length
  rcases Stage.sent_of_query? hquery with hnone | hhas
  · -- All that the server has taken up ended before, with other numbers.
    rw [hnone, List.length_nil] at hsent
    have heq : index = s.asked.length := Connection.nth_injective (by omega) hlt hnumber
    omega
  · rw [hhas, List.length_singleton] at hsent
    have heq : index = s.asked.length := Connection.nth_injective (by omega) hlt hnumber
    have hle := hsound.handled
    rw [hsound.sent, hhas, heq, List.getElem?_concat_length] at hasked
    cases hasked
    refine ⟨hhas, by omega, ?_⟩
    rw [heq]
    rfl

/-- Without a request that was sent, nothing carries the number of the call under way. -/
theorem Sound.number_ne_of_unsent (hfitting : Fitting setup answers queries) (hsound : s.Sound setup answers queries)
    (hquery : s.stage.query? = some query) (hunsent : s.stage.sent = []) {event : Wire.Event}
    (hevent : event ∈ s.coming ++ s.saying) : event.number ≠ s.number := by
  intro hnumber
  have hsent := (hsound.reply_of_number hfitting hquery hevent hnumber).1
  rw [hunsent] at hsent
  cases hsent

theorem Sound.start (setup : ConnectionSetup) (answers : CannedAnswers) (queries : List Query) :
    Dialogue.new setup answers queries = ({ rest := queries } : Situation).dialogue setup answers ∧
      ({ rest := queries } : Situation).Sound setup answers queries := by
  refine ⟨rfl, rfl, rfl, Nat.le_refl 0, rfl, rfl, ?_, ?_, .nil, ?_, ?_, ?_⟩
  · intro event hevent
    cases hevent
  · intro event hevent
    cases hevent
  · intro index ended hended
    cases hended
  · intro query since hstage
    cases hstage
  · intro query since hstage
    cases hstage

end

end Situation

end DebugBridge.Rehearsal.Dialogue
