import DebugBridge.Proofs.Connection.Ledger
import DebugBridge.Proofs.Wire.Frames
import DebugBridge.Rehearsal.CannedServer

/-!
# What a canned server is asked and answers

The table gives every query its outcome, without a connection or a server. What the server says to a request is the
answer that has this outcome, and then news. It takes up the requests in the order in which they come, however they are
cut, and never before it has said all to the one before.
-/

namespace DebugBridge.Rehearsal

open Connection (nth)

/-! ## Looking into the table -/

/-- What a query gives by the table alone. -/
def CannedAnswers.outcome (answers : CannedAnswers) : Query → Except CallError Query.Answer
  | .listFrames thread => .ok (.frames ((Assoc.find? thread answers.frames).getD []))
  | .getChildren _ value => .ok (.children ((Assoc.find? value answers.children).getD []))
  | .evaluate _ statement =>
    match Assoc.find? statement answers.evaluations with
    | some (.value value) => .ok (.value value)
    | some (.error message) => .error (.remote message)
    | none => .error (.remote s!"name '{statement}' is not defined")
  | .setBreakpoints _ | .continueExecution .. | .pauseThread _ | .startDebugging => .ok .done
  | .send payload =>
    match answers.reply payload with
    | .error message => .error (.remote message)
    | reply => .ok (.payload reply)

/-- The requests of queries that are put one after another: the calls are numbered from 1. -/
def numbered (queries : List Query) : List Wire.Request :=
  queries.mapIdx fun index query => { number := nth index, payload := some query.payload }

/-- The breakpoints that a query is to set. -/
def breakpointsOf? (query : Query) : Option (List Wire.Breakpoint) :=
  match query.payload with
  | .setBreakpoints breakpoints => some breakpoints
  | _ => none

/-- The breakpoints of the last query that sets any. -/
def lastSet (queries : List Query) : List Wire.Breakpoint :=
  ((queries.filterMap breakpointsOf?).getLast?).getD []

/-- The frame limits of both sides let a message through. -/
def Fits (setup : ConnectionSetup) (body : Bytes) : Prop :=
  body.length ≤ setup.maxFrameBytes ∧ body.length ≤ Wire.maxFrameBytes

instance (setup : ConnectionSetup) (body : Bytes) : Decidable (Fits setup body) :=
  inferInstanceAs (Decidable (_ ∧ _))

theorem Fits.lt_size {setup : ConnectionSetup} {body : Bytes} (hfits : Fits setup body) : body.length < UInt64.size :=
  Nat.lt_of_le_of_lt hfits.2 (by decide)

theorem getElem?_numbered (queries : List Query) (index : Nat) :
    (numbered queries)[index]? = queries[index]?.map fun query => { number := nth index, payload := some query.payload } :=
  List.getElem?_mapIdx

theorem length_numbered (queries : List Query) : (numbered queries).length = queries.length :=
  List.length_mapIdx

theorem numbered_concat (queries : List Query) (query : Query) :
    numbered (queries ++ [query])
      = numbered queries ++ [{ number := nth queries.length, payload := some query.payload }] :=
  List.mapIdx_concat

theorem lastSet_concat (queries : List Query) (query : Query) :
    lastSet (queries ++ [query]) = (breakpointsOf? query).getD (lastSet queries) := by
  unfold lastSet
  cases hset : breakpointsOf? query with
  | none => simp [List.filterMap_append, hset]
  | some set => simp [List.filterMap_append, hset]

/-! ## What the server does -/

section

variable {answers : CannedAnswers} {clock resumes : Nat}

/-- The reply to a query's request is worth what the table gives for the query. -/
theorem outcome_of_reply (answers : CannedAnswers) (query : Query) (number : UInt64) :
    (Connection.result query.payload (.ok { number, payload := some (answers.reply query.payload) })).bind query.answer
      = answers.outcome query := by
  cases query with
  | evaluate thread statement =>
    simp only [Query.payload, CannedAnswers.reply, CannedAnswers.outcome]
    cases Assoc.find? statement answers.evaluations with
    | none => rfl
    | some evaluation => cases evaluation <;> rfl
  | send payload =>
    simp only [Query.payload, CannedAnswers.outcome]
    cases answers.reply payload <;> rfl
  | _ => rfl

/-- Nothing that the table gives is a caller's giving up. -/
theorem outcome_ne_timeout (answers : CannedAnswers) (query : Query) : answers.outcome query ≠ .error .timeout := by
  cases query with
  | evaluate thread statement =>
    simp only [CannedAnswers.outcome]
    split <;> simp
  | send payload =>
    simp only [CannedAnswers.outcome]
    split <;> simp
  | _ => simp [CannedAnswers.outcome]

/-- What the server says to a query: the reply under its call's number, and news. -/
def saidTo (answers : CannedAnswers) (number : UInt64) (query : Query) : List Wire.Event :=
  answers.events { number, payload := some query.payload }

/-- Behind the reply there is only news. -/
theorem saidTo_eq (answers : CannedAnswers) (number : UInt64) (query : Query) :
    ∃ news : List Wire.Event, (∀ event ∈ news, event.number = 0) ∧
      saidTo answers number query = { number, payload := some (answers.reply query.payload) } :: news := by
  refine ⟨_, ?_, rfl⟩
  intro event hevent
  obtain ⟨payload, -, rfl⟩ := List.mem_map.1 hevent
  rfl

/-- A server that has taken up the queries so far, and has still to say something to the last one. -/
def served (answers : CannedAnswers) (queries : List Query) (unread : Bytes) (saying : List Wire.Event) (resumes : Nat) :
    CannedServer where
  answers
  requests := numbered queries
  breakpoints := lastSet queries
  unread
  saying
  resumes

theorem keep_served (answers : CannedAnswers) (queries : List Query) (query : Query) (unread : Bytes)
    (saying : List Wire.Event) (resumes : Nat) :
    (served answers queries unread saying resumes).keep { number := nth queries.length, payload := some query.payload }
      = served answers (queries ++ [query]) unread saying resumes := by
  unfold served CannedServer.keep
  rw [numbered_concat, lastSet_concat]
  simp only [breakpointsOf?]
  cases query.payload <;> rfl

/-- A server that has something to say takes up nothing. -/
theorem take_of_busy {server : CannedServer} (hbusy : server.saying ≠ []) (clock : Nat) : server.take clock = server := by
  have hnot : server.saying.isEmpty = false := by simpa using hbusy
  unfold CannedServer.take
  rw [if_pos (by simp [hnot])]

/-- A server that has said everything takes up the next request, or waits for it: there is none, or part of it has still
to come. -/
theorem take_served {queries : List Query} {handled : Nat} (hhandled : handled ≤ queries.length) {unread later : Bytes}
    (hfits : ∀ request ∈ numbered queries, request.encode.length ≤ Wire.maxFrameBytes)
    (hstream : unread ++ later = Wire.frames Wire.Request.encode ((numbered queries).drop handled)) :
    ((served answers (queries.take handled) unread [] resumes).take clock
        = served answers (queries.take handled) unread [] resumes ∧ (handled = queries.length ∨ later ≠ [])) ∨
      ∃ query rest, queries[handled]? = some query ∧
        rest ++ later = Wire.frames Wire.Request.encode ((numbered queries).drop (handled + 1)) ∧
        (served answers (queries.take handled) unread [] resumes).take clock
          = served answers (queries.take (handled + 1)) rest (saidTo answers (nth handled) query)
              (clock + answers.delay query.payload) := by
  have hsize : ∀ request ∈ (numbered queries).drop handled, request.encode.length < UInt64.size := by
    intro request hmem
    exact Nat.lt_of_le_of_lt (hfits request (List.mem_of_mem_drop hmem)) (by decide)
  have hlimit : ∀ request ∈ (numbered queries).drop handled, request.encode.length ≤ Wire.maxFrameBytes :=
    fun request hmem => hfits request (List.mem_of_mem_drop hmem)
  have hlength : (queries.take handled).length = handled := List.length_take_of_le hhandled
  rcases Wire.next_of_fitting Wire.Request.decode_encode hsize hlimit hstream with
    hwait | ⟨request, more, rest, hmore, hnext, hrest⟩
  · left
    constructor
    · unfold CannedServer.take
      simp only [served, List.isEmpty_nil, Bool.not_true, Bool.or_false, Bool.false_eq_true, if_false, hwait]
    · -- Without anything left to come, the next request would be complete.
      refine or_iff_not_imp_right.2 fun hlater => ?_
      rw [Decidable.not_not.1 hlater, List.append_nil] at hstream
      cases hrequests : (numbered queries).drop handled with
      | nil =>
        have hnone := List.drop_eq_nil_iff.1 hrequests
        rw [length_numbered] at hnone
        exact Nat.le_antisymm hhandled hnone
      | cons request more =>
        rw [hrequests] at hstream hsize hlimit
        rw [hstream, Wire.next_frames_cons Wire.Request.decode_encode (hsize _ List.mem_cons_self)
          (hlimit _ List.mem_cons_self)] at hwait
        cases hwait
  · right
    have hfirst : (numbered queries)[handled]? = some request := by
      rw [← Nat.add_zero handled, ← List.getElem?_drop, hmore]
      rfl
    rw [getElem?_numbered] at hfirst
    obtain ⟨query, hquery, rfl⟩ := Option.map_eq_some_iff.1 hfirst
    refine ⟨query, rest, hquery, ?_, ?_⟩
    · rw [hrest, ← List.tail_drop, hmore]
      rfl
    · have htake : queries.take (handled + 1) = queries.take handled ++ [query] := by
        rw [List.take_add_one, hquery]
        rfl
      have hkept := keep_served answers (queries.take handled) query unread [] resumes
      rw [hlength] at hkept
      unfold CannedServer.take
      simp only [served, List.isEmpty_nil, Bool.not_true, Bool.or_false, Bool.false_eq_true, if_false, hnext]
      rw [← served, hkept, htake]
      rfl

/-- Nothing is said too early, and nothing where there is nothing to say. -/
theorem say_of_waiting {server : CannedServer} (hwaits : clock < server.resumes ∨ server.saying = []) :
    server.say clock = ([], server) := by
  unfold CannedServer.say
  rcases hwaits with hearly | hnone
  · rw [if_pos hearly]
  · rw [hnone]
    split <;> rfl

/-- When it is time, the server says the next thing. -/
theorem say_of_due {server : CannedServer} {event : Wire.Event} {rest : List Wire.Event}
    (hsaying : server.saying = event :: rest) (hdue : server.resumes ≤ clock)
    (hfits : event.encode.length ≤ Wire.maxFrameBytes) :
    server.say clock = (Wire.frames Wire.Event.encode [event], { server with saying := rest }) := by
  have hframe := Wire.frame_of_le hfits
  unfold CannedServer.say
  rw [if_neg (Nat.not_lt.2 hdue), hsaying]
  simp only [hframe, Wire.frames_singleton]

end

end DebugBridge.Rehearsal
