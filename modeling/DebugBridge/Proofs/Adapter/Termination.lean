import DebugBridge.Proofs.Adapter.Saying

/-!
# Debugging ends once

That debugging is over is said by the request loop as it answers a request to disconnect, and by the relay of a
connection that is gone. Both may come to it, in either order, but only the first one says it. A connection that is lost
while its session is there is told of in the end, whatever happens in between: `debugging_ends_once`.
-/

namespace DebugBridge.Adapter

open Debugger (Session)

/-- Whether a message tells that debugging is over. -/
def Outgoing.terminates : Outgoing → Bool
  | .news n => n.event == "terminated"
  | .response _ => false

/-- Whether a message shows a line to the user. -/
def Outgoing.Shows (category line : String) (message : Outgoing) : Prop :=
  ∃ seq, message = .news
    { seq, event := "output", body := some (.ofMembers [("category", .string category), ("output", .string (line ++ "\n"))]) }

/-- How often it was told that debugging is over. -/
def terminations (effects : List ServerEffect) : Nat :=
  (Loop.sent effects).countP (·.terminates)

@[simp] theorem terminations_append (effects more : List ServerEffect) :
    terminations (effects ++ more) = terminations effects + terminations more := by
  rw [terminations, Server.sent_append, List.countP_append]
  rfl

namespace Server

variable {s : Server} {result : Server × List ServerEffect}

/-- That debugging is over is told in a step just if it was not over before and is so after it. -/
def Tallies (s : Server) (result : Server × List ServerEffect) : Prop :=
  terminations result.2 + s.terminated.toNat = result.1.terminated.toNat

theorem tallies_of_news (hsame : result.1.terminated = s.terminated)
    (hnews : ∀ news, .news news ∈ Loop.sent result.2 → news.event ≠ "terminated") : Tallies s result := by
  have hnone : terminations result.2 = 0 := List.countP_eq_zero.2 fun message hmem => by
    cases message with
    | news news => simpa [Outgoing.terminates] using hnews news hmem
    | response response => simp [Outgoing.terminates]
  rw [Tallies, hnone, hsame, Nat.zero_add]

theorem not_terminated (hnews : ∀ news, .news news ∈ Loop.sent result.2 →
    news.event = "output" ∨ news.event = "initialized") :
    ∀ news, .news news ∈ Loop.sent result.2 → news.event ≠ "terminated" := fun news hmem => by
  rcases hnews news hmem with hevent | hevent <;> simp [hevent]

theorem Reserved.tallies (hreserved : Reserved s result) : Tallies s result :=
  tallies_of_news hreserved.terminated (not_terminated hreserved.news)

theorem terminate_tallies (s : Server) : Tallies s s.terminate := by
  unfold Tallies terminate
  split
  · next hterminated => simp [terminations, Loop.sent]
  · next hopen =>
    rw [Bool.not_eq_true] at hopen
    rw [hopen]
    rfl

theorem terminated_terminate (s : Server) : s.terminate.1.terminated = true := by
  unfold terminate
  split
  · next hterminated => exact hterminated
  · rfl

theorem say_tallies (s : Server) (line : Line) : Tallies s (s.say line) := by
  cases line with
  | news news => exact tallies_of_news rfl fun other hmem => by cases news <;> simp_all [say, tell, Loop.sent, newsEvent]
  | output category text => exact (output_reserved s category text).tallies
  | terminated => exact terminate_tallies s

end Server

namespace Strands

variable {x : Strands} {step : Step} {result : Strands × List ServerEffect} {session : Nat}

theorem Does.tallies (hdoes : Does x step result) (hstanding : Standing x) :
    Server.Tallies x.server (result.1.server, result.2) := by
  obtain ⟨accepted, hcomposed⟩ := hstanding.composed
  cases hdoes with
  | idles | rests => exact (Server.Reserved.refl x.server).tallies
  | acts whole =>
    have hapart := Server.move_apart hcomposed.free whole
    exact Server.tallies_of_news hapart.terminated (Server.not_terminated hapart.news)
  | @departs m request departs reading =>
    have hreserved := x.depart_reserved request
    exact Server.tallies_of_news hreserved.terminated (Server.not_terminated hreserved.news)
  | reports pending => exact x.server.say_tallies _
  | hears idle listed hears =>
    obtain ⟨-, -, hsilent⟩ := Launched.hear_hears hears
    exact Server.tallies_of_news rfl (by simp [hsilent])
  | hangsUp leaving => exact (Server.within_reserved x.server _ fun inner => inner.link_mute .leave).tallies
  | answers leaving => exact (Server.respond_reserved x.server _ true none none).tallies
  | terminates leaving => exact x.server.terminate_tallies

theorem Standing.tallies (hstanding : Standing x) (steps : List Step) :
    Server.Tallies x.server ((x.run steps).1.server, (x.run steps).2) := by
  induction steps generalizing x with
  | nil => exact (Server.Reserved.refl x.server).tallies
  | cons step steps ih =>
    have hfirst := (x.step_does step).tallies hstanding
    have hlater := ih (hstanding.after (x.step_does step))
    unfold Server.Tallies at hfirst hlater ⊢
    rw [run_cons, terminations_append]
    dsimp only at hfirst hlater ⊢
    omega

theorem Does.terminated (hdoes : Does x step result) (hstanding : Standing x) (hterminated : x.server.terminated = true) :
    result.1.server.terminated = true := by
  have htallies := hdoes.tallies hstanding
  rw [Server.Tallies, hterminated] at htallies
  cases hafter : result.1.server.terminated with
  | true => rfl
  | false => simp [hafter] at htallies

theorem Standing.terminated_of_run (hstanding : Standing x) (hterminated : x.server.terminated = true)
    (steps : List Step) : (x.run steps).1.server.terminated = true := by
  induction steps generalizing x with
  | nil => exact hterminated
  | cons step steps ih =>
    exact ih (hstanding.after (x.step_does step)) ((x.step_does step).terminated hstanding hterminated)

/-! ## Leaving -/

/-- Whether the request loop goes on leaving. -/
def Step.isLeaving : Step → Bool
  | .leaves => true
  | _ => false

/-- How many pieces there still are of leaving. -/
def pieces (x : Strands) : Nat :=
  match x.leaving with
  | none => 0
  | some .terminates => 1
  | some (.answers _) => 2
  | some (.hangsUp _ _) => 3

theorem pieces_le (x : Strands) : x.pieces ≤ 3 := by
  unfold pieces
  split <;> omega

theorem leaving_of_pieces (hnone : x.pieces = 0) : x.leaving = none := by
  unfold pieces at hnone
  split at hnone
  · next hleaving => exact hleaving
  all_goals omega

/-- Only by its own steps the request loop goes on leaving. -/
theorem Does.leaving (hdoes : Does x step result) (hended : x.server.ending ≠ none) (hother : step ≠ .leaves) :
    result.1.leaving = x.leaving := by
  cases hdoes with
  | departs departs reading => exact absurd reading hended
  | hangsUp | answers | terminates => exact absurd rfl hother
  | _ => rfl

theorem step_of_leaves (hended : x.server.ending = some (.ok ())) : x.step .leaves = x.leave := by
  have hopen : x.server.broken = false := by simp [Server.broken, hended]
  rw [Strands.step, if_neg (by simp [hopen])]

theorem leave_pieces (x : Strands) : x.leave.1.pieces ≤ x.pieces - 1 := by
  unfold leave
  split
  · next hleaving => simp [pieces, hleaving]
  · next session request hleaving => cases request <;> simp [pieces, hleaving]
  · next hleaving => simp [pieces, hleaving]
  · next hleaving => simp [pieces, hleaving]

/-- After the end there are no new pieces, and each step of the request loop's own does one. -/
theorem step_pieces (hended : x.server.ending = some (.ok ())) (step : Step) :
    (x.step step).1.pieces ≤ x.pieces - if step.isLeaving then 1 else 0 := by
  by_cases hstep : step = .leaves
  · subst hstep
    rw [step_of_leaves hended]
    exact x.leave_pieces
  · have hsame := (x.step_does step).leaving (by simp [hended]) hstep
    have hother : step.isLeaving = false := by
      cases step with
      | leaves => exact absurd rfl hstep
      | _ => rfl
    simp [pieces, hsame, hother]

theorem Standing.ended_step (hstanding : Standing x) (hended : x.server.ending = some (.ok ())) (step : Step) :
    (x.step step).1.server.ending = some (.ok ()) := by
  obtain ⟨accepted, hcomposed⟩ := hstanding.composed
  exact ((x.step_does step).left hcomposed).2 (.inl hended)

theorem Standing.run_pieces (hstanding : Standing x) (hended : x.server.ending = some (.ok ())) (steps : List Step) :
    (x.run steps).1.pieces ≤ x.pieces - steps.countP (·.isLeaving) := by
  induction steps generalizing x with
  | nil => exact Nat.le_refl _
  | cons step steps ih =>
    have hfirst := step_pieces hended step
    have hlater := ih (hstanding.after (x.step_does step)) (hstanding.ended_step hended step)
    rw [List.countP_cons, run_cons]
    dsimp only
    omega

/-- After the end, the request loop leaves in three steps. -/
theorem Standing.leaves (hstanding : Standing x) (hended : x.server.ending = some (.ok ())) {steps : List Step}
    (hthree : 3 ≤ steps.countP (·.isLeaving)) : (x.run steps).1.leaving = none := by
  have hpieces := hstanding.run_pieces hended steps
  have hfew := x.pieces_le
  exact leaving_of_pieces (by omega)

/-- A request to disconnect was read. -/
structure Dismissed (x : Strands) : Prop where
  ended : x.server.ending = some (.ok ())
  owed : ∀ session, x.leaving ≠ some (.hangsUp session none)
  done : x.leaving = none → x.server.terminated = true

theorem Dismissed.depart {m : Server.Move} {request : Message} (hdeparts : m.departs? = some (some request))
    (hreading : x.server.ending = none) (hstanding : Standing x) : Dismissed (x.step (.moves m)).1 := by
  obtain ⟨accepted, hcomposed⟩ := hstanding.composed
  have hended := ((x.step_does (.moves m)).left hcomposed).2 (.inr ⟨hreading, m, _, rfl, hdeparts⟩)
  rw [step_of_departs hdeparts hreading] at hended ⊢
  refine ⟨hended, fun session => ?_, fun hnone => ?_⟩
  · unfold Strands.depart
    split <;> simp
  · unfold Strands.depart at hnone
    split at hnone <;> cases hnone

theorem Dismissed.leave (hdismissed : Dismissed x) (hended : x.leave.1.server.ending = some (.ok ())) :
    Dismissed x.leave.1 := by
  suffices howed : (∀ session, x.leave.1.leaving ≠ some (.hangsUp session none)) ∧
      (x.leave.1.leaving = none → x.leave.1.server.terminated = true) from ⟨hended, howed.1, howed.2⟩
  unfold Strands.leave
  split
  · exact ⟨hdismissed.owed, hdismissed.done⟩
  · next session request hleaving =>
    cases request with
    | none => exact absurd hleaving (hdismissed.owed session)
    | some request => exact ⟨by simp, by simp⟩
  · exact ⟨by simp, by simp⟩
  · exact ⟨by simp, fun _ => x.server.terminated_terminate⟩

theorem Dismissed.after (hdismissed : Dismissed x) (hstanding : Standing x) (step : Step) :
    Dismissed (x.step step).1 := by
  have hended := hstanding.ended_step hdismissed.ended step
  by_cases hstep : step = .leaves
  · subst hstep
    rw [step_of_leaves hdismissed.ended] at hended ⊢
    exact hdismissed.leave hended
  · have hsame := (x.step_does step).leaving (by simp [hdismissed.ended]) hstep
    refine ⟨hended, fun session => ?_, fun hnone => ?_⟩
    · rw [hsame]
      exact hdismissed.owed session
    · exact (x.step_does step).terminated hstanding (hdismissed.done (hsame.symm.trans hnone))

theorem Dismissed.run (hdismissed : Dismissed x) (hstanding : Standing x) (steps : List Step) :
    Dismissed (x.run steps).1 := by
  induction steps generalizing x with
  | nil => exact hdismissed
  | cons step steps ih => exact ih (hdismissed.after hstanding step) (hstanding.after (x.step_does step))

/-! ## What was before -/

/-- The request loop begins to leave, with a session or without one. -/
def Departs (x : Strands) (step : Step) : Prop :=
  x.server.ending = none ∧ ∃ m request, step = .moves m ∧ m.departs? = some request

/-- A step after which a session's connection is closed, as it is not closed before, comes after the connection has
come about, or takes the session from the slot. -/
def Parts (x : Strands) (session : Nat) (step : Step) : Prop :=
  x.server.isConnected session = true ∨ x.server.slot = some session ∧ Departs x step

theorem Sight.parts (hsight : Sight x step session result) (hstanding : Standing x) {after : Launched}
    (hafter : result.1.server.seen? session = some after) (hclosed : after.session.connection.closed = true) :
    (∃ before, x.server.seen? session = some before ∧ before.session.connection.closed = true) ∨
      Parts x session step := by
  cases hsight.course hafter with
  | begins unseen setup connection items =>
    rw [connection] at hclosed
    cases hclosed
  | @goesOn before told seen onward items =>
    cases hwas : before.session.connection.closed with
    | true => exact .inl ⟨before, seen, hwas⟩
    | false =>
      obtain ⟨hconnected, -⟩ := onward.loses (hstanding.grounded session before seen) hwas hclosed
      obtain ⟨launch, hfound, rfl⟩ := Server.find?_of_seen? seen
      exact .inr (.inl ((Server.isConnected_of_find? hfound).2 hconnected))
  | shuts hstep departs reading slot seen connection => exact .inr (.inr ⟨slot, reading, _, _, hstep, departs⟩)

/-- A connection that is closed after a run was so before, or it was parted with in the run. -/
theorem Standing.parted (hstanding : Standing x) (steps : List Step) {after : Launched}
    (hafter : (x.run steps).1.server.seen? session = some after) (hclosed : after.session.connection.closed = true) :
    (∃ before, x.server.seen? session = some before ∧ before.session.connection.closed = true) ∨
      ∃ past step rest, steps = past ++ step :: rest ∧ Parts (x.run past).1 session step := by
  induction steps generalizing x with
  | nil => exact .inl ⟨after, hafter, hclosed⟩
  | cons step steps ih =>
    obtain ⟨accepted, hcomposed⟩ := hstanding.composed
    rcases ih (hstanding.after (x.step_does step)) hafter with ⟨before, hbefore, hwas⟩ | ⟨past, next, rest, heq, hparts⟩
    · exact (((x.step_does step).sight hcomposed.free session).parts hstanding hbefore hwas).imp_right fun hparts =>
        ⟨[], step, steps, rfl, hparts⟩
    · exact .inr ⟨step :: past, next, rest, congrArg (step :: ·) heq, hparts⟩

/-- A request to disconnect is read. -/
def Disconnects (x : Strands) (step : Step) : Prop :=
  x.server.ending = none ∧
    ∃ message, step = .moves (.step (.receive message)) ∧ message.kind = .request ∧ message.command = "disconnect"

/-- The request loop is to answer a request as it leaves, or has done so. -/
def Answering (x : Strands) : Prop :=
  x.leaving = some .terminates ∨ ∃ leaving request, x.leaving = some leaving ∧ leaving.request? = some request

theorem Does.answering (hdoes : Does x step result) (hafter : Answering result.1) :
    Answering x ∨ Disconnects x step := by
  cases hdoes with
  | idles | acts | reports | hears | rests => exact .inl hafter
  | @departs m request departs reading =>
    rcases departs_cases departs with ⟨message, rfl, hkind, hcommand, -⟩ | ⟨-, rfl⟩
    · exact .inr ⟨reading, message, rfl, hkind, hcommand⟩
    · exfalso
      unfold depart at hafter
      rcases hafter with hleaving | ⟨leaving, request, hleaving, hrequest⟩
      · split at hleaving <;> cases hleaving
      · split at hleaving <;> cases hleaving
        cases hrequest
  | @hangsUp session request leaving =>
    cases request with
    | none =>
      rcases hafter with hleaving | ⟨leaving, request, hleaving, -⟩
      · cases hleaving
      · cases hleaving
    | some request => exact .inl (.inr ⟨_, request, leaving, rfl⟩)
  | @answers request leaving => exact .inl (.inr ⟨_, request, leaving, rfl⟩)
  | terminates leaving => exact .inl (.inl leaving)

/-- What is to be answered after a run was to be answered before, or was read in the run. -/
theorem answering_of_run (x : Strands) (steps : List Step) (hafter : Answering (x.run steps).1) :
    Answering x ∨ ∃ past step rest, steps = past ++ step :: rest ∧ Disconnects (x.run past).1 step := by
  induction steps generalizing x with
  | nil => exact .inl hafter
  | cons step steps ih =>
    rcases ih (x.step step).1 hafter with hanswering | ⟨past, next, rest, heq, hdisconnects⟩
    · exact ((x.step_does step).answering hanswering).imp_right fun hdisconnects => ⟨[], step, steps, rfl, hdisconnects⟩
    · exact .inr ⟨step :: past, next, rest, congrArg (step :: ·) heq, hdisconnects⟩

/-! ## Connections that are lost -/

/-- The session is still there for the server's news, if any waits. -/
def Heeds (x : Strands) (session : Nat) : Prop :=
  x.keeps session = true ∨ ∀ launch, Assoc.find? session x.server.launches = some launch →
    ∀ notification ∈ launch.inbox.items, notification.news? = none

theorem Lost.heeds {launch : Launched} (hlost : Lost x session launch) (hheeds : Heeds x session) :
    x.keeps session = true ∨ ∀ notification ∈ launch.inbox.items, notification.news? = none := by
  refine hheeds.imp_right fun hnone => ?_
  obtain ⟨found, hfound, rfl⟩ := Server.find?_of_seen? hlost.seen
  exact hnone found hfound

theorem broken_of_run (hbroken : x.server.broken = true) (steps : List Step) : (x.run steps).1 = x := by
  induction steps with
  | nil => rfl
  | cons step steps ih => rw [run_cons, x.step_of_broken hbroken, ih]

theorem toSay_length_le (x : Strands) (session : Nat) : (x.toSay session).length ≤ x.turns session :=
  Nat.le_add_right _ _

/-- A relay with enough turns says in the end that debugging is over, if it has still to say that. -/
theorem Lost.terminates {launch : Launched} (hlost : Lost x session launch) (hstanding : Standing x) (steps : List Step)
    (hheeds : ∀ past, past <+: steps → Heeds (x.run past).1 session) (hopen : (x.run steps).1.server.broken = false)
    (hturns : x.turns session ≤ steps.countP (·.isTurnOf session)) (hmem : .terminated ∈ x.toSay session) :
    (x.run steps).1.server.terminated = true := by
  -- On the steps: as long as this is not said there is one more turn to come.
  induction steps generalizing x launch with
  | nil =>
    have hsome := List.length_pos_of_mem hmem
    have hle := x.toSay_length_le session
    rw [List.countP_nil] at hturns
    omega
  | cons step steps ih =>
    obtain ⟨accepted, hcomposed⟩ := hstanding.composed
    have hdoes := x.step_does step
    have hstanding' := hstanding.after hdoes
    obtain ⟨hprogress, after, hafter⟩ := hlost.progress hdoes hcomposed (hlost.heeds (hheeds [] List.nil_prefix))
    have hnext := ih hafter hstanding'
      (fun past hpast => hheeds (step :: past) (List.cons_prefix_cons.2 ⟨rfl, hpast⟩)) hopen
    rw [List.countP_cons] at hturns
    cases hprogress with
    | waits same turns idle =>
      have hother : step.isTurnOf session = false := Bool.eq_false_iff.2 fun hturn => by
        rcases idle (step_isTurnOf.1 hturn) with hbroken | hnothing
        · rw [broken_of_run hbroken, hbroken] at hopen
          cases hopen
        · rw [hnothing] at hmem
          cases hmem
      rw [hother] at hturns
      exact hnext (turns ▸ hturns) (same ▸ hmem)
    | prepares hstep same turns silent =>
      rw [step_isTurnOf.2 hstep] at hturns
      exact hnext (by simp at hturns; omega) (same ▸ hmem)
    | @speaks line hstep said turns did =>
      rw [step_isTurnOf.2 hstep] at hturns
      rcases List.mem_cons.1 (said ▸ hmem) with hline | hrest
      · refine hstanding'.terminated_of_run ?_ steps
        rw [show (x.step step).1.server = _ from congrArg Prod.fst did, ← hline]
        exact x.server.terminated_terminate
      · exact hnext (by simp at hturns; omega) hrest

/-- Nobody else says that debugging is over. -/
theorem Lost.quiet {launch : Launched} (hlost : Lost x session launch) (hstanding : Standing x)
    (hdoes : Does x step result) (hother : step ≠ .relays session) (hanswering : ¬ Answering x)
    (hquiet : x.server.terminated = false) : result.1.server.terminated = false := by
  obtain ⟨accepted, hcomposed⟩ := hstanding.composed
  refine Bool.eq_false_iff.2 fun hterminated => ?_
  rcases hdoes.terminated_cases hcomposed hterminated with hwas | ⟨-, hleaving⟩ | ⟨other, rest, hstep, hline⟩
  · rw [hquiet] at hwas
    cases hwas
  · exact hanswering (.inl hleaving)
  · obtain ⟨held, hseen, hclosed⟩ := hstanding.said other (hline ▸ List.mem_cons_self ..)
    obtain rfl := hstanding.unique hlost.seen hlost.ended.closed hseen hclosed
    exact hother hstep

/-- What a relay has still to say before that debugging is over is said before that, unless the request loop is first. -/
theorem Lost.shows_first {launch : Launched} (hlost : Lost x session launch) (hstanding : Standing x)
    (steps : List Step) (hheeds : ∀ past, past <+: steps → Heeds (x.run past).1 session)
    (hopen : (x.run steps).1.server.broken = false) (hturns : x.turns session ≤ steps.countP (·.isTurnOf session))
    {before : List Line} (hsaying : x.toSay session = before ++ [.terminated]) (hbefore : .terminated ∉ before)
    (hquiet : x.server.terminated = false) (hanswering : ¬ Answering x)
    (hstays : ∀ past step rest, steps = past ++ step :: rest → ¬ Disconnects (x.run past).1 step) :
    ∃ first ended last, Loop.sent (x.run steps).2 = first ++ ended :: last ∧ ended.terminates = true ∧
      ∀ category line, .output category line ∈ before → ∃ message ∈ first, message.Shows category line := by
  induction steps generalizing x launch before with
  | nil =>
    have hle := x.toSay_length_le session
    rw [hsaying, List.length_append] at hle
    simp at hturns hle
    omega
  | cons step steps ih =>
    obtain ⟨accepted, hcomposed⟩ := hstanding.composed
    have hdoes := x.step_does step
    obtain ⟨hprogress, after, hafter⟩ := hlost.progress hdoes hcomposed (hlost.heeds (hheeds [] List.nil_prefix))
    have hanswering' : ¬ Answering (x.step step).1 := fun h =>
      (hdoes.answering h).elim hanswering (hstays [] step steps rfl)
    -- What is shown in this step comes before what is shown later.
    have hnext : ∀ {before' : List Line}, (x.step step).1.toSay session = before' ++ [.terminated] →
        .terminated ∉ before' → (x.step step).1.server.terminated = false →
        (x.step step).1.turns session ≤ steps.countP (·.isTurnOf session) →
        (∀ category line, .output category line ∈ before → .output category line ∈ before' ∨
          ∃ message ∈ Loop.sent (x.step step).2, message.Shows category line) →
        ∃ first ended last, Loop.sent (x.run (step :: steps)).2 = first ++ ended :: last ∧ ended.terminates = true ∧
          ∀ category line, .output category line ∈ before → ∃ message ∈ first, message.Shows category line := by
      intro before' hsaying hbefore hquiet hturns hshown
      obtain ⟨first, ended, last, hsent, hended, hshows⟩ := ih hafter (hstanding.after hdoes)
        (fun past hpast => hheeds (step :: past) (List.cons_prefix_cons.2 ⟨rfl, hpast⟩)) hopen hturns hsaying hbefore hquiet
        hanswering' fun past next rest heq => hstays (step :: past) next rest (congrArg (step :: ·) heq)
      refine ⟨Loop.sent (x.step step).2 ++ first, ended, last, ?_, hended, fun category line hmem => ?_⟩
      · rw [run_cons, Server.sent_append, hsent, List.append_assoc]
      · rcases hshown category line hmem with hlater | ⟨message, hmessage, hline⟩
        · obtain ⟨message, hmessage, hline⟩ := hshows category line hlater
          exact ⟨message, List.mem_append_right _ hmessage, hline⟩
        · exact ⟨message, List.mem_append_left _ hmessage, hline⟩
    rw [List.countP_cons] at hturns
    cases hprogress with
    | waits same turns idle =>
      have hother : step ≠ .relays session := fun hstep => by
        rcases idle hstep with hbroken | hnothing
        · rw [broken_of_run hbroken, hbroken] at hopen
          cases hopen
        · simp [hnothing] at hsaying
      rw [Bool.eq_false_iff.2 (mt step_isTurnOf.1 hother)] at hturns
      exact hnext (same.trans hsaying) hbefore (hlost.quiet hstanding hdoes hother hanswering hquiet) (turns ▸ hturns)
        fun category line => .inl
    | prepares hstep same turns silent =>
      have htallies := hdoes.tallies hstanding
      rw [step_isTurnOf.2 hstep] at hturns
      refine hnext (same.trans hsaying) hbefore ?_ (by simp at hturns; omega) fun category line => .inl
      exact Bool.toNat_eq_zero.1 (by simpa [Server.Tallies, terminations, silent, hquiet] using htallies.symm)
    | @speaks line hstep said turns did =>
      rw [step_isTurnOf.2 hstep] at hturns
      have hserver : (x.step step).1.server = (x.server.say line).1 := congrArg Prod.fst did
      have heffects : (x.step step).2 = (x.server.say line).2 := congrArg Prod.snd did
      cases before with
      | nil =>
        obtain ⟨hline, -⟩ := List.cons.inj (said.symm.trans hsaying)
        have hsent : Loop.sent (x.step step).2 = [.news { seq := x.server.nextSeq, event := "terminated", body := none }] := by
          rw [heffects, hline]
          simp [Server.say, Server.terminate, hquiet, Server.tell, Loop.sent]
        refine ⟨[], .news { seq := x.server.nextSeq, event := "terminated", body := none },
          Loop.sent ((x.step step).1.run steps).2, ?_, rfl, fun category line hmem => by cases hmem⟩
        rw [run_cons, Server.sent_append, hsent]
        rfl
      | cons next before =>
        obtain ⟨hline, hrest⟩ := List.cons.inj (said.symm.trans hsaying)
        obtain ⟨hnot, hnone⟩ := not_or.1 (mt List.mem_cons.2 hbefore)
        subst hline
        refine hnext hrest hnone ?_ (by simp at hturns; omega) fun category text hmem => ?_
        · rw [hserver]
          cases line with
          | terminated => exact absurd rfl hnot
          | _ => exact hquiet
        · refine (List.mem_cons.1 hmem).symm.imp_right fun heq => ?_
          rw [heffects, ← heq]
          exact ⟨_, List.mem_singleton_self _, x.server.nextSeq, rfl⟩

/-- The reader of a connection does its step in one piece. -/
theorem step_of_reading (hopen : x.server.broken = false) (session : Nat) {action : Connection.Action}
    (hreads : action.isReading = true) : (Server.Move.step (.link session action)).inPieces = false ∧
      x.step (.moves (.step (.link session action))) =
        ({ x with server := (x.server.within session (·.link (·.step action))).1 },
          (x.server.within session (·.link (·.step action))).2) := by
  have hwhole : (Server.Move.step (.link session action)).inPieces = false := by
    cases action <;> first | rfl | cases hreads
  have howner : action.byOwner = false := by
    cases action <;> first | rfl | cases hreads
  refine ⟨hwhole, ?_⟩
  rw [Strands.step, if_neg (by simp [hopen])]
  simp [Server.Move.departs?, hwhole, Server.move, Server.step, howner, hopen]

/-- The session in the slot loses its connection: its relay has still to say so, and nobody has said before that
debugging is over. -/
theorem Standing.loses (hstanding : Standing x) (hopen : x.server.broken = false)
    (hslot : x.server.slot = some session) {launch : Launched}
    (hfound : Assoc.find? session x.server.launches = some launch) {action : Connection.Action}
    (hother : action ≠ .shutdown) {error : Option String}
    (htold : .told (.disconnected error) ∈ (launch.session.connection.step action).2) :
    let lost := (x.step (.moves (.step (.link session action)))).1
    (∃ after, Lost lost session after) ∧ lost.server.terminated = false ∧ ¬ Answering lost ∧
      ∃ before, lost.toSay session = before ++ farewell error ∧ .terminated ∉ before := by
  intro lost
  obtain ⟨accepted, hcomposed⟩ := hstanding.composed
  obtain ⟨hreads, hwas, hgone, hnotices⟩ := Connection.lost_by_reader hother htold
  obtain ⟨hwhole, hstep⟩ := x.step_of_reading hopen session hreads
  have hending : x.server.ending ≠ some (.ok ()) := fun h => by cases hslot.symm.trans (hcomposed.ordered.ended h)
  have hreading := hstanding.reading hending
  have hseen := Server.seen?_of_find? hfound
  have hdoes := x.step_does (.moves (.step (.link session action)))
  have hstanding' : Standing lost := hstanding.after hdoes
  have hreading' : Reading lost := hstanding'.reading fun h => by
    rcases (hdoes.left hcomposed).1 h with hended | ⟨-, m, request, hm, hdeparts⟩
    · exact hending hended
    · cases hm
      rw [inPieces_of_departs hdeparts] at hwhole
      cases hwhole
  have hsame : ∀ other launch, x.server.seen? other = some launch → launch.session.connection.closed = true → False :=
    fun other held hheld hclosed => by
      obtain rfl := Option.some.inj (hslot.symm.trans (hreading.held other held hheld hclosed))
      obtain rfl := Option.some.inj (hseen.symm.trans hheld)
      rw [hwas] at hclosed
      cases hclosed
  -- The session after the step, as its relay sees it.
  let after : Launched := ({ launch with request := none } : Launched).after (launch.session.link (·.step action))
  have hafter : lost.server.seen? session = some after := by
    have hwithin := Server.within_seen x.server session session (·.link (·.step action))
    rw [if_pos rfl, hseen] at hwithin
    simp only [lost, hstep]
    exact hwithin
  have hconnection : after.session.connection = (launch.session.connection.step action).1 :=
    launch.session.link_connection action
  refine ⟨⟨after, hafter, hreading'.unshut session after hafter (hconnection ▸ hgone),
    hreading'.last session after hafter⟩, ?_, ?_, ?_⟩
  · refine Bool.eq_false_iff.2 fun hterminated => ?_
    rcases hdoes.terminated_cases hcomposed hterminated with hwas | ⟨hm, -⟩ | ⟨other, rest, hm, -⟩
    · obtain ⟨other, held, hheld, hclosed⟩ := hreading.terminated hwas
      exact hsame other held hheld hclosed
    · cases hm
    · cases hm
  · rintro (hleaving | ⟨leaving, request, hleaving, -⟩) <;> cases hreading'.quiet.symm.trans hleaving
  · have hrelaying : after.relaying = true := hreading.relaying session { launch with request := none } hseen hslot hwas
    have hline : lost.line session = x.line session := by
      simp only [lost, hstep]
      rfl
    obtain ⟨kept, hitems, hkept⟩ := push_items launch.inbox (.disconnected error)
    have hinbox : after.inbox = launch.inbox.push (.disconnected error) := by
      simp only [after, Launched.after, Session.notices_link, hnotices]
      rfl
    refine ⟨x.line session ++ kept.flatMap launch.report, ?_, fun hmem => ?_⟩
    · rw [toSay_of_seen hafter, Launched.toSay, if_pos hrelaying, hinbox, hitems, hline, List.flatMap_append,
        List.append_assoc, List.flatMap_singleton]
      rfl
    · rcases List.mem_append.1 hmem with hline | hitem
      · obtain ⟨held, hheld, hclosed⟩ := hstanding.said session hline
        exact hsame session held hheld hclosed
      · obtain ⟨notification, hnotification, hreport⟩ := List.mem_flatMap.1 hitem
        refine launch.terminated_not_mem_report (Bool.eq_false_iff.2 fun hfarewell => ?_) hreport
        exact hsame session _ hseen (hstanding.told session _ notification hseen (hkept _ hnotification) hfarewell)

/-! ## Sessions that nothing keeps -/

/-- Nobody has said that debugging is over but a relay of a closed connection that has stopped since, and nobody but such
a relay is to say so. -/
structure LeftToRelays (x : Strands) : Prop where
  unanswered : ¬ Answering x
  stopped : ∀ session, .terminated ∈ x.line session → Stopped x session
  ended : x.server.terminated = true → ∃ session launch, x.server.seen? session = some launch ∧
    launch.session.connection.closed = true ∧ launch.relaying = false

theorem LeftToRelays.start (defaults : ServerSettings) (files : FileTree) :
    LeftToRelays { server := { defaults, files } } where
  unanswered := by rintro (hleaving | ⟨leaving, request, hleaving, -⟩) <;> cases hleaving
  stopped session h := by cases h
  ended h := by cases h

theorem LeftToRelays.after (hleft : LeftToRelays x) (hstanding : Standing x) (hdoes : Does x step result)
    (hstays : ¬ Disconnects x step) : LeftToRelays result.1 := by
  obtain ⟨accepted, hcomposed⟩ := hstanding.composed
  have hstill : ∀ session, Stopped x session → Stopped result.1 session := fun session hstopped =>
    (hdoes.sight hcomposed.free session).stopped hstopped
  have hboth : ∀ session launch, x.server.seen? session = some launch → launch.session.connection.closed = true →
      Stopped x session → ∃ session launch, result.1.server.seen? session = some launch ∧
        launch.session.connection.closed = true ∧ launch.relaying = false := by
    intro session launch hseen hclosed hstopped
    obtain ⟨after, hafter, hgone⟩ := (hdoes.sight hcomposed.free session).closed hseen hclosed
    obtain ⟨held, hheld, hsilent⟩ := hstill session hstopped
    obtain rfl := Option.some.inj (hafter.symm.trans hheld)
    exact ⟨session, after, hafter, hgone, hsilent⟩
  refine ⟨?_, ?_, ?_⟩
  · intro hanswering
    exact (hdoes.answering hanswering).elim hleft.unanswered hstays
  · intro session hsaid
    exact (hdoes.sight hcomposed.free session).stopped_of_said (hleft.stopped session) hsaid
  · intro hterminated
    rcases hdoes.terminated_cases hcomposed hterminated with hwas | ⟨-, hleaving⟩ | ⟨session, rest, -, hline⟩
    · obtain ⟨session, launch, hseen, hclosed, hsilent⟩ := hleft.ended hwas
      exact hboth session launch hseen hclosed ⟨launch, hseen, hsilent⟩
    · exact absurd (.inl hleaving) hleft.unanswered
    · have hmem : .terminated ∈ x.line session := hline ▸ List.mem_cons_self ..
      obtain ⟨launch, hseen, hclosed⟩ := hstanding.said session hmem
      exact hboth session launch hseen hclosed (hleft.stopped session hmem)

theorem LeftToRelays.run (hleft : LeftToRelays x) (hstanding : Standing x) (steps : List Step)
    (hstays : ∀ past next rest, steps = past ++ next :: rest → ¬ Disconnects (x.run past).1 next) :
    LeftToRelays (x.run steps).1 := by
  induction steps generalizing x with
  | nil => exact hleft
  | cons step steps ih =>
    have hnext := hleft.after hstanding (x.step_does step) (hstays [] step steps rfl)
    exact ih hnext (hstanding.after (x.step_does step)) fun past next rest heq =>
      hstays (step :: past) next rest (congrArg (step :: ·) heq)

/-- The relay of a closed connection has stopped, and has nothing left to say. -/
structure Muted (x : Strands) (session : Nat) : Prop where
  stopped : Stopped x session
  idle : x.line session = []
  closed : ∃ launch, x.server.seen? session = some launch ∧ launch.session.connection.closed = true

theorem Muted.after (hmuted : Muted x session) (hstanding : Standing x) (hdoes : Does x step result) :
    Muted result.1 session ∧ (step = .relays session → Loop.sent result.2 = []) := by
  obtain ⟨accepted, hcomposed⟩ := hstanding.composed
  have hsight := hdoes.sight hcomposed.free session
  obtain ⟨hidle, hsilent⟩ := hsight.silent hmuted.stopped hmuted.idle
  obtain ⟨launch, hseen, hclosed⟩ := hmuted.closed
  exact ⟨⟨hsight.stopped hmuted.stopped, hidle, hsight.closed hseen hclosed⟩, hsilent⟩

theorem Muted.run (hmuted : Muted x session) (hstanding : Standing x) (steps : List Step) :
    Muted (x.run steps).1 session := by
  induction steps generalizing x with
  | nil => exact hmuted
  | cons step steps ih =>
    exact ih (hmuted.after hstanding (x.step_does step)).1 (hstanding.after (x.step_does step))

/-- There is no other relay that could say that debugging is over. -/
theorem Muted.quiet (hmuted : Muted x session) (hstanding : Standing x) (hleft : LeftToRelays x)
    (hquiet : x.server.terminated = false) (steps : List Step)
    (hstays : ∀ past next rest, steps = past ++ next :: rest → ¬ Disconnects (x.run past).1 next) :
    (x.run steps).1.server.terminated = false := by
  induction steps generalizing x with
  | nil => exact hquiet
  | cons step steps ih =>
    obtain ⟨accepted, hcomposed⟩ := hstanding.composed
    have hdoes := x.step_does step
    refine ih (hmuted.after hstanding hdoes).1 (hstanding.after hdoes)
      (hleft.after hstanding hdoes (hstays [] step steps rfl)) ?_ fun past next rest heq =>
        hstays (step :: past) next rest (congrArg (step :: ·) heq)
    refine Bool.eq_false_iff.2 fun hterminated => ?_
    rcases hdoes.terminated_cases hcomposed hterminated with hwas | ⟨-, hleaving⟩ | ⟨other, rest, -, hline⟩
    · rw [hquiet] at hwas
      cases hwas
    · exact hleft.unanswered (.inl hleaving)
    · obtain ⟨held, hheld, hgone⟩ := hstanding.said other (hline ▸ List.mem_cons_self ..)
      obtain ⟨launch, hseen, hclosed⟩ := hmuted.closed
      obtain rfl := hstanding.unique hseen hclosed hheld hgone
      rw [hmuted.idle] at hline
      cases hline

/-! ## Runs -/

theorem Standing.terminations_of_run (hstanding : Standing x) (hquiet : x.server.terminated = false)
    (steps : List Step) : terminations (x.run steps).2 = (x.run steps).1.server.terminated.toNat := by
  have htallies := hstanding.tallies steps
  rwa [Server.Tallies, hquiet] at htallies

/-- Once a request to disconnect is read, the request loop leaves, and then debugging is over. -/
theorem Standing.disconnected (hstanding : Standing x) (hdisconnects : Disconnects x step) (later : List Step) :
    (3 ≤ later.countP (·.isLeaving) → (x.run (step :: later)).1.leaving = none) ∧
      ((x.run (step :: later)).1.leaving = none → (x.run (step :: later)).1.server.terminated = true) := by
  obtain ⟨hreading, message, rfl, hkind, hcommand⟩ := hdisconnects
  have hdeparts : (Server.Move.step (.receive message)).departs? = some (some message) := if_pos ⟨hkind, hcommand⟩
  have hdismissed := Dismissed.depart hdeparts hreading hstanding
  have hafter := hstanding.after (x.step_does (.moves (.step (.receive message))))
  exact ⟨hafter.leaves hdismissed.ended, (hdismissed.run hafter later).done⟩

/-- Once its connection is lost, the relay of the session in the slot comes to say so. -/
theorem Standing.lost (hstanding : Standing x) (hslot : x.server.slot = some session) {launch : Launched}
    (hfound : Assoc.find? session x.server.launches = some launch) {action : Connection.Action}
    (hother : action ≠ .shutdown) {error : Option String}
    (htold : .told (.disconnected error) ∈ (launch.session.connection.step action).2) {later : List Step} :
    let lost := (x.step (.moves (.step (.link session action)))).1
    lost.turns session ≤ later.countP (·.isTurnOf session) → (lost.run later).1.server.broken = false →
    (∀ past, past <+: later → Heeds (lost.run past).1 session) →
    (lost.run later).1.server.terminated = true ∧
      ∀ cause, error = some cause →
        (∀ past next rest, later = past ++ next :: rest → ¬ Disconnects (lost.run past).1 next) →
        ∃ first ended last, Loop.sent (lost.run later).2 = first ++ ended :: last ∧ ended.terminates = true ∧
          ∃ message ∈ first, message.Shows "stderr" s!"Lost connection to debug server: {cause}" := by
  intro lost hturns hopen hheeds
  have hbefore : x.server.broken = false := Bool.eq_false_iff.2 fun hbroken => by
    have hstuck : lost = x := congrArg Prod.fst (x.step_of_broken hbroken _)
    rw [hstuck, broken_of_run hbroken, hbroken] at hopen
    cases hopen
  have hstanding' : Standing lost := hstanding.after (x.step_does _)
  obtain ⟨⟨after, hlost⟩, hquiet, hanswering, before, hsaying, hnone⟩ :=
    hstanding.loses hbefore hslot hfound hother htold
  refine ⟨hlost.terminates hstanding' later hheeds hopen hturns (by rw [hsaying]; simp [farewell]), ?_⟩
  rintro cause rfl hstays
  have hlines : lost.toSay session
      = (before ++ [.output "stderr" s!"Lost connection to debug server: {cause}"]) ++ [.terminated] := by
    rw [hsaying, List.append_assoc]
    rfl
  obtain ⟨first, ended, last, hsent, hended, hshows⟩ := hlost.shows_first hstanding' later hheeds hopen hturns hlines
    (by simpa using hnone) hquiet hanswering hstays
  exact ⟨first, ended, last, hsent, hended, hshows "stderr" _ (by simp)⟩

/-- Who says that debugging is over has a reason. -/
theorem Does.reason (hdoes : Does x step result) (hstanding : Standing x) (hsaying : terminations result.2 ≠ 0) :
    step = .leaves ∧ Answering x ∨ ∃ session launch, step = .relays session ∧
      x.server.seen? session = some launch ∧ launch.session.connection.closed = true := by
  obtain ⟨accepted, hcomposed⟩ := hstanding.composed
  have htallies := hdoes.tallies hstanding
  unfold Server.Tallies at htallies
  have hover : result.1.server.terminated = true ∧ x.server.terminated = false := by
    cases hbefore : x.server.terminated <;> cases hafter : result.1.server.terminated <;> simp_all
  rcases hdoes.terminated_cases hcomposed hover.1 with hwas | ⟨hstep, hleaving⟩ | ⟨session, rest, hstep, hline⟩
  · rw [hover.2] at hwas
    cases hwas
  · exact .inl ⟨hstep, .inl hleaving⟩
  · obtain ⟨launch, hseen, hclosed⟩ := hstanding.said session (hline ▸ List.mem_cons_self ..)
    exact .inr ⟨session, launch, hstep, hseen, hclosed⟩

theorem Does.of_turn (hdoes : Does x step result) (hturn : step = .relays session) :
    result.1.server.slot = x.server.slot ∧ result.1.server.ending = x.server.ending := by
  cases hdoes with
  | idles | rests | hears => exact ⟨rfl, rfl⟩
  | reports pending => exact ⟨(x.server.say_passes _).slot, (x.server.say_passes _).ending⟩
  | acts | departs | hangsUp | answers | terminates => cases hturn

/-- The turns of relays leave the slot as it is, and the reading of requests. -/
theorem run_of_turns (x : Strands) (steps : List Step) (hturns : ∀ step ∈ steps, step = .relays session) :
    (x.run steps).1.server.slot = x.server.slot ∧ (x.run steps).1.server.ending = x.server.ending := by
  induction steps generalizing x with
  | nil => exact ⟨rfl, rfl⟩
  | cons step steps ih =>
    obtain ⟨hslot, hending⟩ := (x.step_does step).of_turn (hturns step List.mem_cons_self)
    obtain ⟨hslot', hending'⟩ := ih (x.step step).1 fun other hmem => hturns other (List.mem_cons_of_mem _ hmem)
    exact ⟨hslot'.trans hslot, hending'.trans hending⟩

/-- Debugging ends once. For all runs of the adapter, in which the editor, the servers, the relays and the request loop
come in any order and have their turns also between the pieces of what the others do:

* That debugging is over is told once at most.
* Once a request to disconnect is read, whatever is under way and whether there is a session or not, it takes three
  steps of the request loop until it has left; and then this was told just once.
* When the session in the slot loses its connection, then this is told just once after so and so many turns of its relay,
  as long as the editor's messages can be read and the session is there for the server's news that still waits. If the
  connection broke with an error, the user is shown the error before that, unless a request to disconnect is read first.
* It is told only by the request loop as it leaves at a request to disconnect, or by the relay of a session that was
  connected before or was taken from the slot by the request loop. -/
theorem debugging_ends_once (defaults : ServerSettings) (files : FileTree) (before : List Step) :
    let start : Strands := { server := { defaults, files } }
    let x := (start.run before).1
    terminations (start.run before).2 ≤ 1 ∧
    (∀ step later, Disconnects x step →
      let result := start.run (before ++ step :: later)
      (3 ≤ later.countP (·.isLeaving) → result.1.leaving = none) ∧
      (result.1.leaving = none → terminations result.2 = 1)) ∧
    (∀ session launch action error, x.server.slot = some session →
      Assoc.find? session x.server.launches = some launch → action ≠ .shutdown →
      .told (.disconnected error) ∈ (launch.session.connection.step action).2 →
      let lost := (x.step (.moves (.step (.link session action)))).1
      ∃ turns, ∀ later,
        let result := start.run (before ++ .moves (.step (.link session action)) :: later)
        turns ≤ later.countP (·.isTurnOf session) → result.1.server.broken = false →
        (∀ past, past <+: later → Heeds (lost.run past).1 session) →
        terminations result.2 = 1 ∧
        ∀ cause, error = some cause →
          (∀ past next rest, later = past ++ next :: rest → ¬ Disconnects (lost.run past).1 next) →
          ∃ first ended last, Loop.sent result.2 = first ++ ended :: last ∧ ended.terminates = true ∧
            ∃ message ∈ first, message.Shows "stderr" s!"Lost connection to debug server: {cause}") ∧
    (∀ step, terminations (x.step step).2 ≠ 0 →
      step = .leaves ∧ (∃ past next rest, before = past ++ next :: rest ∧ Disconnects (start.run past).1 next) ∨
      ∃ session, step = .relays session ∧
        ∃ past next rest, before = past ++ next :: rest ∧ Parts (start.run past).1 session next) := by
  intro start x
  have hstart : Standing start := .start defaults files
  have hstanding : Standing x := hstart.run before
  have hcount := fun steps => hstart.terminations_of_run rfl steps
  refine ⟨?_, fun step later hdisconnects => ?_, fun session launch action error hslot hfound hother htold => ?_,
    fun step hsaying => ?_⟩
  · rw [hcount]
    exact Bool.toNat_le _
  · intro result
    have hresult : result.1 = (x.run (step :: later)).1 := by
      simp only [result, run_append]
      rfl
    obtain ⟨hleft, hover⟩ := hstanding.disconnected hdisconnects later
    refine ⟨fun hleaves => hresult ▸ hleft hleaves, fun hnone => (hcount _).trans ?_⟩
    rw [hresult] at hnone
    rw [show (start.run _).1 = _ from hresult, hover hnone]
    rfl
  · intro lost
    refine ⟨lost.turns session, fun later => ?_⟩
    intro result hturns hopen hheeds
    have hresult : result = ((lost.run later).1, (start.run before).2 ++
        ((x.step (.moves (.step (.link session action)))).2 ++ (lost.run later).2)) := by
      simp only [result, run_append, run_cons]
      rfl
    rw [hresult] at hopen
    obtain ⟨hover, hshows⟩ := hstanding.lost hslot hfound hother htold hturns hopen hheeds
    refine ⟨(hcount _).trans ?_, fun cause herror hstays => ?_⟩
    · rw [show start.run _ = _ from hresult]
      exact congrArg Bool.toNat hover
    · obtain ⟨first, ended, last, hsent, hended, message, hmem, hshown⟩ := hshows cause herror hstays
      rw [hresult, Server.sent_append, Server.sent_append, hsent, ← List.append_assoc, ← List.append_assoc]
      exact ⟨_, ended, last, rfl, hended, message, List.mem_append_right _ hmem, hshown⟩
  · rcases (x.step_does step).reason hstanding hsaying with ⟨hstep, hanswering⟩ | ⟨session, launch, hstep, hseen, hclosed⟩
    · refine .inl ⟨hstep, (start.answering_of_run before hanswering).resolve_left ?_⟩
      rintro (hleaving | ⟨leaving, request, hleaving, -⟩) <;> cases hleaving
    · refine .inr ⟨session, hstep, (hstart.parted before hseen hclosed).resolve_left ?_⟩
      rintro ⟨launch, hnone, -⟩
      cases hnone

/-- The connection of a session that has just come about breaks. After enough turns of its relay, the user has been shown
the error and then told that debugging is over. -/
theorem debugging_ends_once_when_lost :
    let before : List Step := [.moves (.step (.receive { seq := 1, command := "launch" })), .moves (.step .begin),
      .moves (.step (.link 0 (.opened 0 7))), .moves (.step (.link 0 (.attach 0)))]
    let breaks : Step := .moves (.step (.link 0 (.readFailed "reset")))
    ∃ turns : Nat,
      let result := ({} : Strands).run (before ++ breaks :: List.replicate turns (.relays 0))
      terminations result.2 = 1 ∧
      ∃ first ended last, Loop.sent result.2 = first ++ ended :: last ∧ ended.terminates = true ∧
        ∃ message ∈ first, message.Shows "stderr" "Lost connection to debug server: reset" := by
  intro before breaks
  let x := (({} : Strands).run before).1
  obtain ⟨launch, hfound, htold⟩ : ∃ launch, Assoc.find? 0 x.server.launches = some launch ∧
      .told (.disconnected (some "reset")) ∈ (launch.session.connection.step (.readFailed "reset")).2 :=
    ⟨_, rfl, List.mem_cons_self⟩
  obtain ⟨-, -, hlost, -⟩ := debugging_ends_once {} {} before
  obtain ⟨turns, hends⟩ := hlost 0 launch (.readFailed "reset") (some "reset") rfl hfound (by simp) htold
  let later := List.replicate turns (Step.relays 0)
  have hturns : ∀ step ∈ later, step = .relays 0 := fun step => List.eq_of_mem_replicate
  have hcount : later.countP (·.isTurnOf 0) = turns := by
    rw [List.countP_replicate]
    exact if_pos rfl
  have hslot : (x.step breaks).1.server.slot = some 0 ∧ (x.step breaks).1.server.ending = none := ⟨rfl, rfl⟩
  have hopen : (({} : Strands).run (before ++ breaks :: later)).1.server.broken = false := by
    rw [run_append, run_cons, Server.broken, ((x.step breaks).1.run_of_turns later hturns).2, hslot.2]
  -- The session stays in the slot, and nothing else is read.
  have hheeds : ∀ past, past <+: later → Heeds ((x.step breaks).1.run past).1 0 := by
    intro past hpast
    left
    simp [keeps, Server.keeps, ((x.step breaks).1.run_of_turns past fun step hmem => hturns step (hpast.mem hmem)).1,
      hslot.1]
  obtain ⟨hone, hshown⟩ := hends later (Nat.le_of_eq hcount.symm) hopen hheeds
  refine ⟨turns, hone, hshown "reset" rfl fun past next rest hsplit => ?_⟩
  rintro ⟨-, message, hreceive, -⟩
  rw [hturns next (hsplit ▸ List.mem_append_right _ List.mem_cons_self)] at hreceive
  cases hreceive

/-- Also without a session, and however often it is asked for. -/
example :
    let disconnects : Step := .moves (.step (.receive { command := "disconnect" }))
    terminations (({} : Strands).run [disconnects, .leaves, .leaves, disconnects, .leaves, .leaves]).2 = 1 := by
  decide

/-- A session that nothing keeps any more ends quietly: one that the end of the input has taken from the slot, while
there waits news from before its connection was lost or shut down. When its relay comes to that news, it stops. Neither
then nor at any later turn it says anything. So unless there was a request to disconnect, nobody ever tells that
debugging is over. -/
theorem unheeded_sessions_end_quietly (defaults : ServerSettings) (files : FileTree) (before later : List Step)
    (session : Nat) (launch : Launched) (payload : Wire.Event.Payload) (rest : List Notification) :
    let start : Strands := { server := { defaults, files } }
    let x := (start.run before).1
    x.line session = [] → Assoc.find? session x.server.launches = some launch → launch.relaying = true →
    launch.session.connection.closed = true → launch.inbox.lost = 0 → launch.inbox.items = .debug payload :: rest →
    x.keeps session = false → x.server.broken = false →
    (∀ past next, .relays session :: later = past ++ .relays session :: next →
      Loop.sent ((x.run past).1.step (.relays session)).2 = []) ∧
    ((∀ past next rest, before ++ .relays session :: later = past ++ next :: rest →
        ¬ Disconnects (start.run past).1 next) →
      terminations (start.run (before ++ .relays session :: later)).2 = 0) := by
  intro start x hidle hfound hrelaying hclosed hcaughtUp hitems hunkept hopen
  have hstart : Standing start := .start defaults files
  have hstanding : Standing x := hstart.run before
  have hhear : launch.hear (x.keeps session)
      = some ({ launch with inbox := { launch.inbox with items := rest }, relaying := false }, [], []) := by
    simp [Launched.hear, Inbox.take, hrelaying, hcaughtUp, hitems, hunkept]
  have hturn : x.step (.relays session) = ({ x with
      server := x.server.setLaunch session
        { launch with inbox := { launch.inbox with items := rest }, relaying := false }
      lines := Assoc.insert session [] x.lines }, []) := by
    rw [Strands.step, if_neg (by simp [hopen])]
    simp only [relay, hidle, Server.hear, hfound, Option.bind_some, hhear]
  have hseen : (x.step (.relays session)).1.server.seen? session = some { launch with
      inbox := { launch.inbox with items := rest }, relaying := false, request := none } := by
    have hset := Server.seen?_setLaunch x.server session session
      { launch with inbox := { launch.inbox with items := rest }, relaying := false }
    rw [if_pos rfl] at hset
    rw [hturn]
    exact hset
  have hmuted : Muted (x.step (.relays session)).1 session := by
    refine ⟨⟨_, hseen, rfl⟩, ?_, _, hseen, hclosed⟩
    rw [hturn, line_insert, if_pos rfl]
  have hstanding' : Standing (x.step (.relays session)).1 := hstanding.after (x.step_does _)
  constructor
  · intro past next hsplit
    cases past with
    | nil =>
      show Loop.sent (x.step (.relays session)).2 = []
      rw [hturn]
      rfl
    | cons first past =>
      obtain ⟨rfl, -⟩ := List.cons.inj hsplit
      exact ((hmuted.run hstanding' past).after (hstanding'.run past) (Strands.step_does _ _)).2 rfl
  · intro hstays
    have hleft : LeftToRelays x := (LeftToRelays.start defaults files).run hstart before fun past next more heq =>
      hstays past next (more ++ .relays session :: later) (by rw [heq, List.append_assoc]; rfl)
    -- Whoever had said so before would have been this relay, which goes on.
    have hquiet : x.server.terminated = false := by
      refine Bool.eq_false_iff.2 fun hterminated => ?_
      obtain ⟨other, held, hheld, hgone, hsilent⟩ := hleft.ended hterminated
      obtain rfl := hstanding.unique (Server.seen?_of_find? hfound) hclosed hheld hgone
      obtain rfl := Option.some.inj (hheld.symm.trans (Server.seen?_of_find? hfound))
      exact absurd (hrelaying.symm.trans hsilent) (by simp)
    have hquiet' : (x.step (.relays session)).1.server.terminated = false := by
      rw [hturn]
      exact hquiet
    have hleft' : LeftToRelays (x.step (.relays session)).1 :=
      hleft.after hstanding (x.step_does _) (hstays before _ later rfl)
    have hend := hmuted.quiet hstanding' hleft' hquiet' later fun past next more heq hdisconnects => by
      refine hstays (before ++ .relays session :: past) next more (by rw [heq, List.append_assoc]; rfl) ?_
      rw [run_append]
      exact hdisconnects
    rw [hstart.terminations_of_run rfl, run_append]
    exact congrArg Bool.toNat hend

/-- News waits when the connection breaks and the input ends. -/
example :
    let paused : Wire.Event := { payload := some (.threadPaused (some { id := 1 })) }
    let news := (Wire.putAll 1000 [] [paused.encode]).1
    let moves : List Server.Action := [.receive { seq := 1, command := "launch" }, .begin, .link 0 (.opened 0 7),
      .link 0 (.attach 0), .link 0 (.arrive news), .link 0 .read, .link 0 (.readFailed "reset"), .endInput (.ok ())]
    terminations (({} : Strands).run (moves.map (.moves ∘ .step) ++ [.leaves, .relays 0, .relays 0, .relays 0])).2 = 0 := by
  decide +kernel

end Strands

end DebugBridge.Adapter
