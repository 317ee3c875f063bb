import Mathlib.Data.List.Forall2
import Mathlib.Data.List.Perm.Basic
import DebugBridge.Adapter.Move

/-!
# Requests and responses

Every step accounts for the requests that are read: each response is for a request that was owed one, and after the step
the others are still owed theirs. Messages to the editor are numbered on from one step to the next.
-/

namespace DebugBridge.Adapter

/-- What is made of an argument is not another command. -/
theorem Command.map_ne_ok {α : Type} {command : Command} {f : α → Command} (result : Except Debugger.Error α)
    (hother : ∀ a, f a ≠ command) : result.map f ≠ .ok command := by
  cases result with
  | error error => simp [Except.map]
  | ok a => simpa [Except.map] using hother a

/-- Only a request to disconnect asks for that. -/
theorem Command.of_eq_disconnect {request : Message} :
    Command.of request = .ok .disconnect ↔ request.command = "disconnect" := by
  constructor
  · intro hcommand
    unfold Command.of at hcommand
    dsimp only at hcommand
    split at hcommand
    all_goals first
      | assumption
      | cases hcommand
      | exact absurd hcommand (map_ne_ok _ (by simp))
      | skip
    · split at hcommand
      · cases hcommand
      · split at hcommand <;> cases hcommand
    · split at hcommand <;> cases hcommand
  · intro hcommand
    unfold Command.of
    rw [hcommand]
    rfl

namespace Server

open Debugger (SessionEffect)

/-! ## Names -/

/-- The sessions and the operations are listed by their numbers, which grow. -/
structure Named (s : Server) : Prop where
  asked : Assoc.Sorted s.asked
  askedBelow : ∀ operation asked, (operation, asked) ∈ s.asked → operation < s.operations
  launches : Assoc.Sorted s.launches
  launchesBelow : ∀ session launch, (session, launch) ∈ s.launches → session < s.launched

/-- Two states in which the same is under way. -/
structure SameWork (s s' : Server) : Prop where
  ending : s'.ending = s.ending
  slot : s'.slot = s.slot
  launches : s'.launches = s.launches
  launched : s'.launched = s.launched
  tasks : s'.tasks = s.tasks
  asked : s'.asked = s.asked
  operations : s'.operations = s.operations

section

variable {s s' : Server}

theorem SameWork.refl (s : Server) : SameWork s s :=
  ⟨rfl, rfl, rfl, rfl, rfl, rfl, rfl⟩

theorem SameWork.trans {s'' : Server} (hfirst : SameWork s s') (hsecond : SameWork s' s'') : SameWork s s'' where
  ending := hsecond.ending.trans hfirst.ending
  slot := hsecond.slot.trans hfirst.slot
  launches := hsecond.launches.trans hfirst.launches
  launched := hsecond.launched.trans hfirst.launched
  tasks := hsecond.tasks.trans hfirst.tasks
  asked := hsecond.asked.trans hfirst.asked
  operations := hsecond.operations.trans hfirst.operations

theorem SameWork.named (hsame : SameWork s s') (hnamed : Named s) : Named s' where
  asked := hsame.asked ▸ hnamed.asked
  askedBelow := by
    rw [hsame.asked, hsame.operations]
    exact hnamed.askedBelow
  launches := hsame.launches ▸ hnamed.launches
  launchesBelow := by
    rw [hsame.launches, hsame.launched]
    exact hnamed.launchesBelow

end

/-! ## Accounts -/

/-- How a step accounts for the requests that it reads. -/
structure Accounts (s : Server) (read : List Message) (result : Server × List ServerEffect) : Prop where
  named : Named result.1
  next : result.1.nextSeq = s.nextSeq + (Loop.sent result.2).length
  numbered : (Loop.sent result.2).map (·.seq) =
    (List.range (Loop.sent result.2).length).map fun (i : Nat) => s.nextSeq + i
  answered : ∃ answered, List.Forall₂ Answers (responses result.2) answered ∧
    (answered ++ result.1.unanswered).Perm (s.unanswered ++ read)

/-- A step that accounts for its requests, and reads on. -/
structure Proceeds (s : Server) (read : List Message) (result : Server × List ServerEffect) : Prop
    extends Accounts s read result where
  ending : result.1.ending = s.ending

section

variable {s s' s'' : Server} {read read' : List Message} {effects effects' : List ServerEffect}

theorem sent_append (effects effects' : List ServerEffect) :
    Loop.sent (effects ++ effects') = Loop.sent effects ++ Loop.sent effects' :=
  List.filterMap_append

theorem responses_append (effects effects' : List ServerEffect) :
    responses (effects ++ effects') = responses effects ++ responses effects' :=
  List.filterMap_append

/-- A step that sends nothing accounts for the requests that it reads if they are owed after it. -/
theorem Proceeds.silent {read : List Message} (hnamed : Named s') (hending : s'.ending = s.ending)
    (hnext : s'.nextSeq = s.nextSeq) (howed : s'.unanswered.Perm (s.unanswered ++ read)) (hsent : Loop.sent effects = []) :
    Proceeds s read (s', effects) where
  named := hnamed
  ending := hending
  next := by simp [hsent, hnext]
  numbered := by simp [hsent]
  answered := by
    have hnone : responses effects = [] := by
      refine List.filterMap_eq_nil_iff.2 fun effect heffect => ?_
      have hnot := List.filterMap_eq_nil_iff.1 hsent effect heffect
      cases effect with
      | sent message => cases hnot
      | _ => rfl
    exact ⟨[], by rw [hnone]; exact .nil, howed⟩

theorem Proceeds.refl (hnamed : Named s) : Proceeds s [] (s, []) :=
  .silent hnamed rfl rfl (by rw [List.append_nil]) rfl

/-- What was numbered on in two steps is numbered on in both together. -/
theorem numbered_append {first second : List Int} {start : Int}
    (hfirst : first = (List.range first.length).map fun (i : Nat) => start + i)
    (hsecond : second = (List.range second.length).map fun (i : Nat) => start + first.length + i) :
    first ++ second = (List.range (first ++ second).length).map fun (i : Nat) => start + i := by
  rw [List.length_append, List.range_add, List.map_append, List.map_map, ← hfirst]
  congr 1
  rw [hsecond, List.length_map, List.length_range]
  refine List.map_congr_left fun i _ => ?_
  simp only [Function.comp_apply, Int.natCast_add]
  omega

theorem Accounts.append (hfirst : Accounts s read (s', effects)) (hsecond : Accounts s' read' (s'', effects')) :
    Accounts s (read ++ read') (s'', effects ++ effects') where
  named := hsecond.named
  next := by
    have h := hsecond.next
    have h' := hfirst.next
    simp only [sent_append, List.length_append] at h h' ⊢
    omega
  numbered := by
    have h := hsecond.numbered
    rw [hfirst.next] at h
    simp only [sent_append, List.map_append] at h ⊢
    have := @numbered_append ((Loop.sent effects).map (·.seq)) ((Loop.sent effects').map (·.seq)) s.nextSeq
      (by simpa using hfirst.numbered) (by simpa using h)
    simpa using this
  answered := by
    obtain ⟨answered, hanswers, howed⟩ := hfirst.answered
    obtain ⟨answered', hanswers', howed'⟩ := hsecond.answered
    refine ⟨answered ++ answered', ?_, ?_⟩
    · rw [responses_append]
      exact List.rel_append hanswers hanswers'
    · have hlater := (howed'.append_left answered).trans (List.Perm.of_eq (List.append_assoc _ _ _).symm)
      have hboth := hlater.trans (howed.append_right read')
      rw [List.append_assoc] at hboth ⊢
      exact hboth

theorem Proceeds.append (hfirst : Proceeds s read (s', effects)) (hsecond : Proceeds s' read' (s'', effects')) :
    Proceeds s (read ++ read') (s'', effects ++ effects') :=
  ⟨hfirst.toAccounts.append hsecond.toAccounts, hsecond.ending.trans hfirst.ending⟩

/-- The reading of requests ends. -/
theorem Accounts.ends {result : Server × List ServerEffect} (haccounts : Accounts s read result)
    (ending : Option (Except ReadError Unit)) : Accounts s read ({ result.1 with ending }, result.2) :=
  ⟨{ haccounts.named with }, haccounts.next, haccounts.numbered, haccounts.answered⟩

/-- A step accounts from another state just as well, if there the same is owed and read. -/
theorem Proceeds.rebase {result : Server × List ServerEffect} (hproceeds : Proceeds s' read' result)
    (hending : s'.ending = s.ending) (hnext : s'.nextSeq = s.nextSeq)
    (howed : (s'.unanswered ++ read').Perm (s.unanswered ++ read)) :
    Proceeds s read result where
  named := hproceeds.named
  ending := hproceeds.ending.trans hending
  next := hnext ▸ hproceeds.next
  numbered := hnext ▸ hproceeds.numbered
  answered := by
    obtain ⟨answered, hanswers, hstill⟩ := hproceeds.answered
    exact ⟨answered, hanswers, hstill.trans howed⟩

end

/-! ## Messages to the editor -/

section

variable {s : Server}

/-- A response is for a request. -/
theorem respond_proceeds (hnamed : Named s) (request : Message) (success : Bool) (body : Option Json)
    (message : Option String) : Proceeds s [request] (s.respond request success body message) where
  named := { hnamed with }
  ending := rfl
  next := rfl
  numbered := by simp [respond, Loop.sent, Outgoing.seq]
  answered := ⟨[request], .cons ⟨rfl, rfl⟩ .nil, List.perm_append_comm⟩

theorem respond_sameWork (s : Server) (request : Message) (success : Bool) (body : Option Json)
    (message : Option String) : SameWork s (s.respond request success body message).1 :=
  ⟨rfl, rfl, rfl, rfl, rfl, rfl, rfl⟩

/-- What is logged beside it makes no difference. -/
theorem Accounts.log {read : List Message} {s' : Server} {effects : List ServerEffect}
    (haccounts : Accounts s read (s', effects)) (record : Log.Record) :
    Accounts s read (s', .logged record :: effects) :=
  ⟨haccounts.named, haccounts.next, haccounts.numbered, haccounts.answered⟩

theorem Proceeds.log {read : List Message} {s' : Server} {effects : List ServerEffect}
    (hproceeds : Proceeds s read (s', effects)) (record : Log.Record) :
    Proceeds s read (s', .logged record :: effects) :=
  ⟨hproceeds.toAccounts.log record, hproceeds.ending⟩

theorem fail_proceeds (hnamed : Named s) (request : Message) (error : Debugger.Error) :
    Proceeds s [request] (s.fail request error) :=
  (respond_proceeds hnamed request false none (some error.message)).log _

theorem fail_sameWork (s : Server) (request : Message) (error : Debugger.Error) :
    SameWork s (s.fail request error).1 :=
  ⟨rfl, rfl, rfl, rfl, rfl, rfl, rfl⟩

theorem tell_proceeds (hnamed : Named s) (event : String) (body : Option Json) : Proceeds s [] (s.tell event body) where
  named := { hnamed with }
  ending := rfl
  next := rfl
  numbered := by simp [tell, Loop.sent, Outgoing.seq]
  answered := ⟨[], .nil, by rw [List.append_nil]; rfl⟩

theorem tell_sameWork (s : Server) (event : String) (body : Option Json) : SameWork s (s.tell event body).1 :=
  ⟨rfl, rfl, rfl, rfl, rfl, rfl, rfl⟩

theorem output_sameWork (s : Server) (category line : String) : SameWork s (s.output category line).1 :=
  tell_sameWork s "output" _

theorem output_proceeds (hnamed : Named s) (category line : String) : Proceeds s [] (s.output category line) :=
  tell_proceeds hnamed "output" _

theorem terminate_proceeds (hnamed : Named s) : Proceeds s [] s.terminate := by
  unfold terminate
  split
  · exact .refl hnamed
  · have hnamed' : Named { s with terminated := true } :=
      { hnamed with }
    exact (tell_proceeds hnamed' "terminated" none).rebase rfl rfl (.refl _)

theorem terminate_sameWork (s : Server) : SameWork s s.terminate.1 := by
  unfold terminate
  split
  · exact .refl s
  · exact ⟨rfl, rfl, rfl, rfl, rfl, rfl, rfl⟩

theorem tellNews_proceeds (hnamed : Named s) (news : List Debugger.News) : Proceeds s [] (s.tellNews news) := by
  induction news generalizing s with
  | nil => exact .refl hnamed
  | cons first rest ih =>
    have hfirst := tell_proceeds hnamed (newsEvent first).1 (some (newsEvent first).2)
    exact hfirst.append (ih hfirst.named)

theorem tellNews_sameWork (s : Server) (news : List Debugger.News) : SameWork s (s.tellNews news).1 := by
  induction news generalizing s with
  | nil => exact .refl s
  | cons first rest ih => exact (tell_sameWork s (newsEvent first).1 (some (newsEvent first).2)).trans (ih _)

/-! ## Launches and operations -/

/-- What is owed to launches, apart from one, and to operations. -/
def owedBeside (s : Server) (session : Nat) : List Message :=
  (Assoc.erase session s.launches).filterMap (·.2.request) ++ s.asked.map (·.2.request)

theorem unanswered_perm (hnamed : Named s) {session : Nat} {launch : Launched}
    (hfound : Assoc.find? session s.launches = some launch) :
    s.unanswered.Perm (launch.request.toList ++ s.owedBeside session) := by
  have hperm := (hnamed.launches.perm_erase hfound).filterMap (·.2.request)
  rw [unanswered, owedBeside, ← List.append_assoc]
  refine (hperm.trans (.of_eq ?_)).append_right _
  cases hrequest : launch.request <;> simp [hrequest]

theorem unanswered_setLaunch (hnamed : Named s) (session : Nat) (launch : Launched) :
    (s.setLaunch session launch).unanswered.Perm (launch.request.toList ++ s.owedBeside session) := by
  have hperm := (hnamed.launches.insert_perm session launch).filterMap (·.2.request)
  rw [unanswered, owedBeside, ← List.append_assoc]
  refine (hperm.trans (.of_eq ?_)).append_right _
  cases hrequest : launch.request <;> simp [hrequest]

theorem Named.setLaunch (hnamed : Named s) {session : Nat} (hbelow : session < s.launched) (launch : Launched) :
    Named (s.setLaunch session launch) where
  asked := hnamed.asked
  askedBelow := hnamed.askedBelow
  launches := hnamed.launches.insert session launch
  launchesBelow other held hmem := by
    rcases Assoc.mem_insert hmem with heq | hmem
    · cases heq
      exact hbelow
    · exact hnamed.launchesBelow other held hmem

/-- A launch that changes, but for its request. -/
theorem setLaunch_proceeds (hnamed : Named s) {session : Nat} {launch changed : Launched}
    (hfound : Assoc.find? session s.launches = some launch) (hrequest : changed.request = launch.request) :
    Proceeds s [] (s.setLaunch session changed, []) := by
  have hbelow := hnamed.launchesBelow session launch (Assoc.mem_of_find? hfound)
  refine .silent (hnamed.setLaunch hbelow changed) rfl rfl ?_ rfl
  rw [List.append_nil]
  refine (unanswered_setLaunch hnamed session changed).trans ?_
  rw [hrequest]
  exact (unanswered_perm hnamed hfound).symm

theorem answerLaunch_proceeds (hnamed : Named s) (session : Nat) (result : Except CallError Unit) :
    Proceeds s [] (s.answerLaunch session result) := by
  unfold answerLaunch
  split
  · next launch hfound =>
    split
    · next request hrequest =>
      have hbelow := hnamed.launchesBelow session launch (Assoc.mem_of_find? hfound)
      have hnamed' := hnamed.setLaunch hbelow { launch with request := none }
      -- The launch is owed its response until it gets that.
      have howed : ((s.setLaunch session { launch with request := none }).unanswered ++ [request]).Perm
          (s.unanswered ++ []) := by
        have hbefore := unanswered_perm hnamed hfound
        rw [hrequest] at hbefore
        rw [List.append_nil]
        exact ((unanswered_setLaunch hnamed session _).append_right _).trans
          (List.perm_append_comm.trans hbefore.symm)
      cases result with
      | ok success =>
        have hsaid := respond_proceeds hnamed' request true none none
        exact (hsaid.append (tell_proceeds hsaid.named "initialized" none)).rebase rfl rfl howed
      | error error =>
        have hnamed'' : Named { s.setLaunch session { launch with request := none } with
            slot := if s.slot = some session then none else s.slot } :=
          { hnamed' with }
        have hsaid := respond_proceeds hnamed'' request false none
          (some s!"failed to connect to debug server at {launch.target}: {error.message}")
        have hproceeds : Proceeds s [] _ := hsaid.rebase rfl rfl howed
        exact hproceeds.log _
    · exact .refl hnamed
  · exact .refl hnamed

theorem answerOperation_proceeds (hnamed : Named s) (operation : Nat)
    (result : Except Debugger.Error Debugger.Answer) : Proceeds s [] (s.answerOperation operation result) := by
  unfold answerOperation
  split
  · next asked hfound =>
    have hnamed' : Named { s with asked := Assoc.erase operation s.asked } :=
      { hnamed with
        asked := hnamed.asked.erase operation
        askedBelow := fun other held hmem => hnamed.askedBelow other held (Assoc.mem_erase.1 hmem).1 }
    have howed : (({ s with asked := Assoc.erase operation s.asked } : Server).unanswered ++ [asked.request]).Perm
        (s.unanswered ++ []) := by
      have hperm := (hnamed.asked.perm_erase hfound).map (·.2.request)
      rw [List.append_nil, unanswered, unanswered, List.append_assoc]
      exact (List.perm_append_comm.trans hperm.symm).append_left _
    cases result with
    | ok answer => exact (respond_proceeds hnamed' asked.request true _ none).rebase rfl rfl howed
    | error error => exact (fail_proceeds hnamed' asked.request error).rebase rfl rfl howed
  · exact .refl hnamed

/-! ## Sessions -/

theorem absorbOne_proceeds (hnamed : Named s) (session : Nat) (effect : SessionEffect) :
    Proceeds s [] (s.absorbOne session effect) := by
  have hlink : ∀ effect, Proceeds s [] (s, [.link session effect]) :=
    fun _ => .silent hnamed rfl rfl (by rw [List.append_nil]) rfl
  cases effect with
  | link effect =>
    cases effect with
    | told notification =>
      unfold absorbOne
      dsimp only
      split
      · next launch hfound => exact setLaunch_proceeds hnamed hfound rfl
      · exact .refl hnamed
    | dialed dial result => exact answerLaunch_proceeds hnamed session result
    | _ => exact hlink _
  | asked operation request => exact .refl hnamed
  | replied operation reply => exact .refl hnamed
  | ended operation result => exact answerOperation_proceeds hnamed operation result
  | told news => exact tellNews_proceeds hnamed news

theorem absorb_proceeds (hnamed : Named s) (session : Nat) (effects : List SessionEffect) :
    Proceeds s [] (s.absorb session effects) := by
  induction effects generalizing s with
  | nil => exact .refl hnamed
  | cons effect rest ih =>
    have hfirst := absorbOne_proceeds hnamed session effect
    exact hfirst.append (ih hfirst.named)

theorem within_proceeds (hnamed : Named s) (session : Nat)
    (step : Debugger.Session → Debugger.Session × List SessionEffect) : Proceeds s [] (s.within session step) := by
  unfold within
  split
  · next launch hfound =>
    have hmoved := @setLaunch_proceeds _ hnamed _ _ { launch with session := (step launch.session).1 } hfound rfl
    exact hmoved.append (absorb_proceeds hmoved.named session _)
  · exact .refl hnamed

theorem endSession_proceeds (hnamed : Named s) : Proceeds s [] s.endSession := by
  unfold endSession
  split
  · have hnamed' : Named { s with slot := none } :=
      { hnamed with }
    exact (within_proceeds hnamed' _ _).rebase rfl rfl (.refl _)
  · exact .refl hnamed

/-! ## Requests -/

/-- A launch is owed a response from its beginning on. -/
theorem enter_proceeds (hnamed : Named s) {launch : Launched} {request : Message}
    (hrequest : launch.request = some request) (slot : Option Nat) (tasks : List Task) :
    Proceeds s [request]
      ({ s.setLaunch s.launched launch with launched := s.launched + 1, slot, tasks }, []) := by
  have hfresh : Assoc.find? s.launched s.launches = none := by
    cases hfound : Assoc.find? s.launched s.launches with
    | none => rfl
    | some launch => exact absurd (hnamed.launchesBelow _ _ (Assoc.mem_of_find? hfound)) (Nat.lt_irrefl _)
  refine .silent ⟨hnamed.asked, hnamed.askedBelow, hnamed.launches.insert _ _, fun session other hmem => ?_⟩ rfl rfl
    ?_ rfl
  · rcases Assoc.mem_insert hmem with heq | hold
    · cases heq
      exact Nat.lt_succ_self _
    · exact Nat.lt_succ_of_lt (hnamed.launchesBelow session other hold)
  · have howed := unanswered_setLaunch hnamed s.launched launch
    rw [hrequest, owedBeside, Assoc.erase_of_find?_eq_none hfresh] at howed
    exact howed.trans List.perm_append_comm

theorem launch_proceeds (hnamed : Named s) (request : Message) : Proceeds s [request] (s.launch request) := by
  unfold launch
  split
  · exact fail_proceeds hnamed request _
  · split
    · exact fail_proceeds hnamed request _
    · next arguments _ =>
      dsimp only
      have hentered := fun launch hrequest => @enter_proceeds _ hnamed launch request hrequest (some s.launched)
        (s.tasks ++ [.connect s.launched])
      have hlogged : ∀ {s' : Server} {effects : List ServerEffect} (record : Log.Record),
          Proceeds s [request] (s', effects) → Proceeds s [request] (s', effects ++ [.logged record]) :=
        fun record hproceeds => hproceeds.append (.silent hproceeds.named rfl rfl (by rw [List.append_nil]) rfl)
      split
      · refine hlogged _ ?_
        exact (hentered _ rfl).append (output_proceeds (hentered _ rfl).named "console" _)
      · exact hlogged _ (hentered _ rfl)

theorem ask_proceeds (hnamed : Named s) (request : Message) (what : Debugger.Operation) :
    Proceeds s [request] (s.ask request what) := by
  unfold ask
  split
  · exact fail_proceeds hnamed request _
  · next session hslot =>
    have hfresh : Assoc.find? s.operations s.asked = none := by
      cases hfound : Assoc.find? s.operations s.asked with
      | none => rfl
      | some asked => exact absurd (hnamed.askedBelow _ _ (Assoc.mem_of_find? hfound)) (Nat.lt_irrefl _)
    refine .silent ⟨hnamed.asked.insert _ _, fun operation asked hmem => ?_, hnamed.launches, hnamed.launchesBelow⟩ rfl
      rfl ?_ rfl
    · rcases Assoc.mem_insert hmem with heq | hold
      · cases heq
        exact Nat.lt_succ_self _
      · exact Nat.lt_succ_of_lt (hnamed.askedBelow operation asked hold)
    · have hperm := (hnamed.asked.insert_perm s.operations { session, what, request }).map (·.2.request)
      rw [Assoc.erase_of_find?_eq_none hfresh] at hperm
      rw [unanswered, unanswered, List.append_assoc]
      exact (hperm.trans (@List.perm_append_comm _ [request] _)).append_left _

theorem scopes_proceeds (hnamed : Named s) (frame : Debugger.Reference) :
    Proceeds s [] ((s.scopes frame).2, []) := by
  unfold scopes current?
  cases hslot : s.slot with
  | none => exact .refl hnamed
  | some session =>
    dsimp only [Option.bind_some]
    cases hfound : Assoc.find? session s.launches with
    | none => exact .refl hnamed
    | some launch => exact setLaunch_proceeds hnamed hfound rfl

/-- Of all requests, only the one to disconnect ends the reading. -/
theorem perform_accounts (hnamed : Named s) (request : Message) : Accounts s [request] (s.perform request) ∧
    (s.perform request).1.ending = if request.command = "disconnect" then some (.ok ()) else s.ending := by
  have hother : Proceeds s [request] (s.perform request) → Command.of request ≠ .ok .disconnect →
      Accounts s [request] (s.perform request) ∧
        (s.perform request).1.ending = if request.command = "disconnect" then some (.ok ()) else s.ending := by
    intro hproceeds hcommand
    rw [if_neg (mt Command.of_eq_disconnect.2 hcommand)]
    exact ⟨hproceeds.toAccounts, hproceeds.ending⟩
  rcases hcommand : Command.of request with error | command
  · refine hother ?_ (by simp [hcommand])
    simp only [perform, hcommand]
    exact fail_proceeds hnamed request error
  · cases command with
    | capabilities =>
      refine hother ?_ (by simp [hcommand])
      simp only [perform, hcommand]
      exact respond_proceeds hnamed request true _ none
    | launch =>
      refine hother ?_ (by simp [hcommand])
      simp only [perform, hcommand]
      exact launch_proceeds hnamed request
    | threads =>
      refine hother ?_ (by simp [hcommand])
      simp only [perform, hcommand]
      exact respond_proceeds hnamed request true _ none
    | scopes frame =>
      refine hother ?_ (by simp [hcommand])
      simp only [perform, hcommand]
      have hscopes := scopes_proceeds hnamed frame
      exact hscopes.append (respond_proceeds hscopes.named request true _ none)
    | operation what =>
      refine hother ?_ (by simp [hcommand])
      simp only [perform, hcommand]
      exact ask_proceeds hnamed request what
    | disconnect =>
      rw [if_pos (Command.of_eq_disconnect.1 hcommand)]
      simp only [perform, hcommand, and_true]
      have hended := endSession_proceeds hnamed
      have hsaid := hended.append (respond_proceeds hended.named request true none none)
      exact (hsaid.append (terminate_proceeds hsaid.named)).toAccounts.ends _
    | unknown =>
      refine hother ?_ (by simp [hcommand])
      simp only [perform, hcommand]
      exact respond_proceeds hnamed request true none _

/-! ## Steps -/

theorem begin_proceeds (hnamed : Named s) : Proceeds s [] s.begin := by
  have hrest : ∀ tasks, Named { s with tasks } := fun _ => { hnamed with }
  unfold begin
  split
  · exact .refl hnamed
  · exact (within_proceeds (hrest _) _ _).rebase rfl rfl (.refl _)
  · exact (within_proceeds (hrest _) _ _).rebase rfl rfl (.refl _)

theorem prepare_proceeds (hnamed : Named s) : Proceeds s [] s.prepare := by
  have hrest : ∀ tasks, Named { s with tasks } := fun _ => { hnamed with }
  unfold prepare
  split
  · exact .refl hnamed
  · exact (within_proceeds (hrest _) _ _).rebase rfl rfl (.refl _)
  · exact (within_proceeds (hrest _) _ _).rebase rfl rfl (.refl _)

theorem relay_proceeds (hnamed : Named s) (session : Nat) : Proceeds s [] (s.relay session) := by
  unfold relay
  split
  · exact .refl hnamed
  · next launch hfound =>
    split
    · exact .refl hnamed
    · split
      · exact .refl hnamed
      · next delivery inbox _ =>
        dsimp only
        have htaken := @setLaunch_proceeds _ hnamed _ _ { launch with inbox } hfound rfl
        have hstopped : Proceeds s []
            ((s.setLaunch session { launch with inbox }).setLaunch session
              { launch with inbox, relaying := false }, []) :=
          htaken.append (@setLaunch_proceeds _ htaken.named _ { launch with inbox } _
            (Assoc.find?_insert_self _ _ _) rfl)
        split
        · exact htaken.log _
        · split
          · exact htaken.append (output_proceeds htaken.named "console" _)
          · exact htaken
        · split
          · exact htaken.append (output_proceeds htaken.named "console" _)
          · exact htaken
        · next payload _ =>
          split
          · have hheard := within_proceeds htaken.named session (·.handleEvent payload)
            exact htaken.append hheard
          · exact hstopped
        · split
          · next error _ =>
            have hsaid := hstopped.append
              (output_proceeds hstopped.named "stderr" s!"Lost connection to debug server: {error}")
            exact hsaid.append (terminate_proceeds hsaid.named)
          · exact hstopped.append (terminate_proceeds hstopped.named)

/-- The requests that are read from a state on. -/
def requestsFrom (s : Server) (moves : List Move) : List Message :=
  if s.ending.isSome then [] else requestsRead moves

/-- Where nothing is read, the same is left to be read. -/
theorem Proceeds.requestsFrom {result : Server × List ServerEffect} (hproceeds : Proceeds s [] result) {m : Move}
    {rest : List Move} (hread : requestsRead (m :: rest) = requestsRead rest) : ∃ read, Accounts s read result ∧
      s.requestsFrom (m :: rest) = read ++ result.1.requestsFrom rest := by
  refine ⟨[], hproceeds.toAccounts, ?_⟩
  rw [Server.requestsFrom, Server.requestsFrom, hproceeds.ending, hread]
  rfl

/-- A request that is read is the next one of those that are. -/
theorem requestsFrom_receive (hnamed : Named s) {message : Message} (hreading : s.ending = none)
    (hkind : message.kind = .request) (rest : List Move) :
    s.requestsFrom (.step (.receive message) :: rest) = message :: (s.receive message).1.requestsFrom rest := by
  have hending := (perform_accounts hnamed message).2
  have hreceive : (s.receive message).1 = (s.perform message).1 := by
    unfold receive
    rw [if_neg (by simp [hreading, hkind])]
  rw [hreceive, Server.requestsFrom, Server.requestsFrom, hending]
  by_cases hcommand : message.command = "disconnect" <;> simp [requestsRead, hkind, hcommand, hreading]

theorem receive_accounts (hnamed : Named s) (message : Message) (rest : List Move) :
    ∃ read, Accounts s read (s.receive message) ∧
      s.requestsFrom (.step (.receive message) :: rest) = read ++ (s.receive message).1.requestsFrom rest := by
  rcases hending : s.ending with _ | ending
  · by_cases hkind : message.kind = .request
    · refine ⟨[message], ?_, requestsFrom_receive hnamed hending hkind rest⟩
      unfold receive
      rw [if_neg (by simp [hending, hkind])]
      exact (perform_accounts hnamed message).1.log _
    · unfold receive
      rw [if_pos (.inr hkind)]
      exact (Proceeds.refl hnamed).requestsFrom (by simp [requestsRead, hkind])
  · unfold receive
    rw [if_pos (.inl (by simp [hending]))]
    refine ⟨[], (Proceeds.refl hnamed).toAccounts, ?_⟩
    simp [Server.requestsFrom, hending]

theorem endInput_accounts (hnamed : Named s) (ending : Except ReadError Unit) (rest : List Move) :
    ∃ read, Accounts s read (s.endInput ending) ∧
      s.requestsFrom (.step (.endInput ending) :: rest) = read ++ (s.endInput ending).1.requestsFrom rest := by
  refine ⟨[], ?_, ?_⟩
  · unfold endInput
    split
    · exact (Proceeds.refl hnamed).toAccounts
    · split
      · exact (endSession_proceeds hnamed).toAccounts.ends _
      · exact (Proceeds.refl hnamed).toAccounts.ends _
  · have hended : (s.endInput ending).1.ending.isSome := by
      unfold endInput
      split
      · assumption
      · split <;> rfl
    simp [Server.requestsFrom, requestsRead, hended]

theorem ended_of_broken (hbroken : s.broken = true) : s.ending.isSome := by
  unfold broken at hbroken
  split at hbroken
  · next error hending => rw [hending]; rfl
  · cases hbroken

/-- After an error nothing happens. -/
theorem move_of_broken (hbroken : s.broken = true) (m : Move) : s.move m = (s, []) := by
  cases m with
  | step action =>
    cases action with
    | link session action =>
      simp only [move, step, if_pos hbroken]
      split <;> rfl
    | _ => simp only [move, step, if_pos hbroken]
  | prepare => simp only [move, if_pos hbroken]
  | prepareTurn session => simp only [move, if_pos hbroken]

/-- A move accounts for the request that it reads, if it reads one. -/
theorem move_accounts (hnamed : Named s) (m : Move) (rest : List Move) : ∃ read, Accounts s read (s.move m) ∧
    s.requestsFrom (m :: rest) = read ++ (s.move m).1.requestsFrom rest := by
  by_cases hbroken : s.broken = true
  · -- After an error nothing is read.
    rw [move_of_broken hbroken]
    exact ⟨[], (Proceeds.refl hnamed).toAccounts, by simp [Server.requestsFrom, ended_of_broken hbroken]⟩
  · cases m with
    | step action =>
      cases action with
      | receive message =>
        simp only [move, step, if_neg hbroken]
        exact receive_accounts hnamed message rest
      | endInput ending =>
        simp only [move, step, if_neg hbroken]
        exact endInput_accounts hnamed ending rest
      | begin =>
        simp only [move, step, if_neg hbroken]
        exact (begin_proceeds hnamed).requestsFrom rfl
      | relay session =>
        simp only [move, step, if_neg hbroken]
        exact (relay_proceeds hnamed session).requestsFrom rfl
      | collect session operation =>
        simp only [move, step, if_neg hbroken]
        exact (within_proceeds hnamed session _).requestsFrom rfl
      | takeTurn session =>
        simp only [move, step, if_neg hbroken]
        exact (within_proceeds hnamed session _).requestsFrom rfl
      | link session action =>
        simp only [move, step, if_neg hbroken]
        split
        · exact (Proceeds.refl hnamed).requestsFrom rfl
        · exact (within_proceeds hnamed session _).requestsFrom rfl
    | prepare =>
      simp only [move, if_neg hbroken]
      exact (prepare_proceeds hnamed).requestsFrom rfl
    | prepareTurn session =>
      simp only [move, if_neg hbroken]
      exact (within_proceeds hnamed session _).requestsFrom rfl

/-- A run accounts for all requests that are read in it. -/
theorem moves_accounts (hnamed : Named s) (moves : List Move) :
    Accounts s (s.requestsFrom moves) (s.moves moves) := by
  induction moves generalizing s with
  | nil =>
    have hnone : s.requestsFrom [] = [] := by
      unfold Server.requestsFrom
      split <;> rfl
    rw [hnone]
    exact (Proceeds.refl hnamed).toAccounts
  | cons m rest ih =>
    obtain ⟨read, haccounts, hread⟩ := move_accounts hnamed m rest
    rw [hread]
    exact haccounts.append (ih haccounts.named)

end

end Server

end DebugBridge.Adapter
