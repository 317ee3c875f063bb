import DebugBridge.Proofs.Adapter.Bookings
import DebugBridge.Proofs.Adapter.Launches

/-!
# What is asked of a debug server

A session's server is sent what the editor's requests are to it: at the turn of each request its image joins the line to
the writer, and what is sent are those of the line so far, in their order.
-/

namespace DebugBridge.Adapter

open Connection (numbered frameOf)
open Debugger (Session SessionEffect State Operation Queued Breakpoints)

namespace Server

/-- A session has asked for what its requests' turns came to, and has sent some of that. -/
structure Faithful (s : Server) (requests : List (Nat × Message)) (session : Nat) (turns : List Turn)
    (sent : List Wire.Request) (clean : Prop) : Prop where
  booked : Booked s requests session turns
  posts : ∀ inner, s.inner? session = some inner → inner.Posts (Sets requests) (images requests turns) sent clean
    (({} : Breakpoints).after (updates requests turns))
  absent : s.inner? session = none → turns = [] ∧ sent = []

/-- What a session has sent after a move in which so many requests were entrusted. -/
def Leads (s : Server) (requests : List (Nat × Message)) (session : Nat) (turns : List Turn) (sent : List Wire.Request)
    (clean : Prop) (more : Nat) (result : Server × List ServerEffect) : Prop :=
  result.1.operations = s.operations + more ∧
    ∃ later, writesOf session result.2 = later.map frameOf ∧
      Faithful result.1 requests session turns (sent ++ later) clean

section

variable {s : Server} {requests : List (Nat × Message)} {session other operation : Nat} {turns : List Turn}
  {sent : List Wire.Request} {clean : Prop} {request : Message} {what : Operation} {limit : Nat} {tasks : List Task}
  {result : Server × List ServerEffect}

theorem Faithful.fresh (defaults : ServerSettings) (files : FileTree) (requests : List (Nat × Message)) (session : Nat)
    (clean : Prop) : Faithful { defaults, files } requests session [] [] clean where
  booked := .fresh defaults files requests session
  posts inner hinner := by cases hinner
  absent _ := ⟨rfl, rfl⟩

theorem Leads.log {more : Nat} (hleads : Leads s requests session turns sent clean more result) (record : Log.Record) :
    Leads s requests session turns sent clean more (result.1, .logged record :: result.2) :=
  hleads

/-- What two steps lead to, whatever is sent in the first. -/
theorem Leads.append {s' s'' : Server} {effects effects' : List ServerEffect} {turns' turns'' : List Turn}
    {more more' : Nat} (hfirst : Leads s requests session turns' sent clean more (s', effects))
    (hsecond : ∀ sent', Faithful s' requests session turns' sent' clean →
      Leads s' requests session turns'' sent' clean more' (s'', effects')) :
    Leads s requests session turns'' sent clean (more + more') (s'', effects ++ effects') := by
  obtain ⟨hcount, first, hwrote, hfaithful⟩ := hfirst
  obtain ⟨hlast, later, hwrites, hdone⟩ := hsecond _ hfaithful
  refine ⟨?_, first ++ later, ?_, ?_⟩
  · rw [hlast, show s'.operations = _ from hcount, Nat.add_assoc]
  · rw [writesOf_append, hwrote, hwrites, List.map_append]
  · rw [← List.append_assoc]
    exact hdone

/-! ## Moves in which nothing has its turn -/

theorem Faithful.aside (hfaithful : Faithful s requests session turns sent clean) (hsize : s.operations < UInt64.size)
    (popped : List Task) (htasks : s.tasks = popped ++ tasks)
    (hpopped : ∀ operation what, (session, operation, what) ∉ jobs popped)
    (haside : Aside { s with tasks } session clean result) : Leads s requests session turns sent clean 0 result := by
  obtain ⟨other, step, hmoves, hgoesOn⟩ := haside
  have hbooked : result.1.line session = s.line session → Booked result.1 requests session turns := by
    intro hline
    refine hfaithful.booked.stays hmoves.operations hmoves.asked hline ?_ fun operation what hmem => ?_
    · rw [hmoves.tasks, htasks, jobs_append]
      exact List.sublist_append_right _ _
    · rw [htasks, jobs_append] at hmem
      rw [hmoves.tasks]
      exact (List.mem_append.1 hmem).resolve_left (hpopped operation what)
  refine ⟨hmoves.operations, ?_⟩
  by_cases hself : other = session
  · subst hself
    have hown : result.1.inner? other = (s.inner? other).map fun inner => (step inner).1 := hmoves.own
    have hwrote : writesOf other result.2 = ((s.inner? other).map fun inner => Session.writes (step inner).2).getD [] :=
      hmoves.wrote
    cases hinner : s.inner? other with
    | none =>
      rw [hinner, Option.map_none] at hown hwrote
      have habsent := hfaithful.absent hinner
      refine ⟨[], hwrote, hbooked (by rw [line, line, hown, hinner]), fun inner hsome => ?_, fun _ => ?_⟩
      · rw [hown] at hsome
        cases hsome
      · simpa using habsent
    | some inner =>
      rw [hinner, Option.map_some] at hown hwrote
      have hbound := length_images_le requests turns
      have hturns := hfaithful.booked.length_le
      obtain ⟨⟨more, hsent, hposts⟩, hqueue⟩ :=
        hgoesOn rfl inner hinner _ _ _ _ (by omega) (hfaithful.posts inner hinner)
      refine ⟨more, hwrote.trans hsent, hbooked ?_, fun later hlater => ?_, fun hnone => ?_⟩
      · rw [line, line, hown, hinner]
        exact hqueue
      · rw [hown] at hlater
        cases hlater
        exact hposts
      · rw [hown] at hnone
        cases hnone
  · have hinner : result.1.inner? session = s.inner? session := hmoves.others session (Ne.symm hself)
    refine ⟨[], hmoves.silent session (Ne.symm hself), hbooked (by rw [line, line, hinner]), ?_, ?_⟩
    · rw [hinner, List.append_nil]
      exact hfaithful.posts
    · rw [hinner, List.append_nil]
      exact hfaithful.absent

/-- No task begins. -/
theorem Faithful.idle (hfaithful : Faithful s requests session turns sent clean) (hsize : s.operations < UInt64.size)
    (haside : Aside s session clean result) : Leads s requests session turns sent clean 0 result :=
  hfaithful.aside hsize [] rfl (by simp [jobs]) haside

/-! ## Requests -/

theorem entrusts?_receive (s : Server) (request : Message) : s.entrusts? (.step (.receive request)) =
    if s.ending.isSome ∨ request.kind ≠ .request then none
    else
      match Command.of request with
      | .ok (.operation _) => s.slot.map fun session => (session, request)
      | _ => none :=
  rfl

theorem jobs_entered (s : Server) (launch : Launched) : jobs (s.entered launch).tasks = jobs s.tasks := by
  show jobs (s.tasks ++ [_]) = _
  rw [jobs_append]
  exact List.append_nil _

/-- A session comes about. -/
theorem Faithful.enter (hfaithful : Faithful s requests session turns sent clean) (hnamed : Named s) {launch : Launched}
    (hposts : launch.session.Posts (Sets requests) [] [] clean {}) (hqueue : launch.session.queue = []) :
    Faithful (s.entered launch) requests session turns sent clean := by
  have hnew : s.inner? s.launched = none := by
    rw [inner?, Option.map_eq_none_iff]
    cases hfound : Assoc.find? s.launched s.launches with
    | none => rfl
    | some held => exact absurd (hnamed.launchesBelow _ _ (Assoc.mem_of_find? hfound)) (Nat.lt_irrefl _)
  have hbooked : (s.entered launch).line session = s.line session →
      Booked (s.entered launch) requests session turns := by
    intro hline
    have hjobs := jobs_entered s launch
    refine hfaithful.booked.stays rfl (fun _ => id) hline (hjobs ▸ List.Sublist.refl _) fun _ _ => ?_
    rw [hjobs]
    exact id
  by_cases hself : session = s.launched
  · subst hself
    have hinner : (s.entered launch).inner? s.launched = some launch.session := by
      rw [inner?, find?_entered_self, Option.map_some]
    obtain ⟨rfl, rfl⟩ := hfaithful.absent hnew
    refine ⟨hbooked ?_, fun inner hsome => ?_, fun hnone => ?_⟩
    · rw [line, line, hinner, hnew, Option.map_some, hqueue]
      rfl
    · rw [hinner] at hsome
      cases hsome
      exact hposts
    · rw [hinner] at hnone
      cases hnone
  · have hinner : (s.entered launch).inner? session = s.inner? session := by
      rw [inner?, inner?, find?_entered_of_ne hself]
    refine ⟨hbooked (by rw [line, line, hinner]), ?_, ?_⟩
    · rw [hinner]
      exact hfaithful.posts
    · rw [hinner]
      exact hfaithful.absent

theorem Faithful.launch (hfaithful : Faithful s requests session turns sent clean) (hsize : s.operations < UInt64.size)
    (hnamed : Named s) (request : Message) : Leads s requests session turns sent clean 0 (s.launch request) := by
  unfold Server.launch
  split
  · exact hfaithful.idle hsize (fail_aside s request _)
  · split
    · exact hfaithful.idle hsize (fail_aside s request _)
    · dsimp only
      split
      · refine Faithful.idle (s := s.entered _) (hfaithful.enter hnamed ?_ ?_) hsize
          (aside_of_same ⟨rfl, rfl, fun _ => id, fun _ => rfl⟩ fun _ => rfl)
        · exact .fresh _ _ _ _ _
        · rfl
      · refine Faithful.idle (s := s.entered _) (hfaithful.enter hnamed ?_ ?_) hsize
          (aside_of_same (.refl _) fun _ => rfl)
        · exact .fresh _ _ _ _ _
        · rfl

theorem Faithful.entrust (hfaithful : Faithful s requests session turns sent clean)
    (hrequest : requests[s.operations]? = some (other, request))
    (hcommand : Command.of request = .ok (.operation what)) :
    Leads s requests session turns sent clean 1 ({ s with
      operations := s.operations + 1
      asked := Assoc.insert s.operations { session := other, what, request } s.asked
      tasks := s.tasks ++ [.operation other s.operations what] }, []) := by
  refine ⟨rfl, [], rfl, ?_⟩
  rw [List.append_nil]
  refine ⟨hfaithful.booked.entrust hrequest hcommand rfl (fun operation asked hmem => ?_) rfl ?_, hfaithful.posts,
    hfaithful.absent⟩
  · rcases Assoc.mem_insert hmem with heq | hmem
    · cases heq
      exact .inl ⟨rfl, rfl⟩
    · exact .inr hmem
  · rw [jobs_append]
    rfl

theorem Faithful.perform (hfaithful : Faithful s requests session turns sent clean)
    (hsize : s.operations < UInt64.size) (hnamed : Named s) (request : Message)
    (hentrusts : ∀ what other, Command.of request = .ok (.operation what) → s.slot = some other →
      requests[s.operations]? = some (other, request)) :
    Leads s requests session turns sent clean
      (match Command.of request with
      | .ok (.operation _) => s.slot.map fun session => (session, request)
      | _ => none).toList.length (s.perform request) := by
  unfold Server.perform
  cases hcommand : Command.of request with
  | error error => exact hfaithful.idle hsize (fail_aside s request error)
  | ok command =>
    cases command with
    | capabilities => exact hfaithful.idle hsize (respond_aside s request true _ none)
    | launch => exact hfaithful.launch hsize hnamed request
    | threads => exact hfaithful.idle hsize (respond_aside s request true _ none)
    | unknown => exact hfaithful.idle hsize (respond_aside s request true none _)
    | scopes frame =>
      have hlooked (body : Option Json) := (@scopes_aside session clean s frame).next
        (respond_sameWork (s.scopes frame).2 request true body none).sessions
        (show ∀ other, writesOf other ((s.scopes frame).2.respond request true body none).2 = [] from fun _ => rfl)
      exact hfaithful.idle hsize (hlooked _)
    | disconnect =>
      have hsaid := (respond_sameWork s.endSession.1 request true none none).trans (terminate_sameWork _)
      have hsilent : ∀ other, writesOf other ((s.endSession.1.respond request true none none).2 ++
          (s.endSession.1.respond request true none none).1.terminate.2) = [] := by
        intro other
        rw [writesOf_append, terminate_writes]
        rfl
      have hdone := (@endSession_aside session clean s).next hsaid.sessions hsilent
      rw [← List.append_assoc] at hdone
      exact hfaithful.idle hsize (hdone.congr ⟨rfl, rfl, fun _ => id, fun _ => rfl⟩)
    | operation what =>
      dsimp only
      unfold ask
      split
      · next hslot =>
        have hnone : (s.slot.map fun session => (session, request)).toList.length = 0 := by rw [hslot]; rfl
        rw [hnone]
        exact hfaithful.idle hsize (fail_aside s request _)
      · next other hslot =>
        have hone : (s.slot.map fun session => (session, request)).toList.length = 1 := by rw [hslot]; rfl
        rw [hone]
        exact hfaithful.entrust (hentrusts what other hcommand hslot) hcommand

theorem Faithful.receive (hfaithful : Faithful s requests session turns sent clean)
    (hsize : s.operations < UInt64.size) (hnamed : Named s) (message : Message)
    (hentrusts : ∀ entry, s.entrusts? (.step (.receive message)) = some entry → requests[s.operations]? = some entry) :
    Leads s requests session turns sent clean (s.entrusts? (.step (.receive message))).toList.length
      (s.receive message) := by
  rw [entrusts?_receive] at hentrusts ⊢
  unfold Server.receive
  split
  · exact hfaithful.idle hsize (aside_of_same (.refl s) fun _ => rfl)
  · next hread =>
    rw [if_neg hread] at hentrusts
    have hperformed := hfaithful.perform hsize hnamed message fun what other hcommand hslot => by
      rw [hcommand, hslot] at hentrusts
      exact hentrusts _ rfl
    exact hperformed.log _

/-! ## Turns -/

theorem images_concat {turn : Turn} {inner : Session} (hrequest : requests[turn.operation]? = some (session, request))
    (hcommand : Command.of request = .ok (.operation what)) (hknown : turn.known = inner.state)
    (hconnected : turn.connected = decide (inner.connection.state = .connected)) :
    images requests (turns ++ [turn]) = images requests turns ++ inner.asking what := by
  have himage : request.image turn.known = (inner.state.start what).1.request? := by
    rw [image_eq, hcommand, hknown]
  rw [images_append]
  congr 1
  unfold images Session.asking
  by_cases hstate : inner.connection.state = .connected
  · rw [if_pos hstate]
    cases himaged : (inner.state.start what).1.request? <;> simp [hconnected, hstate, hrequest, himage, himaged]
  · simp [hconnected, hstate]

theorem after_updates_concat {turn : Turn} (hrequest : requests[turn.operation]? = some (session, request))
    (hcommand : Command.of request = .ok (.operation what)) :
    ({} : Breakpoints).after (updates requests (turns ++ [turn]))
      = what.remember (({} : Breakpoints).after (updates requests turns)) := by
  rw [updates_append]
  unfold updates Operation.remember
  rw [update?_of_operation hcommand]
  cases hupdate : request.update? with
  | none => simp [hrequest, hupdate]
  | some update =>
    simp only [List.filterMap_cons, List.filterMap_nil, hrequest, hupdate, Option.bind_some, Option.map_some]
    exact Breakpoints.after_concat _ _ _

/-- The turn of a request comes in a session's step. -/
theorem Faithful.turn {inner : Session} {step : Session → Session × List SessionEffect} {turn : Turn}
    (hmoves : Moves { s with tasks } session step result) (hinner : s.inner? session = some inner)
    (hbooked : Booked result.1 requests session (turns ++ [turn]))
    (hcommand : ∃ request, requests[turn.operation]? = some (session, request) ∧
      Command.of request = .ok (.operation what))
    (hknown : turn.known = inner.state)
    (hconnected : turn.connected = decide (inner.connection.state = .connected))
    (hsends : Session.Sends (Sets requests) (images requests turns ++ inner.asking what) sent clean
      (what.remember (({} : Breakpoints).after (updates requests turns))) (step inner)) :
    Leads s requests session (turns ++ [turn]) sent clean 0 result := by
  obtain ⟨hafter, hwrote⟩ := hmoves.of_inner hinner
  obtain ⟨request, hrequest, hcommand⟩ := hcommand
  obtain ⟨more, hsent, hposts⟩ := hsends
  refine ⟨hmoves.operations, more, hwrote.trans hsent, hbooked, fun later hlater => ?_, fun hnone => ?_⟩
  · rw [hafter] at hlater
    cases hlater
    rw [images_concat hrequest hcommand hknown hconnected, after_updates_concat hrequest hcommand]
    exact hposts
  · rw [hafter] at hnone
    cases hnone

theorem turn?_eq {m : Move} (hopen : s.broken = false) {errand : Session.Move}
    (herrand : s.errand? m = some (other, errand)) : s.turn? m =
      (s.inner? other).bind fun inner => (inner.turn? errand).map fun (operation, _) => {
        session := other
        operation
        known := inner.state
        connected := inner.connection.state = .connected
        unanswered := s.asked.map (·.1) } := by
  simp only [turn?, hopen, Bool.false_eq_true, if_false, herrand, Option.bind_some]

theorem session_of_turn? {m : Move} (hopen : s.broken = false) {errand : Session.Move}
    (herrand : s.errand? m = some (other, errand)) {turn : Turn} (hturn : s.turn? m = some turn) :
    turn.session = other := by
  rw [turn?_eq hopen herrand] at hturn
  obtain ⟨inner, -, hbegun⟩ := Option.bind_eq_some_iff.1 hturn
  obtain ⟨begun, -, rfl⟩ := Option.map_eq_some_iff.1 hbegun
  rfl

theorem InTurn.free {m : Move} (hturn : s.InTurn m) (hatOnce : m.atOnce) (hopen : s.broken = false)
    {errand : Session.Move} (herrand : s.errand? m = some (other, errand)) (hsome : (s.turn? m).isSome) :
    ∀ inner, s.inner? other = some inner → inner.connection.Free := by
  intro inner hinner
  obtain ⟨turn, hfound⟩ := Option.isSome_iff_exists.1 hsome
  refine hturn.2 hatOnce turn hfound inner ?_
  rw [session_of_turn? hopen herrand hfound]
  exact hinner

/-- What is another session's turn is none of the session's. -/
theorem turn?_of_ne {m : Move} (hopen : s.broken = false) {errand : Session.Move}
    (herrand : s.errand? m = some (other, errand)) (hne : other ≠ session) :
    (s.turn? m).toList.filter (·.session = session) = [] := by
  cases hturn : s.turn? m with
  | none => rfl
  | some turn => simp [session_of_turn? hopen herrand hturn, hne]

/-- A task that has not begun is one of a session that is there. -/
theorem Live.inner_of_task (hlive : Live s limit []) {task : Task} (hmem : task ∈ s.tasks) :
    ∃ inner, s.inner? task.session = some inner := by
  obtain ⟨launch, hlaunch⟩ := hlive.begins task hmem
  exact ⟨launch.session, by rw [inner?, hlive.named.launches.find?_of_mem hlaunch, Option.map_some]⟩

/-- Nobody talks to the server of those that set breakpoints while none of them has the turn. -/
theorem not_held {inner : Session} {asks : List Wire.Request.Payload} {known : Breakpoints}
    (hposts : inner.Posts (Sets requests) asks sent clean known) (hsyncing : inner.syncing = none) :
    ∀ operation running, (operation, running) ∈ inner.running → ¬ Sets requests operation := by
  intro operation running hmem hsets
  have hholds := hposts.held operation running hmem hsets
  rw [hsyncing] at hholds
  cases hholds

/-- The first task begins, and is one of an operation. -/
theorem Faithful.begins (hfaithful : Faithful s requests session turns sent clean) (hlive : Live s limit [])
    (hsize : s.operations < UInt64.size) (hopen : s.broken = false) {m : Move} {errand : Session.Move}
    (htasks : s.tasks = .operation other operation what :: tasks) (herrand : s.errand? m = some (other, errand))
    (hbegins : errand.begins? = some (operation, what))
    (hfree : (s.turn? m).isSome → errand = .step (.start operation what) →
      ∀ inner, s.inner? other = some inner → inner.connection.Free) :
    Leads s requests session (turns ++ (s.turn? m).toList.filter (·.session = session)) sent clean 0
      ({ s with tasks }.within other (·.move errand)) := by
  by_cases hself : other = session
  · subst hself
    have hmem : .operation other operation what ∈ s.tasks := htasks ▸ List.mem_cons_self ..
    obtain ⟨inner, hinner⟩ : ∃ inner, s.inner? other = some inner := hlive.inner_of_task hmem
    have hline : s.line other = inner.queue := by rw [line, hinner, Option.map_some, Option.getD_some]
    have hmoves := within_moves { s with tasks } other (·.move errand)
    obtain ⟨hafter, hwrote⟩ := hmoves.of_inner hinner
    have hjobs : jobs s.tasks
        = (other, operation, what) :: jobs ({ s with tasks }.within other (·.move errand)).1.tasks := by
      rw [htasks, hmoves.tasks]
      rfl
    have hmine : (other, operation, what) ∈ jobs s.tasks := hjobs ▸ List.mem_cons_self ..
    have hbooked := hfaithful.booked
    have hposts := hfaithful.posts _ hinner
    obtain ⟨request, hrequest, hcommand⟩ := hbooked.jobs other operation what hmine
    have hsets : what.update?.isSome ↔ Sets requests operation := by
      rw [update?_of_operation hcommand, sets_iff hrequest]
    have hbound := hbooked.length_lt (mem_waiting.2 (.inr ⟨other, what, hmine⟩)) fun turn hturn =>
      Nat.ne_of_lt (hbooked.past turn hturn operation (by rw [hjobs]; exact List.mem_cons_self ..))
    have hle := length_images_le requests turns
    have hturned := turn?_eq hopen herrand
    rw [hinner, Option.bind_some] at hturned
    rcases hposts.begins (by omega) hbegins hsets (fun hturn hm => hfree (by simpa [hturned] using hturn) hm _ hinner)
      with ⟨hturn, hvacant, hsends, hqueue⟩ | ⟨hnone, path, breakpoints, rfl, hmove⟩
    · rw [hturn, Option.map_some] at hturned
      rw [hturned]
      simp only [Option.toList_some, List.filter_cons, decide_true, if_true, List.filter_nil]
      refine Faithful.turn hmoves hinner ?_ ⟨request, hrequest, hcommand⟩ rfl rfl hsends
      refine hbooked.beginTurn hlive hinner hmoves.operations hmoves.asked ?_ hjobs (fun h => ?_) rfl hposts.known
      · rw [hline, line, hafter]
        exact hqueue
      · obtain ⟨hsyncing, hempty⟩ := hvacant (hsets.2 h)
        exact ⟨hline.trans hempty, not_held hposts hsyncing⟩
    · -- It joins the queue.
      rw [hnone, Option.map_none] at hturned
      rw [hturned, Option.toList_none, List.filter_nil, List.append_nil]
      rw [hmove] at hafter hwrote
      refine ⟨hmoves.operations, [], hwrote, ?_, ?_, ?_⟩
      · refine hbooked.enqueue hmoves.operations hmoves.asked { operation, path, breakpoints } ?_ hjobs
        rw [line, hafter, hline]
        rfl
      · intro later hlater
        rw [hafter] at hlater
        cases hlater
        rw [List.append_nil]
        exact { hposts with }
      · intro hnone
        rw [hafter] at hnone
        cases hnone
  · rw [turn?_of_ne hopen herrand hself, List.append_nil]
    refine hfaithful.aside hsize [.operation other operation what] htasks (fun operation' what' hmem => ?_)
      (within_aside other fun heq => absurd heq hself)
    rw [mem_jobs, List.mem_singleton] at hmem
    cases hmem
    exact hself rfl

/-- The first in a session's queue gets the turn, if nobody has it. -/
theorem Faithful.takesTurn (hfaithful : Faithful s requests session turns sent clean) (hlive : Live s limit [])
    (hsize : s.operations < UInt64.size) (hopen : s.broken = false) {m : Move} {errand : Session.Move}
    (herrand : s.errand? m = some (other, errand))
    (hm : errand = .prepareTurn ∨ errand = .step .takeTurn ∧
      ((s.turn? m).isSome → ∀ inner, s.inner? other = some inner → inner.connection.Free)) :
    Leads s requests session (turns ++ (s.turn? m).toList.filter (·.session = session)) sent clean 0
      (s.within other (·.move errand)) := by
  by_cases hself : other = session
  · subst hself
    have hturned := turn?_eq hopen herrand
    cases hinner : s.inner? other with
    | none =>
      rw [hinner, Option.bind_none] at hturned
      rw [hturned, Option.toList_none, List.filter_nil, List.append_nil]
      refine hfaithful.idle hsize (within_aside other fun _ inner hsome => ?_)
      rw [hinner] at hsome
      cases hsome
    | some inner =>
      rw [hinner, Option.bind_some] at hturned
      have hmoves := within_moves s other (·.move errand)
      obtain ⟨hafter, hwrote⟩ := hmoves.of_inner hinner
      have hline : s.line other = inner.queue := by rw [line, hinner, Option.map_some, Option.getD_some]
      have hbooked := hfaithful.booked
      have hposts := hfaithful.posts _ hinner
      have hle := length_images_le requests turns
      have hroom : inner.queue ≠ [] → (images requests turns).length + 1 < UInt64.size := by
        rw [← hline]
        intro hnext
        obtain ⟨queued, hqueued⟩ := List.exists_mem_of_ne_nil _ hnext
        have hbound := hbooked.length_lt (mem_waiting.2 (.inl ⟨queued, hqueued, rfl⟩)) fun turn hturn heq =>
          hbooked.not_queued hturn hqueued heq
        omega
      have hfree : errand = .prepareTurn ∨ errand = .step .takeTurn ∧
          ((inner.turn? errand).isSome → inner.connection.Free) := by
        refine hm.imp_right fun hstep => ⟨hstep.1, fun hturn => hstep.2 ?_ inner hinner⟩
        rw [hturned, Option.isSome_map]
        exact hturn
      rcases hposts.turns hroom hfree with ⟨queued, queue, hsyncing, hqueue, hturn, hsends, hrest⟩ | ⟨hnone, hmove⟩
      · have hafter' : s.line other = queued :: (s.within other (·.move errand)).1.line other := by
          rw [hline, hqueue, line, hafter, Option.map_some, Option.getD_some, hrest]
        obtain ⟨request, hrequest, hcommand⟩ := hbooked.queued queued (hafter' ▸ List.mem_cons_self ..)
        rw [hturn, Option.map_some] at hturned
        rw [hturned]
        simp only [Option.toList_some, List.filter_cons, decide_true, if_true, List.filter_nil]
        refine @Faithful.turn s requests other turns sent clean _ s.tasks _ inner _ _ hmoves hinner ?_
          ⟨request, hrequest, hcommand⟩ rfl rfl hsends
        exact hbooked.queueTurn hlive hinner hmoves.operations hmoves.asked hafter' (by rw [hmoves.tasks])
          (not_held hposts hsyncing) rfl rfl hposts.known
      · rw [hnone, Option.map_none] at hturned
        rw [hturned, Option.toList_none, List.filter_nil, List.append_nil]
        refine hfaithful.idle hsize (within_aside other fun _ held hheld => ?_)
        rw [hinner] at hheld
        cases hheld
        rw [hmove]
        exact fun _ _ _ _ _ hposts => ⟨hposts.still, rfl⟩
  · rw [turn?_of_ne hopen herrand hself, List.append_nil]
    exact hfaithful.idle hsize (within_aside other fun heq => absurd heq hself)

/-- The task that connects a session begins. -/
theorem Faithful.connects (hfaithful : Faithful s requests session turns sent clean) (hlive : Live s limit [])
    (hsize : s.operations < UInt64.size) (htasks : s.tasks = .connect other :: tasks) :
    Leads s requests session turns sent clean 0 ({ s with tasks }.within other (·.link (·.dial))) := by
  refine hfaithful.aside hsize [.connect other] htasks (by simp [jobs]) (within_aside other ?_)
  rintro rfl inner hinner sets asks sent known hbound hposts
  have hinner : (Assoc.find? other s.launches).map (·.session) = some inner := hinner
  obtain ⟨launch, hfound, rfl⟩ := Option.map_eq_some_iff.1 hinner
  obtain ⟨hnone, hearly⟩ := (hlive.kept other launch (Assoc.mem_of_find? hfound)).fresh
    (mem_toConnect.2 (htasks ▸ List.mem_cons_self ..))
  exact hposts.dial hnone hearly

/-! ## Runs -/

theorem entrusts?_of_ended (hended : s.ending.isSome) (m : Move) : s.entrusts? m = none := by
  unfold entrusts?
  split
  · rw [if_pos (.inl hended)]
  · rfl

/-- A move has at most one turn, and the image of that request joins the line. -/
theorem Faithful.move (hfaithful : Faithful s requests session turns sent clean) (hlive : Live s limit [])
    (hsize : s.operations < UInt64.size) (m : Move) (hturn : s.InTurn m)
    (hentrusts : ∀ entry, s.entrusts? m = some entry → requests[s.operations]? = some entry)
    (hclean : clean → ∀ number cause, m ≠ .step (.link session (.transmitFailed number cause))) :
    Leads s requests session (turns ++ (s.turn? m).toList.filter (·.session = session)) sent clean
      (s.entrusts? m).toList.length (s.move m) := by
  have hquiet : ∀ {more}, s.errand? m = none → Leads s requests session turns sent clean more (s.move m) →
      Leads s requests session (turns ++ (s.turn? m).toList.filter (·.session = session)) sent clean more
        (s.move m) := by
    intro more hnone hleads
    have hturn : s.turn? m = none := by simp [turn?, hnone]
    rw [hturn, Option.toList_none, List.filter_nil, List.append_nil]
    exact hleads
  by_cases hbroken : s.broken = true
  · have hturn : s.turn? m = none := by simp [turn?, hbroken]
    rw [move_of_broken hbroken, hturn, entrusts?_of_ended (ended_of_broken hbroken), Option.toList_none,
      List.filter_nil, List.append_nil]
    exact hfaithful.idle hsize (aside_of_same (.refl s) fun _ => rfl)
  have hopen : s.broken = false := by simpa using hbroken
  cases m with
  | step action =>
    cases action with
    | receive message =>
      refine hquiet rfl ?_
      simp only [Server.move, Server.step, if_neg hbroken]
      exact hfaithful.receive hsize hlive.named message hentrusts
    | endInput ending =>
      refine hquiet rfl ?_
      simp only [Server.move, Server.step, if_neg hbroken]
      exact hfaithful.idle hsize (endInput_aside s ending)
    | begin =>
      have hsame : s.move (.step .begin) = s.begin := by simp only [Server.move, Server.step, if_neg hbroken]
      unfold Server.begin at hsame
      split at hsame
      · next htasks =>
        refine hquiet (by simp only [errand?, htasks]) ?_
        rw [hsame]
        exact hfaithful.idle hsize (aside_of_same (.refl s) fun _ => rfl)
      · next other tasks htasks =>
        refine hquiet (by simp only [errand?, htasks]) ?_
        rw [hsame]
        exact hfaithful.connects hlive hsize htasks
      · next other operation what tasks htasks =>
        rw [hsame]
        have herrand : s.errand? (.step .begin) = some (other, .step (.start operation what)) := by
          simp only [errand?, htasks]
        refine hfaithful.begins hlive hsize hopen htasks herrand rfl fun hsome _ inner hinner => ?_
        exact hturn.free rfl hopen herrand hsome inner hinner
    | relay other =>
      refine hquiet rfl ?_
      simp only [Server.move, Server.step, if_neg hbroken]
      exact hfaithful.idle hsize (relay_aside s other)
    | collect other operation =>
      refine hquiet rfl ?_
      simp only [Server.move, Server.step, if_neg hbroken]
      refine hfaithful.idle hsize (within_aside other ?_)
      exact fun _ _ _ _ _ _ _ hbound hposts => hposts.collect hbound operation
    | takeTurn other =>
      simp only [Server.move, Server.step, if_neg hbroken]
      exact hfaithful.takesTurn hlive hsize hopen rfl (.inr ⟨rfl, hturn.free rfl hopen rfl⟩)
    | link other action =>
      refine hquiet rfl ?_
      simp only [Server.move, Server.step, if_neg hbroken]
      split
      · exact hfaithful.idle hsize (aside_of_same (.refl s) fun _ => rfl)
      · next hother =>
        refine hfaithful.idle hsize (within_aside other ?_)
        rintro rfl inner hinner sets asks sent known hbound hposts
        refine hposts.link hbound action (by simpa using hother) (hturn.1 _ rfl inner hinner) ?_
        rintro h number cause rfl
        exact hclean h number cause rfl
  | prepare =>
    have hsame : s.move .prepare = s.prepare := by simp only [Server.move, if_neg hbroken]
    unfold Server.prepare at hsame
    split at hsame
    · next htasks =>
      refine hquiet (by simp only [errand?, htasks]) ?_
      rw [hsame]
      exact hfaithful.idle hsize (aside_of_same (.refl s) fun _ => rfl)
    · next other tasks htasks =>
      refine hquiet (by simp only [errand?, htasks]) ?_
      rw [hsame]
      exact hfaithful.connects hlive hsize htasks
    · next other operation what tasks htasks =>
      rw [hsame]
      have herrand : s.errand? .prepare = some (other, .prepare operation what) := by simp only [errand?, htasks]
      exact hfaithful.begins hlive hsize hopen htasks herrand rfl fun _ hstep => by cases hstep
  | prepareTurn other =>
    simp only [Server.move, if_neg hbroken]
    exact hfaithful.takesTurn hlive hsize hopen rfl (.inl rfl)

end

end Server

end DebugBridge.Adapter
