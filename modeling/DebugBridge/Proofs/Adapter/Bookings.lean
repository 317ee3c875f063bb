import DebugBridge.Proofs.Adapter.Requests
import Mathlib.Data.List.Perm.Subperm

/-!
# Where a request is until its turn comes

A request that is entrusted to a session has a task that has not begun, or waits in the session's queue, or has had its
turn. In the queue and among the tasks the requests stand in the order in which they were read, so the next turn is that
of the first task, or of the first in the queue.
-/

namespace DebugBridge.Adapter

open Debugger (Session SessionEffect State Operation Queued Breakpoints)

/-! ## Tasks -/

/-- The operations that have not begun. -/
def jobs (tasks : List Task) : List (Nat × Nat × Operation) :=
  tasks.filterMap fun
    | .operation session operation what => some (session, operation, what)
    | .connect _ => none

section

variable {session operation : Nat} {what : Operation} {tasks more : List Task}

theorem mem_jobs : (session, operation, what) ∈ jobs tasks ↔ .operation session operation what ∈ tasks := by
  rw [jobs, List.mem_filterMap]
  constructor
  · rintro ⟨task, hmem, heq⟩
    cases task <;> cases heq
    exact hmem
  · exact fun hmem => ⟨_, hmem, rfl⟩

theorem jobs_append (tasks more : List Task) : jobs (tasks ++ more) = jobs tasks ++ jobs more :=
  List.filterMap_append

end

namespace Server

/-- The requests in a session's queue. -/
def line (s : Server) (session : Nat) : List Queued :=
  ((s.inner? session).map (·.queue)).getD []

/-- The operations of which a session may still come to have the turn, and those that have not begun. -/
def waiting (s : Server) (session : Nat) : List Nat :=
  (s.line session).map (·.operation) ++ (jobs s.tasks).map (·.2.1)

/-- Every request that was entrusted to a session waits in its place, or has had its turn. -/
structure Booked (s : Server) (requests : List (Nat × Message)) (session : Nat) (turns : List Turn) : Prop where
  history : History requests session turns
  jobs : ∀ other operation what, (other, operation, what) ∈ jobs s.tasks →
    ∃ request, requests[operation]? = some (other, request) ∧ Command.of request = .ok (.operation what)
  asked : ∀ operation asked, (operation, asked) ∈ s.asked →
    ∃ request, requests[operation]? = some (asked.session, request)
  queued : ∀ queued ∈ s.line session, ∃ request, requests[queued.operation]? = some (session, request) ∧
    Command.of request = .ok (.operation (.setBreakpoints queued.path queued.breakpoints))
  ascending : (s.waiting session ++ [s.operations]).Pairwise (· < ·)
  past : ∀ turn ∈ turns, ∀ operation ∈ (Adapter.jobs s.tasks).map (·.2.1) ++ [s.operations], turn.operation < operation
  ahead : ∀ turn ∈ turns, Sets requests turn.operation → ∀ queued ∈ s.line session, turn.operation < queued.operation
  complete : ∀ operation request, operation < s.operations → requests[operation]? = some (session, request) →
    operation ∈ s.waiting session ∨ ∃ turn ∈ turns, turn.operation = operation

section

variable {s s' : Server} {requests : List (Nat × Message)} {session other operation : Nat} {turns : List Turn}
  {turn : Turn} {request : Message} {what : Operation} {inner : Session} {limit : Nat}

theorem mem_waiting : operation ∈ s.waiting session ↔
    (∃ queued ∈ s.line session, queued.operation = operation) ∨
      ∃ other what, (other, operation, what) ∈ jobs s.tasks := by
  simp [waiting]

theorem Booked.fresh (defaults : ServerSettings) (files : FileTree) (requests : List (Nat × Message)) (session : Nat) :
    Booked { defaults, files } requests session [] where
  history := .nil requests session
  jobs := by simp [Adapter.jobs]
  asked := by simp
  queued := by simp [line, inner?]
  ascending := by simp [waiting, line, inner?, Adapter.jobs]
  past := by simp
  ahead := by simp
  complete := by simp

theorem Booked.turns_subset (hbooked : Booked s requests session turns) :
    turns.map (·.operation) ⊆ List.range s.operations := by
  intro operation hmem
  obtain ⟨turn, hturn, rfl⟩ := List.mem_map.1 hmem
  exact List.mem_range.2 (hbooked.past turn hturn s.operations (List.mem_append_right _ (List.mem_singleton_self _)))

/-- There are no more turns than requests. -/
theorem Booked.length_le (hbooked : Booked s requests session turns) : turns.length ≤ s.operations := by
  simpa using (hbooked.history.once.subperm hbooked.turns_subset).length_le

/-- What waits was read before what comes. -/
theorem Booked.below (hbooked : Booked s requests session turns) (hmem : operation ∈ s.waiting session) :
    operation < s.operations :=
  (List.pairwise_append.1 hbooked.ascending).2.2 operation hmem _ (List.mem_singleton_self _)

/-- A request that waits for its turn is one more. -/
theorem Booked.length_lt (hbooked : Booked s requests session turns) (hmem : operation ∈ s.waiting session)
    (hnot : ∀ turn ∈ turns, turn.operation ≠ operation) : turns.length < s.operations := by
  have hnodup : (operation :: turns.map (·.operation)).Nodup :=
    List.nodup_cons.2 ⟨fun hturn => by
      obtain ⟨turn, hturn, heq⟩ := List.mem_map.1 hturn
      exact hnot turn hturn heq, hbooked.history.once⟩
  have hbelow : operation :: turns.map (·.operation) ⊆ List.range s.operations :=
    List.cons_subset.2 ⟨List.mem_range.2 (hbooked.below hmem), hbooked.turns_subset⟩
  have hle := (hnodup.subperm hbelow).length_le
  simpa [Nat.succ_le_iff] using hle

/-- Who is in the queue did not have its turn. -/
theorem Booked.not_queued (hbooked : Booked s requests session turns) (hturn : turn ∈ turns) {queued : Queued}
    (hqueued : queued ∈ s.line session) : turn.operation ≠ queued.operation := by
  intro heq
  obtain ⟨request, hrequest, hcommand⟩ := hbooked.queued queued hqueued
  have hsets : Sets requests turn.operation := by
    rw [heq, sets_iff hrequest, ← update?_of_operation hcommand]
    rfl
  exact Nat.ne_of_lt (hbooked.ahead turn hturn hsets queued hqueued) heq

/-! ## Steps -/

/-- No request of the session's has its turn, and none comes to it. -/
theorem Booked.stays (hbooked : Booked s requests session turns) (hoperations : s'.operations = s.operations)
    (hasked : ∀ entry ∈ s'.asked, entry ∈ s.asked) (hline : s'.line session = s.line session)
    (hjobs : (Adapter.jobs s'.tasks).Sublist (Adapter.jobs s.tasks))
    (hown : ∀ operation what, (session, operation, what) ∈ Adapter.jobs s.tasks →
      (session, operation, what) ∈ Adapter.jobs s'.tasks) : Booked s' requests session turns where
  history := hbooked.history
  jobs other operation what hmem := hbooked.jobs other operation what (hjobs.subset hmem)
  asked operation asked hmem := hbooked.asked operation asked (hasked _ hmem)
  queued := hline ▸ hbooked.queued
  ascending := by
    rw [waiting, hline, hoperations]
    exact hbooked.ascending.sublist (((List.Sublist.refl _).append (hjobs.map _)).append (List.Sublist.refl _))
  past turn hturn operation hmem := by
    rw [hoperations] at hmem
    exact hbooked.past turn hturn operation (((hjobs.map _).append (List.Sublist.refl _)).subset hmem)
  ahead := hline ▸ hbooked.ahead
  complete operation request hlt hrequest := by
    rw [hoperations] at hlt
    refine (hbooked.complete operation request hlt hrequest).imp_left fun hwaits => ?_
    rcases mem_waiting.1 hwaits with hqueued | ⟨other, what, hmem⟩
    · exact mem_waiting.2 (.inl (hline ▸ hqueued))
    · -- A job of this operation is one of the session's.
      obtain ⟨held, hheld, -⟩ := hbooked.jobs other operation what hmem
      rw [hrequest] at hheld
      cases hheld
      exact mem_waiting.2 (.inr ⟨session, what, hown operation what hmem⟩)

/-- A request is read and entrusted to a session. -/
theorem Booked.entrust (hbooked : Booked s requests session turns)
    (hrequest : requests[s.operations]? = some (other, request))
    (hcommand : Command.of request = .ok (.operation what)) (hoperations : s'.operations = s.operations + 1)
    (hasked : ∀ operation asked, (operation, asked) ∈ s'.asked →
      operation = s.operations ∧ asked.session = other ∨ (operation, asked) ∈ s.asked)
    (hline : s'.line session = s.line session)
    (hjobs : Adapter.jobs s'.tasks = Adapter.jobs s.tasks ++ [(other, s.operations, what)]) :
    Booked s' requests session turns where
  history := hbooked.history
  jobs session operation asks hmem := by
    rw [hjobs] at hmem
    rcases List.mem_append.1 hmem with hmem | hmem
    · exact hbooked.jobs session operation asks hmem
    · cases List.mem_singleton.1 hmem
      exact ⟨request, hrequest, hcommand⟩
  asked operation asked hmem := by
    rcases hasked operation asked hmem with ⟨rfl, rfl⟩ | hmem
    · exact ⟨request, hrequest⟩
    · exact hbooked.asked operation asked hmem
  queued := hline ▸ hbooked.queued
  ascending := by
    have hwaiting : s'.waiting session = s.waiting session ++ [s.operations] := by
      rw [waiting, hline, hjobs, List.map_append, ← List.append_assoc]
      rfl
    rw [hwaiting, hoperations]
    refine List.pairwise_append.2 ⟨hbooked.ascending, List.pairwise_singleton _ _, fun operation hmem next hnext => ?_⟩
    rw [List.mem_singleton.1 hnext]
    rcases List.mem_append.1 hmem with hmem | hmem
    · exact Nat.lt_succ_of_lt (hbooked.below hmem)
    · rw [List.mem_singleton.1 hmem]
      exact Nat.lt_succ_self _
  past turn hturn operation hmem := by
    rw [hjobs, hoperations, List.map_append, List.append_assoc] at hmem
    have hlt := hbooked.past turn hturn
    simp only [List.mem_append, List.mem_map, List.mem_singleton, List.map_cons, List.map_nil] at hmem hlt
    rcases hmem with hmem | rfl | rfl
    · exact hlt operation (.inl hmem)
    · exact hlt _ (.inr rfl)
    · exact Nat.lt_succ_of_lt (hlt _ (.inr rfl))
  ahead := hline ▸ hbooked.ahead
  complete operation request hlt hheld := by
    rw [hoperations] at hlt
    rcases Nat.lt_succ_iff_lt_or_eq.1 hlt with hlt | rfl
    · refine (hbooked.complete operation request hlt hheld).imp_left fun hwaits => ?_
      rw [waiting, hline, hjobs, List.map_append, ← List.append_assoc]
      exact List.mem_append_left _ hwaits
    · refine .inl (mem_waiting.2 (.inr ⟨other, what, ?_⟩))
      rw [hjobs]
      exact List.mem_append_right _ (List.mem_singleton_self _)

/-- A request whose task begins joins the queue. -/
theorem Booked.enqueue (hbooked : Booked s requests session turns) (hoperations : s'.operations = s.operations)
    (hasked : ∀ entry ∈ s'.asked, entry ∈ s.asked) (queued : Queued)
    (hline : s'.line session = s.line session ++ [queued])
    (hjobs : Adapter.jobs s.tasks =
      (session, queued.operation, .setBreakpoints queued.path queued.breakpoints) :: Adapter.jobs s'.tasks) :
    Booked s' requests session turns where
  history := hbooked.history
  jobs other operation what hmem :=
    hbooked.jobs other operation what (hjobs ▸ List.mem_cons_of_mem _ hmem)
  asked operation asked hmem := hbooked.asked operation asked (hasked _ hmem)
  queued other hmem := by
    rw [hline] at hmem
    rcases List.mem_append.1 hmem with hmem | hmem
    · exact hbooked.queued other hmem
    · rw [List.mem_singleton.1 hmem]
      exact hbooked.jobs session queued.operation _ (hjobs ▸ List.mem_cons_self ..)
  ascending := by
    have hwaiting : s'.waiting session = s.waiting session := by
      rw [waiting, waiting, hline, hjobs]
      simp
    rw [hwaiting, hoperations]
    exact hbooked.ascending
  past turn hturn operation hmem := by
    rw [hoperations] at hmem
    refine hbooked.past turn hturn operation ?_
    rw [hjobs]
    exact List.mem_cons_of_mem _ hmem
  ahead turn hturn hsets other hmem := by
    rw [hline] at hmem
    rcases List.mem_append.1 hmem with hmem | hmem
    · exact hbooked.ahead turn hturn hsets other hmem
    · rw [List.mem_singleton.1 hmem]
      refine hbooked.past turn hturn queued.operation ?_
      rw [hjobs]
      exact List.mem_cons_self ..
  complete operation request hlt hrequest := by
    rw [hoperations] at hlt
    have hwaiting : s'.waiting session = s.waiting session := by
      rw [waiting, waiting, hline, hjobs]
      simp
    rw [hwaiting]
    exact hbooked.complete operation request hlt hrequest

/-- A request has its turn. Those that wait were read later, but for ones that set no breakpoints. -/
theorem Booked.proceed (hbooked : Booked s requests session turns) (hoperations : s'.operations = s.operations)
    (hasked : ∀ entry ∈ s'.asked, entry ∈ s.asked) (hline : (s'.line session).Sublist (s.line session))
    (hjobs : (Adapter.jobs s'.tasks).Sublist (Adapter.jobs s.tasks))
    (hhistory : History requests session (turns ++ [turn]))
    (hothers : ∀ operation ∈ s.waiting session, operation = turn.operation ∨ operation ∈ s'.waiting session)
    (hpast : ∀ operation ∈ (Adapter.jobs s'.tasks).map (·.2.1) ++ [s.operations], turn.operation < operation)
    (hahead : Sets requests turn.operation → ∀ queued ∈ s'.line session, turn.operation < queued.operation) :
    Booked s' requests session (turns ++ [turn]) where
  history := hhistory
  jobs other operation what hmem := hbooked.jobs other operation what (hjobs.subset hmem)
  asked operation asked hmem := hbooked.asked operation asked (hasked _ hmem)
  queued queued hmem := hbooked.queued queued (hline.subset hmem)
  ascending := by
    rw [hoperations]
    exact hbooked.ascending.sublist (((hline.map _).append (hjobs.map _)).append (List.Sublist.refl _))
  past other hother operation hmem := by
    rw [hoperations] at hmem
    rcases List.mem_append.1 hother with hother | hother
    · exact hbooked.past other hother operation (((hjobs.map _).append (List.Sublist.refl _)).subset hmem)
    · rw [List.mem_singleton.1 hother]
      exact hpast operation hmem
  ahead other hother hsets queued hmem := by
    rcases List.mem_append.1 hother with hother | hother
    · exact hbooked.ahead other hother hsets queued (hline.subset hmem)
    · rw [List.mem_singleton.1 hother] at hsets ⊢
      exact hahead hsets queued hmem
  complete operation request hlt hrequest := by
    rw [hoperations] at hlt
    rcases hbooked.complete operation request hlt hrequest with hwaits | ⟨other, hother, heq⟩
    · rcases hothers operation hwaits with rfl | hwaits
      · exact .inr ⟨turn, List.mem_append_right _ (List.mem_singleton_self _), rfl⟩
      · exact .inl hwaits
    · exact .inr ⟨other, List.mem_append_left _ hother, heq⟩

/-! ## Whose turn comes -/

/-- Who sets breakpoints and has the turn finds all earlier ones of these answered. -/
theorem Booked.answered (hbooked : Booked s requests session turns) (hlive : Live s limit [])
    (hinner : s.inner? session = some inner)
    (hheld : ∀ operation running, (operation, running) ∈ inner.running → ¬ Sets requests operation)
    (hfirst : ∀ waiting ∈ s.waiting session, operation ≤ waiting) {earlier : Nat} {request : Message}
    (hlt : earlier < operation) (hrequest : requests[earlier]? = some (session, request))
    (hsets : request.update?.isSome) : earlier ∉ s.asked.map (·.1) := by
  intro hmem
  obtain ⟨asked, hasked⟩ : ∃ asked, (earlier, asked) ∈ s.asked := by simpa using hmem
  obtain ⟨other, hother⟩ := hbooked.asked earlier asked hasked
  obtain rfl : session = asked.session := congrArg Prod.fst (Option.some.inj (hrequest.symm.trans hother))
  -- Who waits is not earlier, and who is under way sets no breakpoints.
  have hnot : earlier ∉ s.waiting asked.session := fun hwaits => Nat.not_le.2 hlt (hfirst earlier hwaits)
  rcases hlive.asked earlier asked hasked with ⟨what, htask⟩ | ⟨launch, hlaunch, hunderWay⟩ | ⟨other, answer, hnone⟩
  · exact hnot (mem_waiting.2 (.inr ⟨asked.session, what, mem_jobs.2 htask⟩))
  · have hsession : launch.session = inner := by
      rw [inner?, hlive.named.launches.find?_of_mem hlaunch] at hinner
      exact Option.some.inj hinner
    rcases hunderWay with ⟨running, hrunning⟩ | ⟨queued, hqueued, heq⟩
    · exact hheld earlier running (hsession ▸ hrunning) ((sets_iff hrequest).2 hsets)
    · refine hnot (mem_waiting.2 (.inl ⟨queued, ?_, heq⟩))
      rw [line, hinner]
      exact hsession ▸ hqueued
  · cases hnone

/-- The turn of the first task comes as it begins. If it sets breakpoints, nobody else has the turn or is in line. -/
theorem Booked.beginTurn (hbooked : Booked s requests session turns) (hlive : Live s limit [])
    (hinner : s.inner? session = some inner) (hoperations : s'.operations = s.operations)
    (hasked : ∀ entry ∈ s'.asked, entry ∈ s.asked) (hline : s'.line session = s.line session)
    (hjobs : Adapter.jobs s.tasks = (session, turn.operation, what) :: Adapter.jobs s'.tasks)
    (hvacant : Sets requests turn.operation → s.line session = [] ∧
      ∀ operation running, (operation, running) ∈ inner.running → ¬ Sets requests operation)
    (hunanswered : turn.unanswered = s.asked.map (·.1))
    (hknown : turn.known.breakpoints = ({} : Breakpoints).after (updates requests turns)) :
    Booked s' requests session (turns ++ [turn]) := by
  obtain ⟨request, hrequest, -⟩ := hbooked.jobs session turn.operation what (hjobs ▸ List.mem_cons_self ..)
  have hascending := hbooked.ascending
  rw [waiting, hjobs, List.map_cons, List.append_assoc, List.cons_append] at hascending
  have hnext := (List.pairwise_cons.1 (List.pairwise_append.1 hascending).2.1).1
  refine hbooked.proceed hoperations hasked (hline ▸ List.Sublist.refl _) (hjobs ▸ List.sublist_cons_self ..) ?_ ?_
    hnext ?_
  · refine hbooked.history.concat hrequest (fun first hmem => .inl ?_) (fun hsets operation request hlt => ?_) hknown
    · refine hbooked.past first hmem turn.operation ?_
      rw [hjobs]
      exact List.mem_cons_self ..
    · obtain ⟨hempty, hheld⟩ := hvacant hsets
      rw [hunanswered]
      refine hbooked.answered hlive hinner hheld (fun waiting hmem => ?_) hlt
      rw [Server.waiting, hempty, hjobs] at hmem
      rcases List.mem_cons.1 hmem with rfl | hmem
      · exact Nat.le_refl _
      · exact Nat.le_of_lt (hnext waiting (List.mem_append_left _ hmem))
  · intro operation hmem
    rw [waiting, hjobs, List.map_cons, List.mem_append, List.mem_cons] at hmem
    rw [waiting, hline, List.mem_append]
    rcases hmem with hmem | rfl | hmem
    · exact .inr (.inl hmem)
    · exact .inl rfl
    · exact .inr (.inr hmem)
  · intro hsets queued hmem
    rw [hline, (hvacant hsets).1] at hmem
    cases hmem

/-- The turn of the first in the queue comes when nobody else has it. -/
theorem Booked.queueTurn (hbooked : Booked s requests session turns) (hlive : Live s limit [])
    (hinner : s.inner? session = some inner) (hoperations : s'.operations = s.operations)
    (hasked : ∀ entry ∈ s'.asked, entry ∈ s.asked) {queued : Queued}
    (hline : s.line session = queued :: s'.line session) (hjobs : Adapter.jobs s'.tasks = Adapter.jobs s.tasks)
    (hheld : ∀ operation running, (operation, running) ∈ inner.running → ¬ Sets requests operation)
    (hturn : turn.operation = queued.operation) (hunanswered : turn.unanswered = s.asked.map (·.1))
    (hknown : turn.known.breakpoints = ({} : Breakpoints).after (updates requests turns)) :
    Booked s' requests session (turns ++ [turn]) := by
  have hmine : queued ∈ s.line session := hline ▸ List.mem_cons_self ..
  obtain ⟨request, hrequest, hcommand⟩ := hbooked.queued queued hmine
  rw [← hturn] at hrequest
  have hsets : Sets requests turn.operation := by
    rw [sets_iff hrequest, ← update?_of_operation hcommand]
    rfl
  have hwaiting : s.waiting session = turn.operation :: s'.waiting session := by
    rw [waiting, waiting, hline, hjobs, hturn]
    rfl
  have hascending := hbooked.ascending
  rw [hwaiting, List.cons_append] at hascending
  have hnext := (List.pairwise_cons.1 hascending).1
  refine hbooked.proceed hoperations hasked (hline ▸ List.sublist_cons_self ..) (hjobs ▸ List.Sublist.refl _) ?_ ?_
    ?_ ?_
  · refine hbooked.history.concat hrequest (fun first hmem => ?_) (fun _ operation request hlt => ?_) hknown
    · by_cases hfirst : Sets requests first.operation
      · exact .inl (hturn ▸ hbooked.ahead first hmem hfirst queued hmine)
      · exact .inr ⟨hsets, hfirst⟩
    · rw [hunanswered]
      refine hbooked.answered hlive hinner hheld (fun waiting hmem => ?_) hlt
      rw [hwaiting] at hmem
      rcases List.mem_cons.1 hmem with rfl | hmem
      · exact Nat.le_refl _
      · exact Nat.le_of_lt (hnext waiting (List.mem_append_left _ hmem))
  · intro operation hmem
    rw [hwaiting] at hmem
    exact List.mem_cons.1 hmem
  · intro operation hmem
    refine hnext operation ?_
    rw [waiting, List.append_assoc]
    exact List.mem_append_right _ hmem
  · intro _ other hmem
    exact hnext _ (List.mem_append_left _ (mem_waiting.2 (.inl ⟨other, hmem, rfl⟩)))

end

end Server

end DebugBridge.Adapter
