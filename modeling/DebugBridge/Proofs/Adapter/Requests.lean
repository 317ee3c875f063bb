import DebugBridge.Proofs.Adapter.Ending
import DebugBridge.Proofs.Adapter.Errands
import DebugBridge.Proofs.Adapter.Images

/-!
# The turns of the editor's requests

A request that needs the debug server is entrusted to the session in the slot, and gets a number. Its turn comes when
its task begins, or, for one that sets breakpoints, when all earlier ones of these have been answered. What it is to the
server is decided at its turn, by what the session knows then.
-/

namespace DebugBridge.Adapter

open Debugger (Session SessionEffect State Operation Queued Breakpoints)

/-- What is there when the turn of a request comes. -/
structure Turn where
  session : Nat
  operation : Nat
  /-- What the session knows. -/
  known : State
  connected : Bool
  /-- The requests that were not answered by then. -/
  unanswered : List Nat

namespace Server

/-! ## Runs -/

/-- The session and the number that a request gets when it is read, if it needs the debug server. -/
def entrusts? (s : Server) : Move → Option (Nat × Message)
  | .step (.receive request) =>
    if s.ending.isSome ∨ request.kind ≠ .request then none
    else
      match Command.of request with
      | .ok (.operation _) => s.slot.map fun session => (session, request)
      | _ => none
  | _ => none

/-- The requests that are entrusted to sessions. The place of each is the number of its operation. -/
def entrusted (s : Server) : List Move → List (Nat × Message)
  | [] => []
  | m :: rest => (s.entrusts? m).toList ++ (s.move m).1.entrusted rest

/-- What a session is told to do with an operation. -/
def errand? (s : Server) : Move → Option (Nat × Session.Move)
  | .step .begin =>
    match s.tasks with
    | .operation session operation what :: _ => some (session, .step (.start operation what))
    | _ => none
  | .prepare =>
    match s.tasks with
    | .operation session operation what :: _ => some (session, .prepare operation what)
    | _ => none
  | .step (.takeTurn session) => some (session, .step .takeTurn)
  | .prepareTurn session => some (session, .prepareTurn)
  | _ => none

/-- The turn that comes in a move. -/
def turn? (s : Server) (m : Move) : Option Turn :=
  if s.broken then none
  else
    (s.errand? m).bind fun (session, errand) =>
      (s.inner? session).bind fun inner =>
        (inner.turn? errand).map fun (operation, _) => {
          session
          operation
          known := inner.state
          connected := inner.connection.state = .connected
          unanswered := s.asked.map (·.1) }

def turns (s : Server) : List Move → List Turn
  | [] => []
  | m :: rest => (s.turn? m).toList ++ (s.move m).1.turns rest

/-- The step of a session's connection in a move. -/
def Move.linked? : Move → Option (Nat × Connection.Action)
  | .step (.link session action) => some (session, action)
  | _ => none

/-- Whether an operation whose turn comes hands its request to the writer at once. -/
def Move.atOnce : Move → Bool
  | .step _ => true
  | _ => false

/-- The writer of a session takes no request before one that is further ahead in the line. What is handed to it at once
is handed to it while nobody is in line. -/
def InTurn (s : Server) (m : Move) : Prop :=
  (∀ step ∈ m.linked?, ∀ inner ∈ s.inner? step.1, inner.connection.InTurn step.2) ∧
    (m.atOnce → ∀ turn ∈ s.turn? m, ∀ inner ∈ s.inner? turn.session, inner.connection.Free)

/-- All of a run's requests are taken in turn. -/
def InTurns (s : Server) : List Move → Prop
  | [] => True
  | m :: rest => s.InTurn m ∧ (s.move m).1.InTurns rest

instance (s : Server) (m : Move) : Decidable (s.InTurn m) :=
  inferInstanceAs (Decidable (
    (∀ step ∈ m.linked?, ∀ inner ∈ s.inner? step.1, inner.connection.InTurn step.2) ∧
      (m.atOnce → ∀ turn ∈ s.turn? m, ∀ inner ∈ s.inner? turn.session, inner.connection.Free)))

/-- Whether a run's requests are taken in turn can be computed. -/
instance decidableInTurns (s : Server) : (moves : List Move) → Decidable (s.InTurns moves)
  | [] => isTrue trivial
  | m :: rest =>
    have := decidableInTurns (s.move m).1 rest
    inferInstanceAs (Decidable (s.InTurn m ∧ (s.move m).1.InTurns rest))

end Server

/-! ## What the turns come to -/

/-- What is asked of the server at the turns: for each request at most one, as long as the session is connected. -/
def images (requests : List (Nat × Message)) (turns : List Turn) : List Wire.Request.Payload :=
  turns.filterMap fun turn =>
    if turn.connected then requests[turn.operation]?.bind fun (_, request) => request.image turn.known else none

/-- The updates of breakpoints that the turns bring. -/
def updates (requests : List (Nat × Message)) (turns : List Turn) : List Queued :=
  turns.filterMap fun turn => requests[turn.operation]?.bind fun (_, request) =>
    request.update?.map fun (path, breakpoints) => { operation := turn.operation, path, breakpoints }

/-- Whether a request sets breakpoints. -/
def Sets (requests : List (Nat × Message)) (operation : Nat) : Prop :=
  ∃ session request, requests[operation]? = some (session, request) ∧ request.update?.isSome

/-- The turns of a session's requests come in the order in which these were read, except that one that sets breakpoints
may be late: it waits until those before it that do so have been answered. -/
structure History (requests : List (Nat × Message)) (session : Nat) (turns : List Turn) : Prop where
  own : ∀ turn ∈ turns, ∃ request, requests[turn.operation]? = some (session, request)
  order : turns.Pairwise fun first later => first.operation < later.operation ∨
    Sets requests later.operation ∧ ¬ Sets requests first.operation
  waits : ∀ turn ∈ turns, Sets requests turn.operation → ∀ operation request, operation < turn.operation →
    requests[operation]? = some (session, request) → request.update?.isSome → operation ∉ turn.unanswered
  /-- All breakpoints are known that were set up to then. -/
  known : ∀ before turn after, turns = before ++ turn :: after →
    turn.known.breakpoints = ({} : Breakpoints).after (updates requests before)

section

variable {requests : List (Nat × Message)} {session operation : Nat} {turns : List Turn} {turn : Turn}
  {request : Message}

theorem images_append (turns more : List Turn) :
    images requests (turns ++ more) = images requests turns ++ images requests more :=
  List.filterMap_append

theorem updates_append (turns more : List Turn) :
    updates requests (turns ++ more) = updates requests turns ++ updates requests more :=
  List.filterMap_append

theorem length_images_le (requests : List (Nat × Message)) (turns : List Turn) :
    (images requests turns).length ≤ turns.length :=
  List.length_filterMap_le _ _

theorem sets_iff (hrequest : requests[operation]? = some (session, request)) :
    Sets requests operation ↔ request.update?.isSome := by
  unfold Sets
  simp [hrequest]

theorem History.nil (requests : List (Nat × Message)) (session : Nat) : History requests session [] :=
  ⟨by simp, .nil, by simp, by simp⟩

/-- No request has its turn twice. -/
theorem History.once (hhistory : History requests session turns) : (turns.map (·.operation)).Nodup := by
  refine List.pairwise_map.2 (hhistory.order.imp ?_)
  rintro first later (hlt | ⟨hlater, hfirst⟩) heq
  · omega
  · exact hfirst (heq ▸ hlater)

theorem History.concat (hhistory : History requests session turns)
    (hrequest : requests[turn.operation]? = some (session, request))
    (horder : ∀ first ∈ turns, first.operation < turn.operation ∨
      Sets requests turn.operation ∧ ¬ Sets requests first.operation)
    (hwaits : Sets requests turn.operation → ∀ operation request, operation < turn.operation →
      requests[operation]? = some (session, request) → request.update?.isSome → operation ∉ turn.unanswered)
    (hknown : turn.known.breakpoints = ({} : Breakpoints).after (updates requests turns)) :
    History requests session (turns ++ [turn]) where
  own other hmem := by
    rcases List.mem_append.1 hmem with hmem | hmem
    · exact hhistory.own other hmem
    · rw [List.mem_singleton.1 hmem]
      exact ⟨request, hrequest⟩
  order := by
    refine List.pairwise_append.2 ⟨hhistory.order, List.pairwise_singleton _ _, fun first hmem later hlater => ?_⟩
    rw [List.mem_singleton.1 hlater]
    exact horder first hmem
  waits other hmem := by
    rcases List.mem_append.1 hmem with hmem | hmem
    · exact hhistory.waits other hmem
    · rw [List.mem_singleton.1 hmem]
      exact hwaits
  known before other after hsplit := by
    rcases List.eq_nil_or_concat after with rfl | ⟨rest, last, rfl⟩
    · obtain ⟨rfl, hsame⟩ := List.append_inj' hsplit rfl
      cases hsame
      exact hknown
    · rw [List.concat_eq_append, ← List.cons_append, ← List.append_assoc] at hsplit
      obtain ⟨rfl, -⟩ := List.append_inj' hsplit rfl
      exact hhistory.known before other rest rfl

end

end DebugBridge.Adapter
