import DebugBridge.Debugger.Session

/-!
# Sessions whose writer is not always free

`Session.start` hands a request to the writer in the step that makes it. But the writer may be busy with another
request, or its stream may take no bytes just now; then an operation waits in between, with a number of its own and
nothing sent. Here a beginning is cut in two at that point: `Session.prepare` and `Session.submit`, which together are
`Session.enter`. A run of moves is a run of steps in which beginnings may also stop halfway.
-/

namespace DebugBridge.Debugger

namespace Session

/-- The first half of an operation, up to where its request waits for the writer. -/
def prepare (s : Session) (operation : Nat) (what : Operation) : Session × List SessionEffect :=
  match s.state.start what with
  | (.answered result, state) => ({ s with state }.release operation, [.ended operation result])
  | (.asks request waiting, state) =>
    match s.connection.issue request with
    | .error error =>
      let (s, effects) := { s with state }.finish operation waiting (.error error)
      (s, .asked operation request :: effects)
    | .ok (number, connection) =>
      ({ s with state, connection, running := Assoc.insert operation { number, waiting } s.running },
        [.asked operation request])

/-- The writer takes the request of an operation, or refuses it for good. -/
def submit (s : Session) (operation : Nat) : Session × List SessionEffect :=
  match Assoc.find? operation s.running with
  | some running => s.link (·.transmit running.number)
  | none => (s, [])

/-- An operation enters by preparing its request and submitting it. -/
theorem enter_eq (s : Session) (operation : Nat) (what : Operation) :
    s.enter operation what
      = (((s.prepare operation what).1.submit operation).1,
          (s.prepare operation what).2 ++ ((s.prepare operation what).1.submit operation).2) := by
  -- An operation that has ended is not under way any more, so there is nothing to submit.
  have hgone : ∀ s : Session, (s.release operation).submit operation = (s.release operation, []) := by
    intro s
    simp only [submit, release, Assoc.find?_erase, if_true]
  unfold enter prepare
  rcases s.state.start what with ⟨result | ⟨request, waiting⟩, state⟩
  · rw [hgone, List.append_nil]
  · simp only [ask]
    cases s.connection.issue request with
    | error error =>
      simp only [finish]
      rw [hgone, List.append_nil]
    | ok issued =>
      simp only [submit, Assoc.find?_insert_self, List.singleton_append]

end Session

/-- The moves of a session: its steps, and beginnings that stop before the writer. -/
inductive Session.Move where
  | step (action : Session.Action)
  /-- An operation begins and waits for the writer. -/
  | prepare (operation : Nat) (what : Operation)
  /-- The first in line gets the turn and waits for the writer. -/
  | prepareTurn
  deriving Repr

namespace Session

def move (s : Session) : Move → Session × List SessionEffect
  | .step action => s.step action
  | .prepare operation what =>
    match what with
    | .setBreakpoints path breakpoints =>
      if s.syncing = none ∧ s.queue = [] then { s with syncing := some operation }.prepare operation what
      else ({ s with queue := s.queue ++ [{ operation, path, breakpoints }] }, [])
    | _ => s.prepare operation what
  | .prepareTurn =>
    match s.syncing, s.queue with
    | none, first :: queue =>
      { s with syncing := some first.operation, queue }.prepare first.operation
        (.setBreakpoints first.path first.breakpoints)
    | _, _ => (s, [])

/-- Moves in order, with all their effects. -/
def moves (s : Session) : List Move → Session × List SessionEffect
  | [] => (s, [])
  | m :: rest =>
    let (s, effects) := s.move m
    let (s, later) := s.moves rest
    (s, effects ++ later)

end Session

end DebugBridge.Debugger
