import DebugBridge.Proofs.Adapter.Standing

/-!
# One session at a time, in pieces

While a relay or the request loop stands between two pieces, launches begin, dials end and requests are read. The slot
changes in one step all the same: a launch finds it empty and takes it at once, and the request loop empties it as it
closes the session's connection. So there is one session at a time in the adapter in pieces too: `sessions_take_turns`.
-/

namespace DebugBridge.Adapter.Strands

open Server (Admits Fate Shows)

/-- The sessions that come about in a run, in this order. -/
def connects (x : Strands) : List Step → List Nat
  | [] => []
  | step :: rest => x.server.newcomers (x.step step).1.server ++ (x.step step).1.connects rest

/-- The launches that begin in a run. The place of each is the number of its session. -/
def accepted (x : Strands) : List Step → List Message
  | [] => []
  | step :: rest => x.accepts step ++ (x.step step).1.accepted rest

section

variable {x : Strands} {accepted : List Message}

theorem Composed.run (hcomposed : Composed x accepted) (steps : List Step) :
    Composed (x.run steps).1 (accepted ++ x.accepted steps) := by
  induction steps generalizing x accepted with
  | nil =>
    rw [Strands.accepted, List.append_nil]
    exact hcomposed
  | cons step rest ih =>
    have hrest := ih ((x.step_does step).composed hcomposed)
    rwa [List.append_assoc] at hrest

/-- Each session comes about once at most, and what is sent welcomes just the launches of those that do. -/
theorem Composed.connects (hcomposed : Composed x accepted) (steps : List Step) :
    Shows x.server (accepted ++ x.accepted steps) (x.connects steps) (x.run steps).2 := by
  induction steps generalizing x accepted with
  | nil => exact .nil x.server _
  | cons step rest ih =>
    have hdoes := x.step_does step
    have hrest := ih (hdoes.composed hcomposed)
    rw [List.append_assoc] at hrest
    exact (hdoes.carries hcomposed).1.shows hcomposed.ordered (List.prefix_append _ _) hrest

/-- A request other than to disconnect is read in one step. -/
theorem step_receive {message : Message} (hreading : x.server.ending = none) (hother : message.command ≠ "disconnect") :
    x.step (.moves (.step (.receive message))) = ({ x with
      server := (x.server.move (.step (.receive message))).1 }, (x.server.move (.step (.receive message))).2) := by
  have hopen : ¬ x.server.broken = true := by simp [Server.broken, hreading]
  have hdeparts : (Server.Move.step (.receive message)).departs? = none := by
    refine if_neg ?_
    rintro ⟨-, hcommand⟩
    exact hother hcommand
  rw [Strands.step, if_neg hopen]
  simp only [hdeparts]
  rw [if_neg (by simp [Server.Move.inPieces, hdeparts])]

/-- What the slot decides of a request is decided in the step in which it is read. -/
theorem step_admits {message : Message} (hreading : x.server.ending = none) (hkind : message.kind = .request) :
    let result := x.step (.moves (.step (.receive message)))
    Admits x.server message (result.1.server, result.2) := by
  intro result
  by_cases hcommand : message.command = "disconnect"
  · -- The slot decides nothing of a request to disconnect.
    constructor
    all_goals
      rw [hcommand]
      intros
      contradiction
  · have hstep : result = _ := step_receive hreading hcommand
    rw [hstep]
    exact Server.receive_admits hreading hkind

end

/-- There is one session at a time, wherever the relays and the request loop stand. After any run of the adapter in
pieces:

* A session that is there, or that may still come about, is the one in the slot.
* Each session comes about once at most. What was sent has `initialized` right after the success response of each launch
  whose session has come about, and nowhere else; and nobody else who launches gets a success response.
* Whatever step comes next, an unanswered launch waits for its connection, or has got that, or is told that it failed;
  and then the slot is empty.
* A request to launch that comes next takes the slot if that is empty and the arguments can be read, and else is
  refused, with nothing changed. Where the slot is empty, requests that need a session are refused too, and there are no
  threads and no scopes. -/
theorem sessions_take_turns (defaults : ServerSettings) (files : FileTree) (steps : List Step) :
    let start : Strands := { server := { defaults, files } }
    let x := (start.run steps).1
    ((∀ session, x.server.slot = some session → (Assoc.find? session x.server.launches).isSome) ∧
      ∀ session launch, Assoc.find? session x.server.launches = some launch →
        launch.session.connection.state = .connected ∨
          launch.request.isSome ∧ launch.session.connection.closed = false →
        x.server.slot = some session) ∧
    ((start.connects steps).Nodup ∧
      ∃ launches : List Message, launches.map some = (start.connects steps).map ((start.accepted steps)[·]?) ∧
        Welcomes launches (Loop.sent (start.run steps).2)) ∧
    (∀ step session launch request, Assoc.find? session x.server.launches = some launch →
      launch.request = some request → Fate session request ((x.step step).1.server, (x.step step).2)) ∧
    (∀ message, x.server.ending = none → message.kind = .request →
      let result := x.step (.moves (.step (.receive message)))
      Admits x.server message (result.1.server, result.2)) := by
  intro start x
  have hstart : Composed start [] := .fresh defaults files
  have hcomposed := hstart.run steps
  have hshows := hstart.connects steps
  refine ⟨⟨?_, ?_⟩, ⟨hshows.once, hshows.welcomed⟩, ?_, ?_⟩
  · intro session hslot
    exact (hcomposed.ordered.listed session).2 (hcomposed.ordered.slot session hslot)
  · intro session launch hfound
    exact (hcomposed.ordered.stands session launch hfound).current
  · intro step
    exact ((x.step_does step).carries hcomposed).1.fate
  · intro message hreading hkind
    exact step_admits hreading hkind

/-- A second launch finds the first one's session gone as soon as the request loop has begun to leave, but is not read
any more. -/
example : ({} : Strands).connects ([.step (.receive { seq := 1, kind := .request, command := "launch" }), .step .begin,
    .step (.link 0 (.opened 0 0)), .step (.link 0 (.attach 0)),
    .step (.receive { seq := 2, kind := .request, command := "disconnect" }),
    .step (.receive { seq := 3, kind := .request, command := "launch" })].map .moves) = [0] := by
  decide

end DebugBridge.Adapter.Strands
