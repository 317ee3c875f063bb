import DebugBridge.Adapter.Strand
import DebugBridge.Proofs.Adapter.Slot
import DebugBridge.Proofs.Connection.Loss
import DebugBridge.Proofs.Connection.News
import DebugBridge.Proofs.Debugger.Sending

/-!
# What a relay sees

A relay looks at its session's inbox, and whatever is done to the session is seen there by what its connection tells.
The other tasks neither empty an inbox nor speak in a relay's place: `move_apart`.
-/

namespace DebugBridge

open Debugger (Session SessionEffect linked)

/-! ## A session's connection -/

namespace Debugger

/-- Nothing of this is for the editor. -/
def Mute (effects : List SessionEffect) : Prop :=
  ∀ news, .told news ∉ effects

theorem Mute.nil : Mute [] := fun _ => List.not_mem_nil

theorem Mute.append {effects more : List SessionEffect} (hmute : Mute effects) (hmore : Mute more) :
    Mute (effects ++ more) := fun news hmem =>
  (List.mem_append.1 hmem).elim (hmute news) (hmore news)

namespace Session

/-- What a session's step does to its connection, if that is not shut down, and the news that it tells. -/
structure Onward (s : Session) (news : List Wire.Event.Payload) (result : Session × List SessionEffect) : Prop where
  connection : s.connection.Onward result.1.connection (Connection.notices (linked result.2))
  news : (Connection.notices (linked result.2)).filterMap Notification.news? = news
  mute : Mute result.2

/-- A step that is no concern of the connection's dial and stream. -/
structure Still (s : Session) (result : Session × List SessionEffect) : Prop where
  connection : s.connection.Still result.1.connection
  silent : Connection.notices (linked result.2) = []
  mute : Mute result.2

variable {s : Session}

theorem Still.onward {result : Session × List SessionEffect} (hstill : Still s result) : Onward s [] result where
  connection := by
    rw [hstill.silent]
    exact .still hstill.connection
  news := by
    rw [hstill.silent]
    rfl
  mute := hstill.mute

/-- A step that leaves the connection alone. -/
theorem Still.of_connection {s' : Session} (hsame : s'.connection = s.connection) : Still s (s', []) where
  connection := hsame ▸ .refl _
  silent := rfl
  mute := .nil

theorem Still.rebase {s' : Session} {result : Session × List SessionEffect} (hstill : Still s' result)
    (hsame : s'.connection = s.connection) : Still s result :=
  ⟨hsame ▸ hstill.connection, hstill.silent, hstill.mute⟩

/-! ### Steps of the connection -/

/-- Whatever a step of the connection tells passes through the session. -/
theorem notices_link (s : Session) (action : Connection.Action) :
    Connection.notices (linked (s.link (·.step action)).2) = Connection.notices (s.connection.step action).2 := by
  rcases s.link_cases action with ⟨answer, operation, running, heffects, -, hlink⟩ | ⟨-, hlink⟩
  · rw [hlink, heffects]
    rfl
  · rw [hlink]
    exact congrArg Connection.notices (linked_map_link _)

theorem link_mute (s : Session) (action : Connection.Action) : Mute (s.link (·.step action)).2 := by
  intro news
  rcases s.link_cases action with ⟨answer, operation, running, -, -, hlink⟩ | ⟨-, hlink⟩
  · rw [hlink]
    simp [finish]
  · rw [hlink]
    simp

theorem onward_link {action : Connection.Action} (hother : action ≠ .shutdown) :
    Onward s ((Connection.received (s.connection.moments action)).filterMap Wire.Event.news?)
      (s.link (·.step action)) where
  connection := by
    rw [s.link_connection, notices_link]
    exact .acts action hother
  news := by rw [notices_link, Connection.filterMap_notices, Connection.newsTold_step]
  mute := s.link_mute action

/-- Only reading tells news. -/
theorem onward_link_of_ne {action : Connection.Action} (hother : action ≠ .shutdown) (hread : action ≠ .read) :
    Onward s [] (s.link (·.step action)) := by
  have honward := @onward_link s action hother
  rwa [Connection.received_eq_nil hread] at honward

/-! ### Operations -/

theorem still_submit (s : Session) (operation : Nat) : Still s (s.submit operation) := by
  unfold submit
  split
  · next running _ =>
    obtain ⟨hstill, hnothing⟩ := Connection.transmit_still s.connection running.number
    have hconnection := s.link_connection (.transmit running.number)
    have htold := s.notices_link (.transmit running.number)
    exact ⟨hconnection ▸ hstill, htold.trans hnothing, s.link_mute (.transmit running.number)⟩
  · exact .of_connection rfl

theorem Still.submits {moved result : Session × List SessionEffect} (hstill : Still s moved)
    (hsubmits : Submits moved result) : Still s result := by
  rcases hsubmits with rfl | ⟨operation, rfl⟩
  · exact hstill
  · have hsubmit := still_submit moved.1 operation
    refine ⟨hstill.connection.trans hsubmit.connection, ?_, hstill.mute.append hsubmit.mute⟩
    rw [linked, List.filterMap_append, Connection.notices_append]
    exact List.append_eq_nil_iff.2 ⟨hstill.silent, hsubmit.silent⟩

theorem prepare_mute (s : Session) (operation : Nat) (what : Operation) : Mute (s.prepare operation what).2 := by
  intro news
  unfold prepare
  split
  · simp
  · split <;> simp [finish]

theorem still_prepare (s : Session) (operation : Nat) (what : Operation) : Still s (s.prepare operation what) := by
  refine ⟨?_, by rw [linked_prepare]; rfl, s.prepare_mute operation what⟩
  rcases s.prepare_cases operation what with ⟨state, -, -, hprepared⟩ | ⟨request, waiting, -, -, hprepared⟩
  · rw [hprepared]
    exact .refl _
  · rw [hprepared]
    exact ⟨rfl, rfl, rfl, rfl, rfl⟩

theorem still_begin (s : Session) (operation : Nat) (what : Operation) : Still s (s.move (.prepare operation what)) := by
  simp only [Session.move]
  split
  · split
    · exact (still_prepare { s with syncing := some operation } operation _).rebase rfl
    · exact .of_connection rfl
  · exact still_prepare s operation _

theorem still_turn (s : Session) : Still s (s.move .prepareTurn) := by
  simp only [Session.move]
  split
  · next first queue _ _ =>
    exact (still_prepare { s with syncing := some first.operation, queue } first.operation _).rebase rfl
  · exact .of_connection rfl

theorem onward_collect (s : Session) (operation : Nat) : Onward s [] (s.collect operation) := by
  unfold collect
  split
  · exact @onward_link_of_ne s (.collect _) (by simp) (by simp)
  · exact (Still.of_connection rfl).onward

end Session

end Debugger

namespace Adapter

/-- A launch after a step of its session, whose relay gets what that tells. -/
def Launched.after (launch : Launched) (result : Session × List SessionEffect) : Launched :=
  { launch with
    session := result.1
    inbox := (Connection.notices (linked result.2)).foldl Inbox.push launch.inbox }

namespace Server

/-! ## What is seen of a launch -/

/-- A launch, apart from whether it was answered. -/
def seen? (s : Server) (session : Nat) : Option Launched :=
  (Assoc.find? session s.launches).map fun launch => { launch with request := none }

/-- The launches are seen to be the same. -/
def SameSeen (s s' : Server) : Prop :=
  ∀ session, s'.seen? session = s.seen? session

section

variable {s s' s'' : Server} {session : Nat} {launch changed : Launched}

theorem seen?_of_find? (hfound : Assoc.find? session s.launches = some launch) :
    s.seen? session = some { launch with request := none } := by
  rw [seen?, hfound]
  rfl

theorem find?_of_seen? (hseen : s.seen? session = some launch) :
    ∃ found, Assoc.find? session s.launches = some found ∧ { found with request := none } = launch := by
  rwa [seen?, Option.map_eq_some_iff] at hseen

theorem SameSeen.refl (s : Server) : SameSeen s s := fun _ => rfl

theorem SameWork.seen (hsame : SameWork s s') : SameSeen s s' := fun session => by
  rw [seen?, hsame.launches]
  rfl

theorem seen?_setLaunch (s : Server) (session other : Nat) (launch : Launched) :
    (s.setLaunch session launch).seen? other =
      if other = session then some { launch with request := none } else s.seen? other := by
  unfold seen? setLaunch
  split
  · next heq => rw [heq, Assoc.find?_insert_self, Option.map_some]
  · next hne => rw [Assoc.find?_insert_of_ne hne]

theorem answerLaunch_seen (s : Server) (session : Nat) (result : Except CallError Unit) :
    SameSeen s (s.answerLaunch session result).1 := by
  unfold answerLaunch
  split
  · next launch hfound =>
    split
    · have hsame : SameSeen s (s.setLaunch session { launch with request := none }) := fun other => by
        rw [seen?_setLaunch]
        split
        · next heq => rw [heq, seen?_of_find? hfound]
        · rfl
      cases result with
      | ok success => exact hsame
      | error error => exact hsame
    · exact .refl s
  · exact .refl s

theorem answerOperation_seen (s : Server) (operation : Nat) (result : Except Debugger.Error Debugger.Answer) :
    SameSeen s (s.answerOperation operation result).1 := by
  unfold answerOperation
  split
  · cases result with
    | ok answer => exact fun _ => rfl
    | error error => exact fun _ => rfl
  · exact .refl s

/-- Of what a session's step does, only what its connection tells is seen. -/
theorem absorbOne_seen (s : Server) (session other : Nat) (effect : SessionEffect) :
    (s.absorbOne session effect).1.seen? other =
      if other = session then
        (s.seen? session).map fun launch =>
          { launch with inbox := (Connection.notices (linked [effect])).foldl Inbox.push launch.inbox }
      else s.seen? other := by
  have hsame : SameSeen s (s.absorbOne session effect).1 → Connection.notices (linked [effect]) = [] →
      (s.absorbOne session effect).1.seen? other =
        if other = session then
          (s.seen? session).map fun launch =>
            { launch with inbox := (Connection.notices (linked [effect])).foldl Inbox.push launch.inbox }
        else s.seen? other := by
    intro hsame hnothing
    rw [hnothing, hsame]
    split
    · next heq =>
      rw [heq]
      cases s.seen? session <;> rfl
    · rfl
  cases effect with
  | link effect =>
    cases effect with
    | told notification =>
      unfold absorbOne
      cases hfound : Assoc.find? session s.launches with
      | none =>
        dsimp only
        split
        · next heq => rw [heq, seen?, hfound]; rfl
        · rfl
      | some launch =>
        dsimp only
        rw [seen?_setLaunch, seen?_of_find? hfound]
        rfl
    | dialed dial result => exact hsame (answerLaunch_seen s session result) rfl
    | wrote stream bytes => exact hsame (.refl s) rfl
    | answered number result => exact hsame (.refl s) rfl
    | hungUp stream => exact hsame (.refl s) rfl
  | asked operation request => exact hsame (.refl s) rfl
  | replied operation reply => exact hsame (.refl s) rfl
  | ended operation result => exact hsame (answerOperation_seen s operation result) rfl
  | told news => exact hsame (tellNews_sameWork s news).seen rfl

theorem absorb_seen (s : Server) (session other : Nat) (effects : List SessionEffect) :
    (s.absorb session effects).1.seen? other =
      if other = session then
        (s.seen? session).map fun launch =>
          { launch with inbox := (Connection.notices (linked effects)).foldl Inbox.push launch.inbox }
      else s.seen? other := by
  induction effects generalizing s with
  | nil =>
    split
    · next heq =>
      rw [heq]
      cases hseen : s.seen? session with
      | none => exact hseen
      | some launch => exact hseen
    · rfl
  | cons effect rest ih =>
    have hsplit : Connection.notices (linked (effect :: rest))
        = Connection.notices (linked [effect]) ++ Connection.notices (linked rest) := by
      rw [← Connection.notices_append, linked, linked, linked, ← List.filterMap_append]
      rfl
    simp only [absorb]
    rw [ih, absorbOne_seen, absorbOne_seen]
    split
    · rw [if_pos rfl, hsplit, Option.map_map]
      simp only [List.foldl_append]
      rfl
    · rfl

/-- A session's step is seen by its own relay. -/
theorem within_seen (s : Server) (session other : Nat) (step : Session → Session × List SessionEffect) :
    (s.within session step).1.seen? other =
      if other = session then (s.seen? session).map fun launch => launch.after (step launch.session)
      else s.seen? other := by
  unfold within
  cases hfound : Assoc.find? session s.launches with
  | none =>
    dsimp only
    split
    · next heq => rw [heq, seen?, hfound]; rfl
    · rfl
  | some launch =>
    dsimp only
    rw [absorb_seen, seen?_setLaunch, seen?_setLaunch]
    split
    · rw [if_pos rfl, seen?_of_find? hfound]
      rfl
    · rfl

end

/-! ## What is said beside the relays -/

/-- A step that says nothing that is for relays to say, and ends neither debugging nor the reading. -/
structure Reserved (s : Server) (result : Server × List ServerEffect) : Prop where
  terminated : result.1.terminated = s.terminated
  ending : result.1.ending = s.ending
  news : ∀ news, .news news ∈ Loop.sent result.2 → news.event = "output" ∨ news.event = "initialized"

section

variable {s s' s'' : Server} {effects effects' : List ServerEffect} {session : Nat}

/-- Where nothing is told. -/
theorem Reserved.of_silent (hterminated : s'.terminated = s.terminated) (hending : s'.ending = s.ending)
    (hsilent : ∀ news, .news news ∉ Loop.sent effects) : Reserved s (s', effects) :=
  ⟨hterminated, hending, fun news hmem => absurd hmem (hsilent news)⟩

theorem Reserved.refl (s : Server) : Reserved s (s, []) :=
  .of_silent rfl rfl (by simp [Loop.sent])

theorem Reserved.append (hfirst : Reserved s (s', effects)) (hsecond : Reserved s' (s'', effects')) :
    Reserved s (s'', effects ++ effects') where
  terminated := hsecond.terminated.trans hfirst.terminated
  ending := hsecond.ending.trans hfirst.ending
  news news hmem := by
    rw [sent_append, List.mem_append] at hmem
    exact hmem.elim (hfirst.news news) (hsecond.news news)

theorem Reserved.log (hreserved : Reserved s (s', effects)) (record : Log.Record) :
    Reserved s (s', .logged record :: effects) :=
  ⟨hreserved.terminated, hreserved.ending, hreserved.news⟩

theorem respond_reserved (s : Server) (request : Message) (success : Bool) (body : Option Json)
    (message : Option String) : Reserved s (s.respond request success body message) :=
  .of_silent rfl rfl (by simp [Loop.sent])

theorem fail_reserved (s : Server) (request : Message) (error : Debugger.Error) : Reserved s (s.fail request error) :=
  (respond_reserved s request false none (some error.message)).log _

theorem tell_reserved (s : Server) {event : String} (hown : event = "output" ∨ event = "initialized")
    (body : Option Json) : Reserved s (s.tell event body) where
  terminated := rfl
  ending := rfl
  news news hmem := by
    simp only [tell, Loop.sent, List.filterMap_cons, List.filterMap_nil, List.mem_singleton, Outgoing.news.injEq] at hmem
    rw [hmem]
    exact hown

theorem output_reserved (s : Server) (category line : String) : Reserved s (s.output category line) :=
  tell_reserved s (.inl rfl) _

theorem answerLaunch_reserved (s : Server) (session : Nat) (result : Except CallError Unit) :
    Reserved s (s.answerLaunch session result) := by
  unfold answerLaunch
  split
  · next launch _ =>
    split
    · next request _ =>
      have hanswered : Reserved s (s.setLaunch session { launch with request := none }, []) := { Reserved.refl s with }
      cases result with
      | ok success =>
        exact hanswered.append ((respond_reserved _ request true none none).append (tell_reserved _ (.inr rfl) none))
      | error error =>
        have hvacant : Reserved s ({ s.setLaunch session { launch with request := none } with
            slot := if s.slot = some session then none else s.slot }, []) := { Reserved.refl s with }
        exact (hvacant.append (respond_reserved _ request false none _)).log _
    · exact .refl s
  · exact .refl s

theorem answerOperation_reserved (s : Server) (operation : Nat) (result : Except Debugger.Error Debugger.Answer) :
    Reserved s (s.answerOperation operation result) := by
  unfold answerOperation
  split
  · next asked _ =>
    have hanswered : Reserved s ({ s with asked := Assoc.erase operation s.asked }, []) := { Reserved.refl s with }
    cases result with
    | ok answer => exact hanswered.append (respond_reserved _ asked.request true _ none)
    | error error => exact hanswered.append (fail_reserved _ asked.request error)
  · exact .refl s

theorem absorbOne_reserved (s : Server) (session : Nat) {effect : SessionEffect}
    (hmute : ∀ news, effect ≠ .told news) : Reserved s (s.absorbOne session effect) := by
  have hlink : ∀ effect, Reserved s (s, [.link session effect]) := fun _ => .of_silent rfl rfl (by simp [Loop.sent])
  cases effect with
  | link effect =>
    cases effect with
    | told notification =>
      unfold absorbOne
      dsimp only
      split
      · exact { Reserved.refl s with }
      · exact .refl s
    | dialed dial result => exact answerLaunch_reserved s session result
    | wrote stream bytes => exact hlink _
    | answered number result => exact hlink _
    | hungUp stream => exact hlink _
  | asked operation request => exact .refl s
  | replied operation reply => exact .refl s
  | ended operation result => exact answerOperation_reserved s operation result
  | told news => exact absurd rfl (hmute news)

theorem absorb_reserved (s : Server) (session : Nat) {effects : List SessionEffect} (hmute : Debugger.Mute effects) :
    Reserved s (s.absorb session effects) := by
  induction effects generalizing s with
  | nil => exact .refl s
  | cons effect rest ih =>
    have hfirst : Reserved s (s.absorbOne session effect) :=
      absorbOne_reserved s session fun news heq => hmute news (heq ▸ List.mem_cons_self ..)
    exact hfirst.append (ih _ fun news hmem => hmute news (List.mem_cons_of_mem _ hmem))

theorem within_reserved (s : Server) (session : Nat) {step : Session → Session × List SessionEffect}
    (hmute : ∀ inner, Debugger.Mute (step inner).2) : Reserved s (s.within session step) := by
  unfold within
  split
  · next launch _ =>
    have hmoved : Reserved s (s.setLaunch session { launch with session := (step launch.session).1 }, []) :=
      { Reserved.refl s with }
    exact hmoved.append (absorb_reserved _ session (hmute launch.session))
  · exact .refl s

theorem scopes_reserved (s : Server) (frame : Debugger.Reference) : Reserved s ((s.scopes frame).2, []) := by
  unfold scopes
  split
  · exact { Reserved.refl s with }
  · exact .refl s

theorem launch_reserved (s : Server) (request : Message) : Reserved s (s.launch request) := by
  unfold Server.launch
  split
  · exact fail_reserved s request _
  · split
    · exact fail_reserved s request _
    · next arguments _ =>
      dsimp only
      have hentered : ∀ launch : Launched, Reserved s ({ s.setLaunch s.launched launch with
          launched := s.launched + 1, slot := some s.launched, tasks := s.tasks ++ [.connect s.launched] }, []) :=
        fun _ => { Reserved.refl s with }
      have hlogged : ∀ (s' : Server) (record : Log.Record), Reserved s' (s', [.logged record]) :=
        fun s' => (Reserved.refl s').log
      split
      · exact (hentered _).append ((output_reserved _ "console" _).append (hlogged _ _))
      · exact (hentered _).append ((Reserved.refl _).append (hlogged _ _))

theorem ask_reserved (s : Server) (request : Message) (what : Debugger.Operation) :
    Reserved s (s.ask request what) := by
  unfold ask
  split
  · exact fail_reserved s request _
  · exact { Reserved.refl s with }

end

/-! ## What the relays see -/

/-- What a session's relay sees of a step, and the server's news that the session tells in it. -/
inductive Glimpse : Option Launched → Option Launched → List Wire.Event.Payload → Prop
  | rests (seen : Option Launched) : Glimpse seen seen []
  /-- The session's launch begins. -/
  | begins {launch : Launched} (setup : ConnectionSetup) (connection : launch.session.connection = { setup })
      (inbox : launch.inbox = .new setup.eventChannelSize) (relaying : launch.relaying = true) :
      Glimpse none (some launch) []
  | goesOn {launch : Launched} {result : Session × List SessionEffect} {news : List Wire.Event.Payload}
      (onward : launch.session.Onward news result) : Glimpse (some launch) (some (launch.after result)) news

/-- The server's news that a session reads in a move. -/
def newsRead (s : Server) (session : Nat) : Move → List Wire.Event.Payload
  | .step (.link other action) =>
    if s.broken = false ∧ other = session then
      match Assoc.find? session s.launches with
      | some launch => (Connection.received (launch.session.connection.moments action)).filterMap Wire.Event.news?
      | none => []
    else []
  | _ => []

/-- What a step of another task does, as far as it concerns the relays. -/
structure Apart (s : Server) (told : Nat → List Wire.Event.Payload) (result : Server × List ServerEffect) : Prop where
  terminated : result.1.terminated = s.terminated
  left : result.1.ending = some (.ok ()) ↔ s.ending = some (.ok ())
  news : ∀ news, .news news ∈ Loop.sent result.2 → news.event = "output" ∨ news.event = "initialized"
  seen : ∀ session, Glimpse (s.seen? session) (result.1.seen? session) (told session)

section

variable {s s' : Server} {effects : List ServerEffect} {session : Nat}

theorem Reserved.apart {result : Server × List ServerEffect} {told : Nat → List Wire.Event.Payload}
    (hreserved : Reserved s result)
    (hseen : ∀ session, Glimpse (s.seen? session) (result.1.seen? session) (told session)) : Apart s told result :=
  ⟨hreserved.terminated, by rw [hreserved.ending], hreserved.news, hseen⟩

/-- Where nothing is seen. -/
theorem Reserved.unseen {result : Server × List ServerEffect} (hreserved : Reserved s result)
    (hsame : SameSeen s result.1) : Apart s (fun _ => []) result :=
  hreserved.apart fun session => hsame session ▸ .rests _

theorem Apart.refl (s : Server) : Apart s (fun _ => []) (s, []) :=
  (Reserved.refl s).unseen (.refl s)

theorem Apart.log {told : Nat → List Wire.Event.Payload} (hapart : Apart s told (s', effects)) (record : Log.Record) :
    Apart s told (s', .logged record :: effects) :=
  ⟨hapart.terminated, hapart.left, hapart.news, hapart.seen⟩

/-- A step of one session. -/
theorem within_apart (tasks : List Task) (session : Nat) {step : Session → Session × List SessionEffect}
    {told : Session → List Wire.Event.Payload} (honward : ∀ inner : Session, inner.Onward (told inner) (step inner)) :
    Apart s (fun other => if other = session then (s.seen? session).elim [] fun launch => told launch.session else [])
      ({ s with tasks }.within session step) := by
  have hpopped : Reserved s ({ s with tasks }, []) := { Reserved.refl s with }
  have hreserved : Reserved s ({ s with tasks }.within session step) :=
    hpopped.append (within_reserved _ session fun inner => (honward inner).mute)
  refine hreserved.apart fun other => ?_
  rw [within_seen]
  split
  · next heq =>
    subst heq
    have hsame : ({ s with tasks } : Server).seen? other = s.seen? other := rfl
    rw [hsame]
    cases s.seen? other with
    | none => exact .rests none
    | some launch => exact .goesOn (honward launch.session)
  · exact .rests _

/-- A step of one session that tells no news. -/
theorem within_apart_silent (tasks : List Task) (session : Nat) {step : Session → Session × List SessionEffect}
    (honward : ∀ inner : Session, inner.Onward [] (step inner)) :
    Apart s (fun _ => []) ({ s with tasks }.within session step) := by
  have hapart := within_apart (s := s) tasks session honward
  refine { hapart with seen := fun other => ?_ }
  have hseen := hapart.seen other
  split at hseen
  · cases hfound : s.seen? session with
    | none => rwa [hfound] at hseen
    | some launch => rwa [hfound] at hseen
  · exact hseen

theorem scopes_apart (s : Server) (frame : Debugger.Reference) : Apart s (fun _ => []) ((s.scopes frame).2, []) := by
  refine (scopes_reserved s frame).apart fun other => ?_
  unfold scopes current?
  cases s.slot with
  | none => exact .rests _
  | some session =>
    dsimp only [Option.bind_some]
    cases hfound : Assoc.find? session s.launches with
    | none => exact .rests _
    | some launch =>
      dsimp only [Option.map_some]
      rw [seen?_setLaunch]
      split
      · next heq =>
        rw [heq, seen?_of_find? hfound]
        let changed : Session := { launch.session with state := (launch.session.state.scopes frame).2 }
        exact @Glimpse.goesOn { launch with request := none } (changed, []) []
          (@Session.Still.of_connection launch.session changed rfl).onward
      · exact .rests _

theorem launch_apart (hfree : s.seen? s.launched = none) (request : Message) :
    Apart s (fun _ => []) (s.launch request) := by
  refine (launch_reserved s request).apart fun other => ?_
  have hentered : ∀ (launch : Launched) (setup : ConnectionSetup), launch.session.connection = { setup } →
      launch.inbox = .new setup.eventChannelSize → launch.relaying = true →
      Glimpse (s.seen? other) ((s.setLaunch s.launched launch).seen? other) [] := by
    intro launch setup hconnection hinbox hrelaying
    rw [seen?_setLaunch]
    split
    · next heq =>
      rw [heq, hfree]
      exact .begins setup hconnection hinbox hrelaying
    · exact .rests _
  unfold Server.launch
  split
  · exact .rests _
  · split
    · exact .rests _
    · next arguments _ =>
      dsimp only
      split
      · exact hentered _ _ rfl rfl rfl
      · exact hentered _ _ rfl rfl rfl

theorem perform_apart (hfree : s.seen? s.launched = none) {request : Message} (hother : request.command ≠ "disconnect") :
    Apart s (fun _ => []) (s.perform request) := by
  have hanswered : ∀ (success : Bool) (body : Option Json) (message : Option String),
      Apart s (fun _ => []) (s.respond request success body message) := fun success body message =>
    (respond_reserved s request success body message).unseen (respond_sameWork s request success body message).seen
  have hfailed : ∀ error, Apart s (fun _ => []) (s.fail request error) := fun error =>
    (fail_reserved s request error).unseen (fail_sameWork s request error).seen
  unfold perform
  cases hcommand : Command.of request with
  | error error => exact hfailed error
  | ok command =>
    cases command with
    | capabilities | threads | unknown => exact hanswered true _ _
    | launch => exact launch_apart hfree request
    | scopes frame =>
      refine ((scopes_reserved s frame).append (respond_reserved _ request true _ none)).apart fun session => ?_
      exact (scopes_apart s frame).seen session
    | operation what =>
      refine (ask_reserved s request what).unseen ?_
      unfold ask
      split
      · exact (fail_sameWork s request _).seen
      · exact fun _ => rfl
    | disconnect => exact absurd (Command.of_eq_disconnect.1 hcommand) hother

theorem newsRead_link (hopen : s.broken = false) (session : Nat) (action : Connection.Action) :
    (s.newsRead · (.step (.link session action))) = fun other =>
      if other = session then (s.seen? session).elim [] fun launch =>
        (Connection.received (launch.session.connection.moments action)).filterMap Wire.Event.news?
      else [] := by
  funext other
  simp only [newsRead, hopen, true_and, seen?]
  by_cases heq : other = session
  · subst heq
    rw [if_pos rfl, if_pos rfl]
    cases Assoc.find? other s.launches <;> rfl
  · rw [if_neg heq, if_neg (Ne.symm heq)]

/-- The other tasks leave it to the relays to empty the inboxes and to speak for the server. -/
theorem move_apart (hfree : s.seen? s.launched = none) {m : Move} (hwhole : m.inPieces = false) :
    Apart s (s.newsRead · m) (s.move m) := by
  by_cases hbroken : s.broken = true
  · have hnone : (s.newsRead · m) = fun _ => [] := by
      funext session
      unfold newsRead
      split
      · rw [if_neg (by simp [hbroken])]
      · rfl
    rw [move_of_broken hbroken, hnone]
    exact .refl s
  · cases m with
    | step action =>
      cases action with
      | receive message =>
        simp only [Server.move, Server.step, if_neg hbroken]
        unfold Server.receive
        split
        · exact .refl s
        · next hread =>
          have hkind : message.kind = .request := Decidable.not_not.1 fun hne => hread (.inr hne)
          refine (perform_apart hfree fun hcommand => ?_).log _
          simp [Move.inPieces, Move.departs?, hkind, hcommand] at hwhole
      | endInput ending =>
        simp only [Server.move, Server.step, if_neg hbroken]
        unfold Server.endInput
        split
        · exact .refl s
        · next hreading =>
          have hreading : s.ending = none := by simpa using hreading
          cases ending with
          | ok done => cases hwhole
          | error error => exact ⟨rfl, by simp [hreading], by simp [Loop.sent], fun _ => .rests _⟩
      | begin =>
        simp only [Server.move, Server.step, if_neg hbroken]
        unfold Server.begin
        split
        · exact .refl s
        · exact within_apart_silent _ _ fun inner => @Session.onward_link_of_ne inner .dial (by simp) (by simp)
        · next operation what _ _ =>
          exact within_apart_silent _ _ fun inner =>
            ((inner.still_begin operation what).submits (inner.start_submits operation what)).onward
      | relay session => cases hwhole
      | collect session operation =>
        simp only [Server.move, Server.step, if_neg hbroken]
        exact within_apart_silent s.tasks session fun inner => inner.onward_collect operation
      | takeTurn session =>
        simp only [Server.move, Server.step, if_neg hbroken]
        exact within_apart_silent s.tasks session fun inner => (inner.still_turn.submits inner.takeTurn_submits).onward
      | link session action =>
        have hother : action ≠ .shutdown := by
          rintro rfl
          cases hwhole
        have hread := newsRead_link (by simpa using hbroken) session action
        simp only [Server.move, Server.step, if_neg hbroken]
        split
        · next howner =>
          have hnone : (s.newsRead · (.step (.link session action))) = fun _ => [] := by
            rw [hread]
            funext other
            have hnothing : ∀ c : Connection, Connection.received (c.moments action) = [] := fun c =>
              Connection.received_eq_nil fun heq => by simp [heq, Connection.Action.byOwner] at howner
            cases hseen : s.seen? session <;> simp [hnothing]
          rw [hnone]
          exact .refl s
        · rw [hread]
          exact within_apart s.tasks session fun inner => inner.onward_link hother
    | prepare =>
      simp only [Server.move, if_neg hbroken]
      unfold Server.prepare
      split
      · exact .refl s
      · exact within_apart_silent _ _ fun inner => @Session.onward_link_of_ne inner .dial (by simp) (by simp)
      · next operation what _ _ => exact within_apart_silent _ _ fun inner => (inner.still_begin operation what).onward
    | prepareTurn session =>
      simp only [Server.move, if_neg hbroken]
      exact within_apart_silent s.tasks session fun inner => inner.still_turn.onward

end

end Server

end Adapter

end DebugBridge
