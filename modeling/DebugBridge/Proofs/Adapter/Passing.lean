import DebugBridge.Proofs.Adapter.Live

/-!
# What passes the launches by

Most steps are no concern of a launch: no dial ends in them, no connection comes about, the slot stays as it is, and
nothing that is sent is for a launch that was accepted. Steps of that kind can be put one after the other.
-/

namespace DebugBridge

open Debugger (Session SessionEffect linked)

/-! ## A session's dial -/

namespace Debugger.Session

/-- A session's step in which its dial does not end. -/
def Steady (s : Session) (result : Session × List SessionEffect) : Prop :=
  s.connection.Steady (result.1.connection, linked result.2)

variable {s : Session}

theorem Steady.trans {first second : Session × List SessionEffect} (hfirst : Steady s first)
    (hsecond : Steady first.1 second) : Steady s (second.1, first.2 ++ second.2) := by
  have hboth := Connection.Steady.trans hfirst hsecond
  unfold Steady linked
  rw [List.filterMap_append]
  exact hboth

theorem steady_link {action : Connection.Action} (hsteady : s.connection.Steady (s.connection.step action)) :
    Steady s (s.link (·.step action)) := by
  have hconnection := s.link_connection action
  refine ⟨?_, Connection.outcomes_eq_nil.2 fun dial ending hmem => ?_, ?_, ?_, ?_⟩
  · rw [hconnection]
    exact hsteady.orderly
  · exact Connection.outcomes_eq_nil.1 hsteady.silent dial ending ((s.dialed_link action dial ending).1 hmem)
  all_goals rw [hconnection]
  · exact hsteady.dials
  · exact hsteady.state
  · exact hsteady.closed

section

variable (horderly : s.connection.Orderly)
include horderly

/-- A step that is none of the dial's. -/
theorem steady_aside {action : Connection.Action} (hother : action.byOwner = false) (haside : action.ofDial = false) :
    Steady s (s.link (·.step action)) := by
  refine steady_link ?_
  rcases horderly.step hother with hsteady | ⟨-, hends⟩
  · exact hsteady
  · -- Who is silent about dials does not tell of the end of one.
    obtain ⟨-, -, hsilent⟩ := @Connection.step_aside s.connection action haside
    obtain ⟨before, dial, ending, htold, -⟩ := hends.told
    exact absurd (by simp [htold]) (hsilent dial ending)

end

theorem steady_submits {moved result : Session × List SessionEffect} (hsubmits : Submits moved result)
    (hsteady : Steady s moved) : Steady s result := by
  rcases hsubmits with rfl | ⟨operation, rfl⟩
  · exact hsteady
  · refine hsteady.trans ?_
    unfold Session.submit
    split
    · exact @steady_aside _ hsteady.orderly (.transmit _) rfl rfl
    · exact hsteady.orderly.refl

section

variable (horderly : s.connection.Orderly)
include horderly

theorem steady_prepare (operation : Nat) (what : Operation) : Steady s (s.prepare operation what) := by
  unfold Steady
  rw [linked_prepare]
  rcases s.prepare_cases operation what with ⟨state, -, -, hprepared⟩ | ⟨request, waiting, -, hconnected, hprepared⟩
  · rw [hprepared]
    exact horderly.refl
  · rw [hprepared]
    have hcalling := calling_dialStep horderly.oneDial hconnected request
    exact ⟨⟨hcalling.after, horderly.parted⟩, rfl, Iff.rfl, .inl rfl, id⟩

theorem steady_begin (operation : Nat) (what : Operation) : Steady s (s.move (.prepare operation what)) := by
  simp only [Session.move]
  split
  · split
    · exact steady_prepare (s := { s with syncing := some operation }) horderly operation _
    · exact horderly.refl
  · exact steady_prepare horderly operation _

theorem steady_turn : Steady s (s.move .prepareTurn) := by
  simp only [Session.move]
  split
  · next first queue _ _ =>
    exact steady_prepare (s := { s with syncing := some first.operation, queue }) horderly first.operation _
  · exact horderly.refl

theorem steady_collect (operation : Nat) : Steady s (s.collect operation) := by
  unfold Session.collect
  split
  · exact @steady_aside _ horderly (.collect _) rfl rfl
  · exact horderly.refl

theorem steady_shutdown : Steady s (s.link fun c =>
    let (c, first) := c.shutdown
    let (c, later) := c.leave
    (c, first ++ later)) := by
  rw [link_shutdown]
  have hfirst := @steady_aside _ horderly .shutdown rfl rfl
  exact hfirst.trans (@steady_aside _ hfirst.orderly .leave rfl rfl)

end

end Debugger.Session

namespace Adapter

/-! ## Messages that are for launches -/

/-- Whether a command is one of the two that launch. -/
def isLaunch (command : String) : Bool :=
  command == "launch" || command == "attach"

theorem Command.of_eq_launch {request : Message} :
    Command.of request = .ok .launch ↔ isLaunch request.command = true := by
  constructor
  · intro hcommand
    unfold Command.of at hcommand
    dsimp only at hcommand
    split at hcommand
    all_goals first
      | cases hcommand
      | exact absurd hcommand (map_ne_ok _ (by simp))
      | skip
    · next hname => simp [hname, isLaunch]
    · next hname => simp [hname, isLaunch]
    · split at hcommand
      · cases hcommand
      · split at hcommand <;> cases hcommand
    · split at hcommand <;> cases hcommand
  · intro hlaunch
    simp only [isLaunch, Bool.or_eq_true, beq_iff_eq] at hlaunch
    unfold Command.of
    rcases hlaunch with hname | hname
    · rw [hname]
      rfl
    · rw [hname]
      rfl

/-- Whether a message is one that a launch gets that has connected. -/
def Outgoing.welcomes : Outgoing → Bool
  | .response r => r.success && isLaunch r.command
  | .news n => n.event == "initialized"

/-- Nothing is said to a launch that would have connected. -/
def Plain (effects : List ServerEffect) : Prop :=
  ∀ message ∈ Loop.sent effects, message.welcomes = false

theorem Plain.append {first later : List ServerEffect} (hfirst : Plain first) (hlater : Plain later) :
    Plain (first ++ later) := by
  intro message hmem
  rw [Server.sent_append, List.mem_append] at hmem
  exact hmem.elim (hfirst message) (hlater message)

theorem newsEvent_ne_initialized (news : Debugger.News) : (newsEvent news).1 ≠ "initialized" := by
  cases news <;> simp [newsEvent]

/-! ## Steps -/

namespace Server

/-- No request that a task is to answer is a launch. -/
def AskedApart (s : Server) : Prop :=
  ∀ operation asked, (operation, asked) ∈ s.asked → isLaunch asked.request.command = false

/-- A step that is no concern of the launches. -/
structure Passes (s : Server) (result : Server × List ServerEffect) : Prop where
  launched : result.1.launched = s.launched
  slot : result.1.slot = s.slot
  ending : result.1.ending = s.ending
  connects : toConnect result.1.tasks = toConnect s.tasks
  listed : ∀ session launch, Assoc.find? session s.launches = some launch → launch.session.connection.Orderly →
    ∃ changed, Assoc.find? session result.1.launches = some changed ∧ changed.request = launch.request ∧
      launch.session.connection.Steady (changed.session.connection, [])
  unlisted : ∀ session, Assoc.find? session s.launches = none → Assoc.find? session result.1.launches = none
  asked : s.AskedApart → result.1.AskedApart
  plain : s.AskedApart → Plain result.2

variable {s s' s'' : Server} {session : Nat} {launch changed : Launched}

theorem Passes.of_sameWork {effects : List ServerEffect} (hsame : SameWork s s') (hplain : Plain effects) :
    Passes s (s', effects) where
  launched := hsame.launched
  slot := hsame.slot
  ending := hsame.ending
  connects := congrArg toConnect hsame.tasks
  listed session launch hfound horderly := by
    rw [hsame.launches]
    exact ⟨launch, hfound, rfl, horderly.refl⟩
  unlisted session hnone := by rwa [hsame.launches]
  asked hasked := by
    unfold AskedApart
    rwa [hsame.asked]
  plain _ := hplain

theorem Passes.refl (s : Server) : Passes s (s, []) :=
  .of_sameWork (.refl s) (by simp [Plain, Loop.sent])

theorem Passes.append {effects effects' : List ServerEffect} (hfirst : Passes s (s', effects))
    (hsecond : Passes s' (s'', effects')) : Passes s (s'', effects ++ effects') where
  launched := hsecond.launched.trans hfirst.launched
  slot := hsecond.slot.trans hfirst.slot
  ending := hsecond.ending.trans hfirst.ending
  connects := hsecond.connects.trans hfirst.connects
  listed session launch hfound horderly := by
    obtain ⟨changed, hchanged, hrequest, hsteady⟩ := hfirst.listed session launch hfound horderly
    obtain ⟨later, hlater, hrequest', hsteady'⟩ := hsecond.listed session changed hchanged hsteady.orderly
    exact ⟨later, hlater, hrequest'.trans hrequest, hsteady.trans hsteady'⟩
  unlisted session hnone := hsecond.unlisted session (hfirst.unlisted session hnone)
  asked hasked := hsecond.asked (hfirst.asked hasked)
  plain hasked := (hfirst.plain hasked).append (hsecond.plain (hfirst.asked hasked))

/-- What is logged beside it makes no difference. -/
theorem Passes.log {effects : List ServerEffect} (hpasses : Passes s (s', effects)) (record : Log.Record) :
    Passes s (s', .logged record :: effects) :=
  { hpasses with plain := hpasses.plain }

/-! ### Messages to the editor -/

theorem respond_passes (s : Server) (request : Message) (success : Bool) (body : Option Json) (message : Option String)
    (hother : success = false ∨ isLaunch request.command = false) :
    Passes s (s.respond request success body message) := by
  refine .of_sameWork (respond_sameWork s request success body message) ?_
  rcases hother with hfailed | hother
  · simp [Plain, Loop.sent, Outgoing.welcomes, hfailed]
  · simp [Plain, Loop.sent, Outgoing.welcomes, hother]

theorem fail_passes (s : Server) (request : Message) (error : Debugger.Error) : Passes s (s.fail request error) :=
  (respond_passes s request false none (some error.message) (.inl rfl)).log _

theorem tell_passes (s : Server) {event : String} (hother : event ≠ "initialized") (body : Option Json) :
    Passes s (s.tell event body) := by
  refine .of_sameWork (tell_sameWork s event body) ?_
  simp [Plain, Loop.sent, Outgoing.welcomes, hother]

theorem output_passes (s : Server) (category line : String) : Passes s (s.output category line) :=
  tell_passes s (by simp) _

theorem terminate_passes (s : Server) : Passes s s.terminate := by
  unfold terminate
  split
  · exact .refl s
  · have hmarked : Passes s ({ s with terminated := true }, []) := { Passes.refl s with }
    exact hmarked.append (tell_passes _ (by simp) none)

theorem tellNews_passes (s : Server) (news : List Debugger.News) : Passes s (s.tellNews news) := by
  induction news generalizing s with
  | nil => exact .refl s
  | cons first rest ih => exact (tell_passes s (newsEvent_ne_initialized first) _).append (ih _)

theorem answerOperation_passes (s : Server) (operation : Nat) (result : Except Debugger.Error Debugger.Answer)
    (hasked : s.AskedApart) : Passes s (s.answerOperation operation result) := by
  unfold answerOperation
  split
  · next asked hfound =>
    have herased : Passes s ({ s with asked := Assoc.erase operation s.asked }, []) :=
      { Passes.refl s with asked := fun h other held hmem => h other held (Assoc.mem_erase.1 hmem).1 }
    have hother : isLaunch asked.request.command = false := hasked _ _ (Assoc.mem_of_find? hfound)
    cases result with
    | ok answer => exact herased.append (respond_passes _ asked.request true _ none (.inr hother))
    | error error => exact herased.append (fail_passes _ asked.request error)
  · exact .refl s

/-! ### Sessions -/

theorem setLaunch_passes (hfound : Assoc.find? session s.launches = some launch)
    (hrequest : changed.request = launch.request)
    (hsteady : launch.session.connection.Orderly →
      launch.session.connection.Steady (changed.session.connection, [])) :
    Passes s (s.setLaunch session changed, []) :=
  { Passes.refl s with
    listed := fun other held hheld horderly => by
      by_cases hself : other = session
      · subst hself
        obtain rfl : launch = held := Option.some.inj (hfound.symm.trans hheld)
        exact ⟨changed, Assoc.find?_insert_self _ _ _, hrequest, hsteady horderly⟩
      · exact ⟨held, (Assoc.find?_insert_of_ne hself _ _).trans hheld, rfl, horderly.refl⟩
    unlisted := fun other hnone => by
      have hne : other ≠ session := by
        rintro rfl
        rw [hfound] at hnone
        cases hnone
      exact (Assoc.find?_insert_of_ne hne _ _).trans hnone }

/-- An effect that ends no dial. -/
theorem absorbOne_passes (s : Server) (session : Nat) {effect : SessionEffect} (hasked : s.AskedApart)
    (hother : ∀ dial ending, effect ≠ .link (.dialed dial ending)) : Passes s (s.absorbOne session effect) := by
  have hlink : ∀ effect, Passes s (s, [.link session effect]) := fun _ =>
    { Passes.refl s with plain := fun _ => by simp [Plain, Loop.sent] }
  cases effect with
  | link effect =>
    cases effect with
    | told notification =>
      unfold absorbOne
      dsimp only
      split
      · next launch hfound =>
        exact @setLaunch_passes _ _ _ { launch with inbox := launch.inbox.push notification } hfound rfl
          fun horderly => horderly.refl
      · exact .refl s
    | dialed dial result => exact absurd rfl (hother dial result)
    | wrote stream bytes => exact hlink _
    | answered number result => exact hlink _
    | hungUp stream => exact hlink _
  | asked operation request => exact .refl s
  | replied operation reply => exact .refl s
  | ended operation result => exact answerOperation_passes s operation result hasked
  | told news => exact tellNews_passes s news

theorem absorb_passes (session : Nat) {effects : List SessionEffect} (hasked : s.AskedApart)
    (hsilent : Connection.outcomes (linked effects) = []) : Passes s (s.absorb session effects) := by
  have hnone := Connection.outcomes_eq_nil.1 hsilent
  clear hsilent
  induction effects generalizing s with
  | nil => exact .refl s
  | cons effect rest ih =>
    have hfirst : Passes s (s.absorbOne session effect) := by
      refine absorbOne_passes s session hasked fun dial ending heq => ?_
      exact hnone dial ending (Debugger.mem_linked.2 (heq ▸ List.mem_cons_self ..))
    refine hfirst.append (ih (hfirst.asked hasked) fun dial ending hmem => ?_)
    exact hnone dial ending (Debugger.mem_linked.2 (List.mem_cons_of_mem _ (Debugger.mem_linked.1 hmem)))

/-- A session's step in which its dial does not end. -/
theorem within_passes (session : Nat) {step : Session → Session × List SessionEffect} (hasked : s.AskedApart)
    (hsteady : ∀ launch, Assoc.find? session s.launches = some launch → launch.session.Steady (step launch.session)) :
    Passes s (s.within session step) := by
  unfold within
  split
  · next launch hfound =>
    have hstep := hsteady launch hfound
    have hmoved : Passes s (s.setLaunch session { launch with session := (step launch.session).1 }, []) :=
      setLaunch_passes hfound rfl fun _ => { hstep with silent := rfl }
    exact hmoved.append (absorb_passes session (hmoved.asked hasked) hstep.silent)
  · exact .refl s

/-- After the step, the session's connection is what the step has made of it. -/
theorem within_listed (step : Session → Session × List SessionEffect) (hasked : s.AskedApart)
    (hfound : Assoc.find? session s.launches = some launch) (hsteady : launch.session.Steady (step launch.session)) :
    ∃ changed, Assoc.find? session (s.within session step).1.launches = some changed ∧
      (step launch.session).1.connection.Steady (changed.session.connection, []) := by
  have habsorbed := absorb_passes (s := s.setLaunch session { launch with session := (step launch.session).1 }) session
    hasked hsteady.silent
  obtain ⟨changed, hchanged, -, hsame⟩ := habsorbed.listed session _ (Assoc.find?_insert_self _ _ _) hsteady.orderly
  refine ⟨changed, ?_, hsame⟩
  unfold within
  rw [hfound]
  exact hchanged

end Server

end Adapter

end DebugBridge
