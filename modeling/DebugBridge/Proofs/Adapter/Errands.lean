import DebugBridge.Proofs.Adapter.Answers
import DebugBridge.Proofs.Debugger.Sending

/-!
# What the adapter does to one session

Of the effects of a session's step the adapter takes in some, and passes the others on. Neither does anything to a
session, so a session changes by its own steps only, and what is written to its server is what these steps write.
-/

namespace DebugBridge.Adapter.Server

open Debugger (Session SessionEffect)

/-- The session of a launch. -/
def inner? (s : Server) (session : Nat) : Option Session :=
  (Assoc.find? session s.launches).map (·.session)

/-- What is written to a session's server, piece by piece. -/
def writesOf (session : Nat) (effects : List ServerEffect) : List Bytes :=
  effects.filterMap fun
    | .link other (.wrote _ bytes) => if other = session then some bytes else none
    | _ => none

/-- The sessions are the same in two states, and what is there for them to do. -/
structure SameSessions (s s' : Server) : Prop where
  operations : s'.operations = s.operations
  tasks : s'.tasks = s.tasks
  asked : ∀ entry ∈ s'.asked, entry ∈ s.asked
  inner : ∀ session, s'.inner? session = s.inner? session

section

variable {s s' s'' : Server} {session : Nat} {launch : Launched}

theorem writesOf_append (session : Nat) (first later : List ServerEffect) :
    writesOf session (first ++ later) = writesOf session first ++ writesOf session later :=
  List.filterMap_append

theorem SameSessions.refl (s : Server) : SameSessions s s :=
  ⟨rfl, rfl, fun _ => id, fun _ => rfl⟩

theorem SameSessions.trans (hfirst : SameSessions s s') (hsecond : SameSessions s' s'') : SameSessions s s'' where
  operations := hsecond.operations.trans hfirst.operations
  tasks := hsecond.tasks.trans hfirst.tasks
  asked entry hmem := hfirst.asked entry (hsecond.asked entry hmem)
  inner session := (hsecond.inner session).trans (hfirst.inner session)

theorem SameWork.sessions (hsame : SameWork s s') : SameSessions s s' where
  operations := hsame.operations
  tasks := hsame.tasks
  asked _ hmem := hsame.asked ▸ hmem
  inner session := by rw [inner?, inner?, hsame.launches]

/-- A launch changes in what is no concern of its session. -/
theorem setLaunch_sessions {changed : Launched} (hfound : Assoc.find? session s.launches = some launch)
    (hsession : changed.session = launch.session) : SameSessions s (s.setLaunch session changed) where
  operations := rfl
  tasks := rfl
  asked _ := id
  inner other := by
    unfold inner? setLaunch
    by_cases hself : other = session
    · rw [hself, Assoc.find?_insert_self, hfound, Option.map_some, Option.map_some, hsession]
    · rw [Assoc.find?_insert_of_ne hself]

/-! ## What is taken in -/

theorem answerLaunch_sessions (s : Server) (session : Nat) (result : Except CallError Unit) :
    SameSessions s (s.answerLaunch session result).1 := by
  unfold answerLaunch
  split
  · next launch hfound =>
    split
    · next request hrequest =>
      have htold := @setLaunch_sessions s session launch { launch with request := none } hfound rfl
      cases result with
      | ok success => exact htold.trans ⟨rfl, rfl, fun _ => id, fun _ => rfl⟩
      | error error => exact htold.trans ⟨rfl, rfl, fun _ => id, fun _ => rfl⟩
    · exact .refl s
  · exact .refl s

theorem answerLaunch_writes (s : Server) (session : Nat) (result : Except CallError Unit) (other : Nat) :
    writesOf other (s.answerLaunch session result).2 = [] := by
  unfold answerLaunch
  split
  · split
    · cases result <;> rfl
    · rfl
  · rfl

theorem answerOperation_sessions (s : Server) (operation : Nat) (result : Except Debugger.Error Debugger.Answer) :
    SameSessions s (s.answerOperation operation result).1 := by
  unfold answerOperation
  split
  · next asked hfound =>
    have herased : SameSessions s { s with asked := Assoc.erase operation s.asked } :=
      ⟨rfl, rfl, fun _ hmem => (Assoc.mem_erase.1 hmem).1, fun _ => rfl⟩
    cases result with
    | ok answer => exact herased.trans (respond_sameWork _ asked.request true _ none).sessions
    | error error => exact herased.trans (fail_sameWork _ asked.request error).sessions
  · exact .refl s

theorem answerOperation_writes (s : Server) (operation : Nat) (result : Except Debugger.Error Debugger.Answer)
    (other : Nat) : writesOf other (s.answerOperation operation result).2 = [] := by
  unfold answerOperation
  split
  · cases result <;> rfl
  · rfl

theorem tellNews_writes (s : Server) (news : List Debugger.News) (other : Nat) :
    writesOf other (s.tellNews news).2 = [] := by
  induction news generalizing s with
  | nil => rfl
  | cons first rest ih =>
    have hrest := ih (s.tell (newsEvent first).1 (some (newsEvent first).2)).1
    exact hrest

theorem terminate_writes (s : Server) (other : Nat) : writesOf other s.terminate.2 = [] := by
  unfold terminate
  split <;> rfl

theorem absorbOne_sessions (s : Server) (session : Nat) (effect : SessionEffect) :
    SameSessions s (s.absorbOne session effect).1 := by
  cases effect with
  | link effect =>
    cases effect with
    | told notification =>
      unfold absorbOne
      dsimp only
      split
      · next launch hfound =>
        exact @setLaunch_sessions s session launch { launch with inbox := launch.inbox.push notification } hfound rfl
      · exact .refl s
    | dialed dial result => exact answerLaunch_sessions s session result
    | wrote stream bytes => exact .refl s
    | answered number result => exact .refl s
    | hungUp stream => exact .refl s
  | asked operation request => exact .refl s
  | replied operation reply => exact .refl s
  | ended operation result => exact answerOperation_sessions s operation result
  | told news => exact (tellNews_sameWork s news).sessions

theorem absorbOne_writes (s : Server) (session : Nat) (effect : SessionEffect) (other : Nat) :
    writesOf other (s.absorbOne session effect).2 = if other = session then Session.writes [effect] else [] := by
  have hnone : Session.writes [effect] = [] → writesOf other (s.absorbOne session effect).2 = [] →
      writesOf other (s.absorbOne session effect).2 = if other = session then Session.writes [effect] else [] := by
    intro hwrites hsilent
    rw [hwrites, hsilent, ite_self]
  cases effect with
  | link effect =>
    cases effect with
    | told notification =>
      refine hnone rfl ?_
      unfold absorbOne
      dsimp only
      split <;> rfl
    | dialed dial result => exact hnone rfl (answerLaunch_writes s session result other)
    | wrote stream bytes =>
      by_cases hself : session = other
      · simp [absorbOne, writesOf, Session.writes, Debugger.linked, Connection.writes, hself]
      · simp [absorbOne, writesOf, hself, Ne.symm hself]
    | answered number result => exact hnone rfl rfl
    | hungUp stream => exact hnone rfl rfl
  | asked operation request => exact hnone rfl rfl
  | replied operation reply => exact hnone rfl rfl
  | ended operation result => exact hnone rfl (answerOperation_writes s operation result other)
  | told news => exact hnone rfl (tellNews_writes s news other)

theorem absorb_sessions (s : Server) (session : Nat) (effects : List SessionEffect) :
    SameSessions s (s.absorb session effects).1 := by
  induction effects generalizing s with
  | nil => exact .refl s
  | cons effect rest ih => exact (absorbOne_sessions s session effect).trans (ih _)

theorem absorb_writes (s : Server) (session : Nat) (effects : List SessionEffect) (other : Nat) :
    writesOf other (s.absorb session effects).2 = if other = session then Session.writes effects else [] := by
  induction effects generalizing s with
  | nil => exact (ite_self _).symm
  | cons effect rest ih =>
    have hsplit : Session.writes (effect :: rest) = Session.writes [effect] ++ Session.writes rest := by
      unfold Session.writes Connection.writes Debugger.linked
      rw [← List.filterMap_append, ← List.filterMap_append]
      rfl
    simp only [absorb, writesOf_append, absorbOne_writes, ih, hsplit]
    split <;> rfl

/-! ## Steps of a session -/

/-- Only the session takes a step, and what it writes is all that is written. -/
structure Moves (s : Server) (session : Nat) (step : Session → Session × List SessionEffect)
    (result : Server × List ServerEffect) : Prop where
  operations : result.1.operations = s.operations
  tasks : result.1.tasks = s.tasks
  asked : ∀ entry ∈ result.1.asked, entry ∈ s.asked
  own : result.1.inner? session = (s.inner? session).map fun inner => (step inner).1
  others : ∀ other, other ≠ session → result.1.inner? other = s.inner? other
  wrote : writesOf session result.2 = ((s.inner? session).map fun inner => Session.writes (step inner).2).getD []
  silent : ∀ other, other ≠ session → writesOf other result.2 = []

theorem within_moves (s : Server) (session : Nat) (step : Session → Session × List SessionEffect) :
    Moves s session step (s.within session step) := by
  unfold within
  split
  · next launch hfound =>
    have hsame := absorb_sessions (s.setLaunch session { launch with session := (step launch.session).1 }) session
      (step launch.session).2
    have hinner : s.inner? session = some launch.session := by rw [inner?, hfound, Option.map_some]
    refine {
      operations := hsame.operations
      tasks := hsame.tasks
      asked := hsame.asked
      own := ?_
      others := fun other hne => ?_
      wrote := ?_
      silent := fun other hne => ?_ }
    · rw [hsame.inner, hinner, inner?, setLaunch, Assoc.find?_insert_self]
      rfl
    · rw [hsame.inner, inner?, inner?, setLaunch, Assoc.find?_insert_of_ne hne]
    · rw [absorb_writes, if_pos rfl, hinner]
      rfl
    · rw [absorb_writes, if_neg hne]
  · next hnone =>
    have hinner : s.inner? session = none := by rw [inner?, hnone, Option.map_none]
    exact ⟨rfl, rfl, fun _ => id, by rw [hinner]; rfl, fun _ _ => rfl, by rw [hinner]; rfl, fun _ _ => rfl⟩

variable {step : Session → Session × List SessionEffect} {result : Server × List ServerEffect}

theorem SameSessions.moves (hsame : SameSessions s result.1) (hsilent : ∀ other, writesOf other result.2 = [])
    (session : Nat) : Moves s session (fun inner => (inner, [])) result where
  operations := hsame.operations
  tasks := hsame.tasks
  asked := hsame.asked
  own := by rw [hsame.inner, Option.map_id']
  others other _ := hsame.inner other
  wrote := by
    rw [hsilent]
    cases s.inner? session <;> rfl
  silent other _ := hsilent other

theorem Moves.of_inner (hmoves : Moves s session step result) {inner : Session}
    (hinner : s.inner? session = some inner) :
    result.1.inner? session = some (step inner).1 ∧ writesOf session result.2 = Session.writes (step inner).2 := by
  rw [hmoves.own, hmoves.wrote, hinner]
  exact ⟨rfl, rfl⟩

theorem Moves.after (hsame : SameSessions s s') (hmoves : Moves s' session step result) :
    Moves s session step result where
  operations := hmoves.operations.trans hsame.operations
  tasks := hmoves.tasks.trans hsame.tasks
  asked entry hmem := hsame.asked entry (hmoves.asked entry hmem)
  own := by rw [hmoves.own, hsame.inner]
  others other hne := (hmoves.others other hne).trans (hsame.inner other)
  wrote := by rw [hmoves.wrote, hsame.inner]
  silent := hmoves.silent

theorem Moves.next (hmoves : Moves s session step result) (hsame : SameSessions result.1 s')
    {effects : List ServerEffect} (hsilent : ∀ other, writesOf other effects = []) :
    Moves s session step (s', result.2 ++ effects) where
  operations := hsame.operations.trans hmoves.operations
  tasks := hsame.tasks.trans hmoves.tasks
  asked entry hmem := hmoves.asked entry (hsame.asked entry hmem)
  own := (hsame.inner session).trans hmoves.own
  others other hne := (hsame.inner other).trans (hmoves.others other hne)
  wrote := by rw [writesOf_append, hsilent, List.append_nil, hmoves.wrote]
  silent other hne := by rw [writesOf_append, hsilent, List.append_nil, hmoves.silent other hne]

/-! ## Steps in which nothing has its turn -/

/-- At most one session does a step, and if that is the one looked at, it only goes on. -/
def Aside (s : Server) (session : Nat) (clean : Prop) (result : Server × List ServerEffect) : Prop :=
  ∃ other step, Moves s other step result ∧
    (other = session → ∀ inner, s.inner? session = some inner → inner.GoesOn clean (step inner))

section

variable {clean : Prop}

theorem aside_of_same (hsame : SameSessions s result.1) (hsilent : ∀ other, writesOf other result.2 = []) :
    Aside s session clean result :=
  ⟨session, _, hsame.moves hsilent session, fun _ _ _ _ _ _ _ _ hposts => ⟨hposts.still, rfl⟩⟩

theorem Aside.after (hsame : SameSessions s s') (haside : Aside s' session clean result) :
    Aside s session clean result := by
  obtain ⟨other, step, hmoves, hgoesOn⟩ := haside
  exact ⟨other, step, hmoves.after hsame, fun heq inner hinner => hgoesOn heq inner ((hsame.inner _).trans hinner)⟩

theorem Aside.next (haside : Aside s session clean result) (hsame : SameSessions result.1 s')
    {effects : List ServerEffect} (hsilent : ∀ other, writesOf other effects = []) :
    Aside s session clean (s', result.2 ++ effects) := by
  obtain ⟨other, step, hmoves, hgoesOn⟩ := haside
  exact ⟨other, step, hmoves.next hsame hsilent, hgoesOn⟩

theorem Aside.congr (haside : Aside s session clean result) (hsame : SameSessions result.1 s') :
    Aside s session clean (s', result.2) := by
  simpa using haside.next hsame (show ∀ other, writesOf other [] = [] from fun _ => rfl)

theorem Aside.log (haside : Aside s session clean result) (record : Log.Record) :
    Aside s session clean (result.1, .logged record :: result.2) := by
  obtain ⟨other, step, hmoves, hgoesOn⟩ := haside
  exact ⟨other, step, { hmoves with }, hgoesOn⟩

theorem within_aside (other : Nat)
    (hgoesOn : other = session → ∀ inner, s.inner? session = some inner → inner.GoesOn clean (step inner)) :
    Aside s session clean (s.within other step) :=
  ⟨other, step, within_moves s other step, hgoesOn⟩

theorem respond_aside (s : Server) (request : Message) (success : Bool) (body : Option Json)
    (message : Option String) : Aside s session clean (s.respond request success body message) :=
  aside_of_same (respond_sameWork s request success body message).sessions fun _ => rfl

theorem fail_aside (s : Server) (request : Message) (error : Debugger.Error) :
    Aside s session clean (s.fail request error) :=
  aside_of_same (fail_sameWork s request error).sessions fun _ => rfl

/-- The scopes of a frame are looked up. -/
theorem scopes_aside (s : Server) (frame : Debugger.Reference) : Aside s session clean ((s.scopes frame).2, []) := by
  unfold scopes current?
  cases hslot : s.slot with
  | none => exact aside_of_same (.refl s) fun _ => rfl
  | some other =>
    dsimp only [Option.bind_some]
    cases hfound : Assoc.find? other s.launches with
    | none => exact aside_of_same (.refl s) fun _ => rfl
    | some launch =>
      refine ⟨other, fun inner => ({ inner with state := (inner.state.scopes frame).2 }, []), ?_, ?_⟩
      · refine ⟨rfl, rfl, fun _ => id, ?_, fun session hne => ?_, ?_, fun _ _ => rfl⟩
        · simp [inner?, setLaunch, hfound, Assoc.find?_insert_self]
        · simp [inner?, setLaunch, Assoc.find?_insert_of_ne hne]
        · simp [inner?, hfound, writesOf, Session.writes, Debugger.linked, Connection.writes]
      · intro _ inner _ _ _ _ _ _ hposts
        have hsame := (Debugger.State.scopes_adds inner.state frame).breakpoints
        exact ⟨Session.Posts.silent (hposts.learn hsame) rfl, rfl⟩

/-- The session in the slot is closed. -/
theorem endSession_aside (s : Server) : Aside s session clean s.endSession := by
  unfold endSession
  split
  · next other _ =>
    have hemptied : SameSessions s { s with slot := none } := ⟨rfl, rfl, fun _ => id, fun _ => rfl⟩
    refine Aside.after hemptied (within_aside other ?_)
    exact fun _ inner _ _ _ _ _ hbound hposts => hposts.shutdown hbound
  · exact aside_of_same (.refl s) fun _ => rfl

theorem endInput_aside (s : Server) (ending : Except ReadError Unit) :
    Aside s session clean (s.endInput ending) := by
  unfold endInput
  split
  · exact aside_of_same (.refl s) fun _ => rfl
  · split
    · exact (endSession_aside s).congr ⟨rfl, rfl, fun _ => id, fun _ => rfl⟩
    · exact aside_of_same ⟨rfl, rfl, fun _ => id, fun _ => rfl⟩ fun _ => rfl

/-- What is told is relayed. -/
theorem relay_aside (s : Server) (other : Nat) : Aside s session clean (s.relay other) := by
  unfold relay
  split
  · exact aside_of_same (.refl s) fun _ => rfl
  · next launch hfound =>
    split
    · exact aside_of_same (.refl s) fun _ => rfl
    · split
      · exact aside_of_same (.refl s) fun _ => rfl
      · next delivery inbox _ =>
        dsimp only
        have htaken : SameSessions s (s.setLaunch other { launch with inbox }) := setLaunch_sessions hfound rfl
        have hstopped : SameSessions s ((s.setLaunch other { launch with inbox }).setLaunch other
            { launch with inbox, relaying := false }) :=
          htaken.trans (@setLaunch_sessions _ other { launch with inbox } _ (Assoc.find?_insert_self _ _ _) rfl)
        split
        · exact aside_of_same htaken fun _ => rfl
        · split
          · exact aside_of_same (htaken.trans (output_sameWork _ "console" _).sessions) fun _ => rfl
          · exact aside_of_same htaken fun _ => rfl
        · split
          · exact aside_of_same (htaken.trans (output_sameWork _ "console" _).sessions) fun _ => rfl
          · exact aside_of_same htaken fun _ => rfl
        · next payload _ =>
          split
          · refine Aside.after htaken (within_aside other ?_)
            exact fun _ inner _ _ _ _ _ _ hposts => ⟨hposts.handleEvent payload, rfl⟩
          · exact aside_of_same hstopped fun _ => rfl
        · split
          · next error _ =>
            have hsaid := (output_sameWork ((s.setLaunch other { launch with inbox }).setLaunch other
              { launch with inbox, relaying := false }) "stderr" s!"Lost connection to debug server: {error}")
            refine aside_of_same (hstopped.trans (hsaid.trans (terminate_sameWork _)).sessions) fun other => ?_
            rw [writesOf_append, terminate_writes]
            rfl
          · refine aside_of_same (hstopped.trans (terminate_sameWork _).sessions) fun other => ?_
            rw [writesOf_append, terminate_writes]
            rfl

end

end

end DebugBridge.Adapter.Server
