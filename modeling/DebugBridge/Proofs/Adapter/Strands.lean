import DebugBridge.Proofs.Adapter.Seen
import DebugBridge.Proofs.Debugger.Threads

/-!
# What a step of the adapter in pieces does

A relay says a line or takes a notification, the request loop does one of the pieces of leaving, or something happens
that is no concern of either: `step_does`. For a session, its relay and what there is to say this comes to six cases:
`Does.sight`.
-/

namespace DebugBridge.Adapter

open Debugger (Session)

/-! ## Relays -/

namespace Launched

/-- What a relay says of a notification. -/
def report (launch : Launched) : Notification → List Line
  | .connectFailed attempt error =>
    if launch.verbose then [.output "console" s!"Connection attempt {attempt} failed: {error}"] else []
  | .connected => if launch.verbose then [.output "console" "Connected to Starlark debug server"] else []
  | .debug payload => (Debugger.newsOf payload).map .news
  | .disconnected error => farewell error

/-- Only of a connection that is gone a relay says that debugging is over. -/
theorem terminated_not_mem_report (launch : Launched) {notification : Notification}
    (hother : notification.isFarewell = false) : .terminated ∉ launch.report notification := by
  cases notification with
  | connectFailed attempt error =>
    rw [report]
    split <;> simp
  | connected =>
    rw [report]
    split <;> simp
  | debug payload => simp [report]
  | disconnected error => cases hother

/-- What becomes of a launch as its relay takes something from the inbox, and what there is to say of that. -/
inductive Hears (launch : Launched) (kept : Bool) : Launched → List Line → Prop
  /-- Something was lost. -/
  | lagged (behind : launch.inbox.lost ≠ 0) :
      Hears launch kept { launch with inbox := { launch.inbox with lost := 0 } } []
  | tidings {notification : Notification} {rest : List Notification} (caughtUp : launch.inbox.lost = 0)
      (items : launch.inbox.items = notification :: rest) (other : notification.news? = none)
      (goesOn : notification.isFarewell = false) :
      Hears launch kept { launch with inbox := { launch.inbox with items := rest } } (launch.report notification)
  | news {payload : Wire.Event.Payload} {rest : List Notification} (caughtUp : launch.inbox.lost = 0)
      (items : launch.inbox.items = .debug payload :: rest) (isKept : kept = true) :
      Hears launch kept
        { launch with
          inbox := { launch.inbox with items := rest }
          session := { launch.session with state := (launch.session.state.handleEvent payload).2 } }
        (launch.report (.debug payload))
  /-- Nothing keeps the session that the news is for. -/
  | stops {payload : Wire.Event.Payload} {rest : List Notification} (caughtUp : launch.inbox.lost = 0)
      (items : launch.inbox.items = .debug payload :: rest) (notKept : kept = false) :
      Hears launch kept { launch with inbox := { launch.inbox with items := rest }, relaying := false } []
  | gone {error : Option String} {rest : List Notification} (caughtUp : launch.inbox.lost = 0)
      (items : launch.inbox.items = .disconnected error :: rest) :
      Hears launch kept { launch with inbox := { launch.inbox with items := rest }, relaying := false }
        (launch.report (.disconnected error))

theorem hear_hears {launch heard : Launched} {kept : Bool} {lines : List Line} {effects : List ServerEffect}
    (hhear : launch.hear kept = some (heard, lines, effects)) :
    launch.relaying = true ∧ Hears launch kept heard lines ∧ Loop.sent effects = [] := by
  unfold hear at hhear
  split at hhear
  · cases hhear
  · next hrelaying =>
    refine ⟨by simpa using hrelaying, ?_⟩
    obtain ⟨⟨delivery, inbox⟩, htake, hhear⟩ := Option.map_eq_some_iff.1 hhear
    unfold Inbox.take at htake
    split at htake
    · next hlost =>
      cases htake
      cases hhear
      exact ⟨.lagged hlost, rfl⟩
    · next hlost =>
      have hlost : launch.inbox.lost = 0 := Decidable.not_not.1 hlost
      split at htake
      · cases htake
      · next notification rest hitems =>
        cases htake
        cases notification with
        | connectFailed attempt error =>
          cases hhear
          exact ⟨.tidings hlost hitems rfl rfl, rfl⟩
        | connected =>
          cases hhear
          exact ⟨.tidings hlost hitems rfl rfl, rfl⟩
        | debug payload =>
          cases kept with
          | true =>
            have hheard : Hears launch true _ _ := .news hlost hitems rfl
            rw [report, ← Debugger.State.news_handleEvent launch.session.state] at hheard
            cases hhear
            exact ⟨hheard, rfl⟩
          | false =>
            cases hhear
            exact ⟨.stops hlost hitems rfl, rfl⟩
        | disconnected error =>
          cases hhear
          exact ⟨.gone hlost hitems, rfl⟩

/-- A relay that goes on takes what its inbox gives, and is to say what there is to say of a notification, unless that is
news of the server's for a session that nothing keeps. -/
theorem hear_of_take {launch : Launched} (hrelaying : launch.relaying = true) {delivery : Inbox.Delivery} {inbox : Inbox}
    (htake : launch.inbox.take = some (delivery, inbox)) (kept : Bool) :
    ∃ heard lines effects, launch.hear kept = some (heard, lines, effects) ∧ heard.inbox = inbox ∧
      ∀ notification, delivery = .notification notification → kept = true ∨ notification.news? = none →
        lines = launch.report notification := by
  unfold hear
  rw [if_neg (by simp [hrelaying]), htake, Option.map_some]
  refine ⟨_, _, _, rfl, ?_, ?_⟩
  · cases delivery with
    | lagged lost => rfl
    | notification notification =>
      cases notification with
      | debug payload => cases kept <;> rfl
      | _ => rfl
  · rintro notification rfl hkept
    cases notification with
    | debug payload =>
      obtain rfl : kept = true := hkept.resolve_right (by simp [Notification.news?])
      exact congrArg (List.map Line.news) (Debugger.State.news_handleEvent launch.session.state payload)
    | _ => rfl

/-- A relay that goes on has something to take if its inbox is not empty. -/
theorem hear_isSome {launch : Launched} (hrelaying : launch.relaying = true) (hitems : launch.inbox.items ≠ [])
    (kept : Bool) : (launch.hear kept).isSome := by
  unfold hear Inbox.take
  rw [if_neg (by simp [hrelaying]), Option.isSome_map]
  split
  · rfl
  · split
    · next hnone => exact absurd hnone hitems
    · rfl

end Launched

namespace Server

variable (s : Server) (line : Line)

theorem say_sameWork : SameWork s (s.say line).1 := by
  cases line with
  | news news => exact tell_sameWork s _ _
  | output category text => exact output_sameWork s category text
  | terminated => exact terminate_sameWork s

theorem say_passes : Passes s (s.say line) := by
  cases line with
  | news news => exact tell_passes s (newsEvent_ne_initialized news) _
  | output category text => exact output_passes s category text
  | terminated => exact terminate_passes s

end Server

/-! ## Steps -/

namespace Strands

/-- The server's news that a session reads in a step. -/
def newsRead (x : Strands) (session : Nat) : Step → List Wire.Event.Payload
  | .moves m => x.server.newsRead session m
  | _ => []

/-- What a step does. -/
inductive Does (x : Strands) : Step → Strands × List ServerEffect → Prop
  | idles {step : Step} (silent : ∀ session, x.newsRead session step = [])
      (stays : x.server.ending = none → ∀ m, step = .moves m → m.departs? = none)
      (unable : ∀ session, step = .relays session → x.server.broken = true)
      (pieces : x.server.broken = false → ∀ m, step = .moves m → m.inPieces = true) : Does x step (x, [])
  /-- What is one piece. -/
  | acts {m : Server.Move} (whole : m.inPieces = false) :
      Does x (.moves m) ({ x with server := (x.server.move m).1 }, (x.server.move m).2)
  /-- The request loop begins to leave. -/
  | departs {m : Server.Move} {request : Option Message} (departs : m.departs? = some request)
      (reading : x.server.ending = none) : Does x (.moves m) (x.depart request)
  /-- A relay has something to say. -/
  | reports {session : Nat} {line : Line} {rest : List Line} (pending : x.line session = line :: rest) :
      Does x (.relays session)
        ({ x with server := (x.server.say line).1, lines := Assoc.insert session rest x.lines }, (x.server.say line).2)
  /-- A relay has said everything and takes something from the inbox. -/
  | hears {session : Nat} {launch heard : Launched} {lines : List Line} {effects : List ServerEffect}
      (idle : x.line session = []) (listed : Assoc.find? session x.server.launches = some launch)
      (hears : launch.hear (x.keeps session) = some (heard, lines, effects)) :
      Does x (.relays session)
        ({ x with server := x.server.setLaunch session heard, lines := Assoc.insert session lines x.lines }, effects)
  /-- A relay has nothing to do. -/
  | rests {session : Nat} (idle : x.line session = [])
      (nothing : ∀ launch, Assoc.find? session x.server.launches = some launch → launch.hear (x.keeps session) = none) :
      Does x (.relays session) ({ x with lines := Assoc.insert session [] x.lines }, [])
  | hangsUp {session : Nat} {request : Option Message} (leaving : x.leaving = some (.hangsUp session request)) :
      Does x .leaves
        ({ x with
            server := (x.server.within session (·.link (·.step .leave))).1
            leaving := request.map .answers },
          (x.server.within session (·.link (·.step .leave))).2)
  | answers {request : Message} (leaving : x.leaving = some (.answers request)) :
      Does x .leaves
        ({ x with server := (x.server.respond request true none none).1, leaving := some .terminates },
          (x.server.respond request true none none).2)
  | terminates (leaving : x.leaving = some .terminates) :
      Does x .leaves ({ x with server := x.server.terminate.1, leaving := none }, x.server.terminate.2)

section

variable (x : Strands)

theorem step_of_broken (hbroken : x.server.broken = true) (step : Step) : x.step step = (x, []) := by
  unfold Strands.step
  rw [if_pos hbroken]

theorem newsRead_of_broken (hbroken : x.server.broken = true) (session : Nat) (step : Step) :
    x.newsRead session step = [] := by
  cases step with
  | moves m =>
    simp only [newsRead, Server.newsRead]
    split
    · exact if_neg (by simp [hbroken])
    · rfl
  | _ => rfl

theorem newsRead_of_inPieces {m : Server.Move} (hpieces : m.inPieces = true) (session : Nat) :
    x.newsRead session (.moves m) = [] := by
  simp only [newsRead, Server.newsRead]
  split
  · next other action =>
    split
    · split
      · rw [Connection.received_eq_nil, List.filterMap_nil]
        rintro rfl
        cases hpieces
      · rfl
    · rfl
  · rfl

theorem step_relays (hopen : x.server.broken = false) (session : Nat) :
    Does x (.relays session) (x.step (.relays session)) := by
  rw [Strands.step, if_neg (by simp [hopen])]
  cases hline : x.line session with
  | cons line rest =>
    simp only [relay, hline]
    exact .reports hline
  | nil =>
    simp only [relay, hline, Server.hear]
    cases hfound : Assoc.find? session x.server.launches with
    | none =>
      refine .rests hline fun launch h => ?_
      rw [hfound] at h
      cases h
    | some launch =>
      dsimp only [Option.bind_some]
      cases hhear : launch.hear (x.keeps session) with
      | none =>
        refine .rests hline fun held h => ?_
        obtain rfl : launch = held := Option.some.inj (hfound.symm.trans h)
        exact hhear
      | some result => exact .hears hline hfound hhear

theorem step_leaves (hopen : x.server.broken = false) : Does x .leaves (x.step .leaves) := by
  rw [Strands.step, if_neg (by simp [hopen])]
  unfold leave
  split
  · exact .idles (fun _ => rfl) (fun _ _ h => by cases h) (fun _ h => by cases h) fun _ _ h => by cases h
  · next hleaving => exact .hangsUp hleaving
  · next hleaving => exact .answers hleaving
  · next hleaving => exact .terminates hleaving

theorem inPieces_of_departs {m : Server.Move} {request : Option Message} (hdeparts : m.departs? = some request) :
    m.inPieces = true := by
  unfold Server.Move.inPieces
  split
  · rfl
  · rfl
  · rfl
  · rw [hdeparts]
    rfl

theorem departs_cases {m : Server.Move} {request : Option Message} (hdeparts : m.departs? = some request) :
    (∃ message, m = .step (.receive message) ∧ message.kind = .request ∧ message.command = "disconnect" ∧
      request = some message) ∨ m = .step (.endInput (.ok ())) ∧ request = none := by
  unfold Server.Move.departs? at hdeparts
  split at hdeparts
  · next message =>
    split at hdeparts
    · next hdisconnect => exact .inl ⟨message, rfl, hdisconnect.1, hdisconnect.2, (Option.some.inj hdeparts).symm⟩
    · cases hdeparts
  · exact .inr ⟨rfl, (Option.some.inj hdeparts).symm⟩
  · cases hdeparts

theorem step_of_departs {x : Strands} {m : Server.Move} {request : Option Message} (hdeparts : m.departs? = some request)
    (hreading : x.server.ending = none) : x.step (.moves m) = x.depart request := by
  have hopen : x.server.broken = false := by simp [Server.broken, hreading]
  rw [Strands.step, if_neg (by simp [hopen])]
  simp [hdeparts, hreading]

/-- A step is one of these. -/
theorem step_does (step : Step) : Does x step (x.step step) := by
  by_cases hbroken : x.server.broken = true
  · rw [x.step_of_broken hbroken]
    refine .idles (fun session => x.newsRead_of_broken hbroken session step) (fun hreading => ?_) (fun _ _ => hbroken)
      fun hopen => ?_
    · simp [Server.broken, hreading] at hbroken
    · simp [hopen] at hbroken
  · have hopen : x.server.broken = false := by simpa using hbroken
    cases step with
    | relays session => exact x.step_relays hopen session
    | leaves => exact x.step_leaves hopen
    | moves m =>
      rw [Strands.step, if_neg hbroken]
      dsimp only
      cases hdeparts : m.departs? with
      | some request =>
        have hpieces := inPieces_of_departs hdeparts
        dsimp only
        split
        · next hended =>
          refine .idles (fun session => x.newsRead_of_inPieces hpieces session) (fun hreading => ?_)
            (fun _ h => by cases h) fun _ other h => ?_
          · simp [hreading] at hended
          · obtain rfl := Step.moves.inj h
            exact hpieces
        · next hreading => exact .departs hdeparts (by simpa using hreading)
      | none =>
        dsimp only
        split
        · next hpieces =>
          refine .idles (fun session => x.newsRead_of_inPieces hpieces session) (fun _ other h => ?_)
            (fun _ h => by cases h) fun _ other h => ?_
          · obtain rfl := Step.moves.inj h
            exact hdeparts
          · obtain rfl := Step.moves.inj h
            exact hpieces
        · next hwhole => exact .acts (by simpa using hwhole)

end

/-! ## Runs -/

@[simp] theorem run_nil (x : Strands) : x.run [] = (x, []) := rfl

theorem run_cons (x : Strands) (step : Step) (steps : List Step) :
    x.run (step :: steps) = (((x.step step).1.run steps).1, (x.step step).2 ++ ((x.step step).1.run steps).2) := rfl

theorem run_append (x : Strands) (steps more : List Step) :
    x.run (steps ++ more) = (((x.run steps).1.run more).1, (x.run steps).2 ++ ((x.run steps).1.run more).2) := by
  induction steps generalizing x with
  | nil => rfl
  | cons step steps ih => rw [List.cons_append, run_cons, ih, run_cons, List.append_assoc]

/-! ## Sessions -/

/-- Whether a step is a turn of a session's relay. -/
def Step.isTurnOf (session : Nat) : Step → Bool
  | .relays other => other == session
  | _ => false

theorem step_isTurnOf {step : Step} {session : Nat} : step.isTurnOf session = true ↔ step = .relays session := by
  cases step with
  | relays other => simp [Step.isTurnOf]
  | moves m => simp [Step.isTurnOf]
  | leaves => simp [Step.isTurnOf]

/-- What a step is for a session and its relay. -/
inductive Sight (x : Strands) (step : Step) (session : Nat) (result : Strands × List ServerEffect) : Prop
  /-- The relay does nothing. -/
  | aside (line : result.1.line session = x.line session) (silent : step = .relays session → Loop.sent result.2 = [])
      (seen : Server.Glimpse (x.server.seen? session) (result.1.server.seen? session) (x.newsRead session step))
  /-- The request loop takes the session from the slot and shuts it down. -/
  | shuts {m : Server.Move} {request : Option Message} {launch : Launched} (step : step = .moves m)
      (departs : m.departs? = some request) (reading : x.server.ending = none) (slot : x.server.slot = some session)
      (line : result.1.line session = x.line session) (seen : x.server.seen? session = some launch)
      (shut : result.1.server.seen? session = some (launch.after (launch.session.link (·.step .shutdown))))
  | reports {line : Line} {rest : List Line} (step : step = .relays session)
      (pending : x.line session = line :: rest) (left : result.1.line session = rest)
      (seen : result.1.server.seen? session = x.server.seen? session) (said : result.2 = (x.server.say line).2)
  | hears {launch heard : Launched} {lines : List Line} (step : step = .relays session) (idle : x.line session = [])
      (seen : x.server.seen? session = some launch) (relaying : launch.relaying = true)
      (hears : launch.Hears (x.keeps session) heard lines) (changed : result.1.server.seen? session = some heard)
      (line : result.1.line session = lines) (silent : Loop.sent result.2 = [])

section

variable {x : Strands} {step : Step} {result : Strands × List ServerEffect}

theorem line_insert (server : Server) (lines : List (Nat × List Line)) (leaving : Option Leaving) (session other : Nat)
    (rest : List Line) : (Strands.mk server (Assoc.insert session rest lines) leaving).line other =
      if other = session then rest else (Strands.mk server lines leaving).line other := by
  unfold line
  split
  · next heq => rw [heq, Assoc.find?_insert_self, Option.getD_some]
  · next hne => rw [Assoc.find?_insert_of_ne hne]

/-- Whether a launch was answered makes no difference to its relay. -/
theorem hears_seen {launch heard : Launched} {kept : Bool} {lines : List Line} (hhears : launch.Hears kept heard lines) :
    ({ launch with request := none } : Launched).Hears kept { heard with request := none } lines := by
  cases hhears with
  | lagged behind => exact .lagged behind
  | tidings caughtUp items other goesOn =>
    exact @Launched.Hears.tidings { launch with request := none } _ _ _ caughtUp items other goesOn
  | news caughtUp items isKept =>
    exact @Launched.Hears.news { launch with request := none } _ _ _ caughtUp items isKept
  | stops caughtUp items notKept => exact .stops caughtUp items notKept
  | gone caughtUp items => exact .gone caughtUp items

theorem Sight.unseen (session : Nat) (hline : result.1.line session = x.line session)
    (hsilent : step = .relays session → Loop.sent result.2 = []) (hnews : x.newsRead session step = [])
    (hseen : result.1.server.seen? session = x.server.seen? session) : Sight x step session result :=
  .aside hline hsilent (by
    rw [hnews, hseen]
    exact .rests _)

theorem Does.sight (hdoes : Does x step result) (hfree : x.server.seen? x.server.launched = none) (session : Nat) :
    Sight x step session result := by
  cases hdoes with
  | idles silent stays unable => exact .unseen session rfl (fun _ => rfl) (silent session) rfl
  | acts whole => exact .aside rfl (by simp) ((Server.move_apart hfree whole).seen session)
  | @departs m request departs reading =>
    have hsilent := x.newsRead_of_inPieces (inPieces_of_departs departs) session
    unfold depart
    cases hslot : x.server.slot with
    | none => exact .unseen session rfl (by simp) hsilent rfl
    | some held =>
      dsimp only
      have hwithin := Server.within_seen { x.server with slot := none, ending := some (.ok ()) } held session
        (·.link (·.step .shutdown))
      split at hwithin
      · next heq =>
        subst heq
        cases hseen : x.server.seen? session with
        | none =>
          have hsame : ({ x.server with slot := none, ending := some (.ok ()) } : Server).seen? session = none := hseen
          rw [hsame] at hwithin
          exact .unseen session rfl (by simp) hsilent (hwithin.trans hseen.symm)
        | some launch =>
          have hsame : ({ x.server with slot := none, ending := some (.ok ()) } : Server).seen? session
            = some launch := hseen
          rw [hsame] at hwithin
          exact .shuts rfl departs reading hslot rfl hseen hwithin
      · exact .unseen session rfl (by simp) hsilent hwithin
  | @reports other line rest pending =>
    have hlines := line_insert (x.server.say line).1 x.lines x.leaving other session rest
    by_cases heq : session = other
    · subst heq
      rw [if_pos rfl] at hlines
      exact .reports rfl pending hlines ((x.server.say_sameWork line).seen session) rfl
    · rw [if_neg heq] at hlines
      refine .unseen session hlines (fun h => ?_) rfl ((x.server.say_sameWork line).seen session)
      cases h
      exact absurd rfl heq
  | @hears other launch heard lines effects idle listed hears =>
    obtain ⟨hrelaying, hhears, hsilent⟩ := Launched.hear_hears hears
    have hlines := line_insert (x.server.setLaunch other heard) x.lines x.leaving other session lines
    have hseen := Server.seen?_setLaunch x.server other session heard
    by_cases heq : session = other
    · subst heq
      rw [if_pos rfl] at hlines hseen
      exact .hears rfl idle (Server.seen?_of_find? listed) hrelaying (hears_seen hhears) hseen hlines hsilent
    · rw [if_neg heq] at hlines hseen
      exact .unseen session hlines (fun _ => hsilent) rfl hseen
  | @rests other idle =>
    have hlines := line_insert x.server x.lines x.leaving other session []
    refine .unseen session ?_ (fun _ => rfl) rfl rfl
    by_cases heq : session = other
    · subst heq
      rw [if_pos rfl] at hlines
      exact hlines.trans idle.symm
    · rwa [if_neg heq] at hlines
  | @hangsUp other request leaving =>
    have hapart := Server.within_apart_silent (s := x.server) x.server.tasks other fun inner =>
      @Session.onward_link_of_ne inner .leave (by simp) (by simp)
    exact .aside rfl (by simp) (hapart.seen session)
  | @answers request leaving =>
    exact .unseen session rfl (by simp) rfl ((Server.respond_sameWork x.server request true none none).seen session)
  | terminates leaving => exact .unseen session rfl (by simp) rfl (x.server.terminate_sameWork.seen session)

end

end Strands

end DebugBridge.Adapter
