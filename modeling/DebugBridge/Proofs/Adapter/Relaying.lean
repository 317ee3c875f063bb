import DebugBridge.Proofs.Adapter.Saying

/-!
# News is relayed in order

What the server tells of its own accord waits in the inbox of its session's relay, which lets the session take note of
it and then tells the editor. So the editor is told of the server's news in order, of each at most once, and of all if
the relay is never so far behind that something is lost: `news_is_relayed_in_order`.
-/

namespace DebugBridge.Adapter

open Debugger (Session Stop)
open Wire.Event (Payload)

/-! ## What the editor is told of threads -/

/-- The event that the editor is told, with its body. -/
def threadEvent (news : Debugger.News) : String × Option Json :=
  ((newsEvent news).1, some (newsEvent news).2)

/-- What the editor is told of the server's news. -/
def threadEvents (payload : Payload) : List (String × Option Json) :=
  (Debugger.newsOf payload).map threadEvent

/-- What a message tells of a thread. -/
def Outgoing.threadEvent? : Outgoing → Option (String × Option Json)
  | .news n => if n.event ∈ ["thread", "stopped", "continued"] then some (n.event, n.body) else none
  | .response _ => none

/-- What a line is to tell of a thread. -/
def Line.threadEvent? : Line → Option (String × Option Json)
  | .news told => some (threadEvent told)
  | .output _ _ | .terminated => none

/-- What was told of threads. -/
def threadEventsSent (effects : List ServerEffect) : List (String × Option Json) :=
  (Loop.sent effects).filterMap Outgoing.threadEvent?

theorem threadEventsSent_append (effects more : List ServerEffect) :
    threadEventsSent (effects ++ more) = threadEventsSent effects ++ threadEventsSent more := by
  rw [threadEventsSent, Server.sent_append, List.filterMap_append]
  rfl

theorem threadEventsSent_of_sent_nil {effects : List ServerEffect} (hsilent : Loop.sent effects = []) :
    threadEventsSent effects = [] := by
  rw [threadEventsSent, hsilent]
  rfl

theorem threadEventsSent_eq_nil {effects : List ServerEffect}
    (hnews : ∀ news, .news news ∈ Loop.sent effects → news.event ∉ ["thread", "stopped", "continued"]) :
    threadEventsSent effects = [] := by
  refine List.filterMap_eq_nil_iff.2 fun message hmem => ?_
  cases message with
  | response response => rfl
  | news news => exact if_neg (hnews news hmem)

theorem threadEventsSent_say (s : Server) (line : Line) :
    threadEventsSent (s.say line).2 = line.threadEvent?.toList := by
  cases line with
  | news news => cases news <;> rfl
  | output category text => rfl
  | terminated =>
    simp only [Server.say, Server.terminate]
    split <;> rfl

namespace Launched

variable (launch : Launched)

theorem report_news (payload : Payload) :
    (launch.report (.debug payload)).filterMap Line.threadEvent? = threadEvents payload := by
  rw [report, List.filterMap_map, threadEvents]
  exact congrFun (List.filterMap_eq_map (f := threadEvent)) _

/-- Only of the server's news there is something to tell of threads. -/
theorem report_tidings {notification : Notification} (hother : notification.news? = none) :
    (launch.report notification).filterMap Line.threadEvent? = [] := by
  cases notification with
  | connectFailed attempt error =>
    rw [report]
    split <;> rfl
  | connected =>
    rw [report]
    split <;> rfl
  | debug payload => cases hother
  | disconnected error => cases error <;> rfl

end Launched

/-! ## Inboxes -/

section

variable (inbox : Inbox) (told : List Notification)

theorem size_le_capacity (size : Nat) : size ≤ (Inbox.new size).capacity := by
  unfold Inbox.new
  dsimp only
  split
  · assumption
  · have hbelow := Nat.lt_log2_self (n := size - 1)
    exact Nat.le_of_pred_lt hbelow

theorem push_sublist (notification : Notification) :
    (inbox.push notification).items.Sublist (inbox.items ++ [notification]) := by
  unfold Inbox.push
  split
  · exact .refl _
  · exact (List.tail_sublist _).append (.refl _)

/-- What waits was there before or has come, in order. -/
theorem pushed_sublist : (told.foldl Inbox.push inbox).items.Sublist (inbox.items ++ told) := by
  induction told generalizing inbox with
  | nil => simp
  | cons first rest ih =>
    have hfirst := (push_sublist inbox first).append (.refl rest)
    rw [List.append_assoc] at hfirst
    exact (ih (inbox.push first)).trans hfirst

theorem pushed_capacity : (told.foldl Inbox.push inbox).capacity = inbox.capacity := by
  induction told generalizing inbox with
  | nil => rfl
  | cons first rest ih =>
    refine (ih (inbox.push first)).trans ?_
    unfold Inbox.push
    split <;> rfl

/-- If nothing was lost, all that came waits. -/
theorem pushed_items (hlost : (told.foldl Inbox.push inbox).lost = 0) :
    (told.foldl Inbox.push inbox).items = inbox.items ++ told ∧ inbox.lost = 0 := by
  induction told generalizing inbox with
  | nil => exact ⟨(List.append_nil _).symm, hlost⟩
  | cons first rest ih =>
    obtain ⟨hitems, hfirst⟩ := ih (inbox.push first) hlost
    rw [List.foldl_cons, hitems]
    unfold Inbox.push at hfirst ⊢
    split at hfirst
    · next hroom =>
      rw [if_pos hroom, List.append_assoc]
      exact ⟨rfl, hfirst⟩
    · cases hfirst

/-- Something is lost only where more has come than the inbox holds. -/
theorem pushed_lost : inbox.items.length + inbox.lost ≤
      (told.foldl Inbox.push inbox).items.length + (told.foldl Inbox.push inbox).lost ∧
    ((told.foldl Inbox.push inbox).lost = inbox.lost ∨
      inbox.capacity < (told.foldl Inbox.push inbox).items.length + (told.foldl Inbox.push inbox).lost) := by
  induction told generalizing inbox with
  | nil => exact ⟨Nat.le_refl _, .inl rfl⟩
  | cons first rest ih =>
    have hpush : inbox.items.length + inbox.lost ≤ (inbox.push first).items.length + (inbox.push first).lost ∧
        ((inbox.push first).lost = inbox.lost ∨
          inbox.capacity < (inbox.push first).items.length + (inbox.push first).lost) ∧
        (inbox.push first).capacity = inbox.capacity := by
      unfold Inbox.push
      split
      · simp
      · simp
        omega
    obtain ⟨hgrown, hlost⟩ := ih (inbox.push first)
    rw [List.foldl_cons]
    omega

end

namespace Strands

/-! ## What is on the way -/

/-- The server's news that waits for a session's relay. -/
def waiting (x : Strands) (session : Nat) : List Payload :=
  match Assoc.find? session x.server.launches with
  | some launch => launch.inbox.items.filterMap Notification.news?
  | none => []

/-- The server's news that a session reads in a run. -/
def told (x : Strands) (session : Nat) : List Step → List Payload
  | [] => []
  | step :: steps => x.newsRead session step ++ (x.step step).1.told session steps

/-- What a session's relay tells of threads in a run. -/
def relayed (x : Strands) (session : Nat) : List Step → List (String × Option Json)
  | [] => []
  | step :: steps =>
    (if step.isTurnOf session then threadEventsSent (x.step step).2 else []) ++ (x.step step).1.relayed session steps

/-- A session's relay is not further behind than the settings allow for. -/
def UpToDate (x : Strands) (session : Nat) : Prop :=
  ∀ launch, Assoc.find? session x.server.launches = some launch →
    launch.inbox.items.length + launch.inbox.lost ≤ launch.session.connection.setup.eventChannelSize

/-- A session remembers that a thread stands still, and why. -/
def Records (x : Strands) (session : Nat) (id : Int64) (stop : Stop) : Prop :=
  ∃ launch thread, Assoc.find? session x.server.launches = some launch ∧
    Assoc.find? id launch.session.state.pausedThreads = some thread ∧ stop = .of thread

section

variable {x : Strands} {accepted : List Message} {step : Step} {result : Strands × List ServerEffect} {session : Nat}

theorem waiting_of_seen {launch : Launched} (hseen : x.server.seen? session = some launch) :
    x.waiting session = launch.inbox.items.filterMap Notification.news? := by
  obtain ⟨found, hfound, rfl⟩ := Server.find?_of_seen? hseen
  rw [waiting, hfound]

theorem waiting_of_unseen (hseen : x.server.seen? session = none) : x.waiting session = [] := by
  rw [Server.seen?, Option.map_eq_none_iff] at hseen
  rw [waiting, hseen]

/-- Nothing that came for a session's relay is lost. -/
def Lossless (x : Strands) (session : Nat) : Prop :=
  ∀ launch, x.server.seen? session = some launch → launch.inbox.lost = 0

/-- What a step does with the news on its way through a session's relay, which takes some of it from the inbox. -/
structure Hands (x : Strands) (step : Step) (session : Nat) (result : Strands × List ServerEffect)
    (taken : List Payload) : Prop where
  said : (if step.isTurnOf session then threadEventsSent result.2 else []) ++
    (result.1.line session).filterMap Line.threadEvent? =
      (x.line session).filterMap Line.threadEvent? ++ taken.flatMap threadEvents
  news : (taken ++ result.1.waiting session).Sublist (x.waiting session ++ x.newsRead session step)
  whole : Lossless x session → Lossless result.1 session →
    taken ++ result.1.waiting session = x.waiting session ++ x.newsRead session step ∨
      Stopped result.1 session ∧ x.server.seen? session ≠ none ∧ x.keeps session = false

/-- What a session tells comes to what waits. -/
theorem Hands.of_after {launch : Launched} {changed : Session × List Debugger.SessionEffect}
    (hsaid : (if step.isTurnOf session then threadEventsSent result.2 else []) ++
      (result.1.line session).filterMap Line.threadEvent? = (x.line session).filterMap Line.threadEvent?)
    (hseen : x.server.seen? session = some launch) (hafter : result.1.server.seen? session = some (launch.after changed))
    (hnews : (Connection.notices (Debugger.linked changed.2)).filterMap Notification.news? = x.newsRead session step) :
    Hands x step session result [] := by
  refine ⟨by rw [hsaid]; simp, ?_, fun _ hlossless => .inl ?_⟩
  · rw [waiting_of_seen hseen, waiting_of_seen hafter, ← hnews, ← List.filterMap_append]
    exact (pushed_sublist _ _).filterMap _
  · rw [waiting_of_seen hseen, waiting_of_seen hafter, ← hnews, ← List.filterMap_append]
    exact congrArg (List.filterMap Notification.news?) (pushed_items _ _ (hlossless _ hafter)).1

theorem Sight.hands (hsight : Sight x step session result) : ∃ taken, Hands x step session result taken := by
  cases hsight with
  | aside line silent seen =>
    have hsaid : (if step.isTurnOf session then threadEventsSent result.2 else []) ++
        (result.1.line session).filterMap Line.threadEvent? = (x.line session).filterMap Line.threadEvent? := by
      rw [line]
      split
      · next hturn =>
        rw [threadEventsSent_of_sent_nil (silent (step_isTurnOf.1 hturn))]
        rfl
      · rfl
    generalize hread : x.newsRead session step = told, hbefore : x.server.seen? session = before,
      hafter : result.1.server.seen? session = after at seen
    have hsame : result.1.waiting session = x.waiting session → told = [] → ∃ taken, Hands x step session result taken := by
      rintro hwaiting rfl
      exact ⟨[], by rw [hsaid]; simp, by simp [hwaiting], fun _ _ => .inl (by rw [hwaiting, hread]; simp)⟩
    cases seen with
    | rests =>
      refine hsame ?_ rfl
      cases before with
      | none => rw [waiting_of_unseen hbefore, waiting_of_unseen hafter]
      | some launch => rw [waiting_of_seen hbefore, waiting_of_seen hafter]
    | begins setup connection inbox relaying =>
      refine hsame ?_ rfl
      rw [waiting_of_unseen hbefore, waiting_of_seen hafter, inbox]
      rfl
    | goesOn onward => exact ⟨[], .of_after hsaid hbefore hafter (onward.news.trans hread.symm)⟩
  | @shuts m request launch hstep departs reading slot line seen shut =>
    subst hstep
    refine ⟨[], .of_after (by rw [line]; rfl) seen shut ?_⟩
    rw [x.newsRead_of_inPieces (inPieces_of_departs departs), Session.notices_link, Connection.filterMap_notices]
    exact Connection.newsTold_eq_nil (by simp)
  | @reports line rest hstep pending left seen said =>
    subst hstep
    refine ⟨[], ?_, ?_, fun _ _ => .inl ?_⟩
    · rw [if_pos (step_isTurnOf.2 rfl), said, threadEventsSent_say, pending, left]
      cases hline : line.threadEvent? <;> simp [hline]
    all_goals
      have hwaiting : result.1.waiting session = x.waiting session := by
        cases hbefore : x.server.seen? session with
        | none => rw [waiting_of_unseen hbefore, waiting_of_unseen (seen.trans hbefore)]
        | some launch => rw [waiting_of_seen hbefore, waiting_of_seen (seen.trans hbefore)]
      simp [hwaiting, newsRead]
  | @hears launch heard lines hstep idle seen relaying hears changed line silent =>
    subst hstep
    have hsaid : ∀ taken : List Payload, lines.filterMap Line.threadEvent? = taken.flatMap threadEvents →
        (if Step.isTurnOf session (.relays session) then threadEventsSent result.2 else []) ++
          (result.1.line session).filterMap Line.threadEvent? =
            (x.line session).filterMap Line.threadEvent? ++ taken.flatMap threadEvents := by
      intro taken hlines
      rw [if_pos (step_isTurnOf.2 rfl), threadEventsSent_of_sent_nil silent, line, idle, hlines]
      rfl
    have hnone : x.waiting session ++ x.newsRead session (.relays session) =
        launch.inbox.items.filterMap Notification.news? := by
      rw [waiting_of_seen seen]
      exact List.append_nil _
    have hleft := waiting_of_seen changed
    have hall : ∀ taken : List Payload, lines.filterMap Line.threadEvent? = taken.flatMap threadEvents →
        taken ++ result.1.waiting session = launch.inbox.items.filterMap Notification.news? →
        ∃ taken, Hands x (.relays session) session result taken := fun taken hlines hsame =>
      ⟨taken, hsaid taken hlines, by rw [hsame, hnone], fun _ _ => .inl (hsame.trans hnone.symm)⟩
    cases hears with
    | lagged behind =>
      refine ⟨[], hsaid [] rfl, ?_, fun hlossless => absurd (hlossless launch seen) behind⟩
      rw [hnone, hleft]
      rfl
    | @tidings notification rest caughtUp items other goesOn =>
      refine hall [] (launch.report_tidings other) ?_
      rw [hleft, items, List.filterMap_cons_none other]
      rfl
    | @news payload rest caughtUp items isKept =>
      refine hall [payload] ?_ ?_
      · rw [launch.report_news, List.flatMap_singleton]
      · rw [hleft, items]
        rfl
    | @stops payload rest caughtUp items notKept =>
      refine ⟨[], hsaid [] rfl, ?_, fun _ _ => .inr ⟨⟨_, changed, rfl⟩, by simp [seen], notKept⟩⟩
      rw [hnone, hleft, items]
      exact List.sublist_cons_self payload _
    | @gone error rest caughtUp items =>
      refine hall [] (launch.report_tidings rfl) ?_
      rw [hleft, items]
      rfl

/-- What becomes of an inbox in a step: it is new, or more is lost only where more has come than it holds. -/
theorem Sight.inbox (hsight : Sight x step session result) {after : Launched}
    (hafter : result.1.server.seen? session = some after) :
    (∃ setup, after.session.connection = { setup } ∧ after.inbox = .new setup.eventChannelSize) ∨
      ∃ before, x.server.seen? session = some before ∧
        after.session.connection.setup = before.session.connection.setup ∧
        after.inbox.capacity = before.inbox.capacity ∧
        (after.inbox.lost ≤ before.inbox.lost ∨
          after.inbox.capacity < after.inbox.items.length + after.inbox.lost) := by
  have hpushed : ∀ {launch : Launched} {changed : Session × List Debugger.SessionEffect},
      x.server.seen? session = some launch → after = launch.after changed →
      changed.1.connection.setup = launch.session.connection.setup → ∃ before, x.server.seen? session = some before ∧
        after.session.connection.setup = before.session.connection.setup ∧
        after.inbox.capacity = before.inbox.capacity ∧
        (after.inbox.lost ≤ before.inbox.lost ∨
          after.inbox.capacity < after.inbox.items.length + after.inbox.lost) := by
    rintro launch changed hseen rfl hsetup
    have hcapacity := pushed_capacity launch.inbox (Connection.notices (Debugger.linked changed.2))
    have hlost := (pushed_lost launch.inbox (Connection.notices (Debugger.linked changed.2))).2
    exact ⟨launch, hseen, hsetup, hcapacity, hlost.imp Nat.le_of_eq (hcapacity ▸ ·)⟩
  cases hsight with
  | aside line silent seen =>
    generalize x.newsRead session step = told, hbefore : x.server.seen? session = before at seen hpushed ⊢
    rw [hafter] at seen
    cases seen with
    | rests => exact .inr ⟨after, rfl, rfl, rfl, .inl (Nat.le_refl _)⟩
    | begins setup connection inbox relaying => exact .inl ⟨setup, connection, inbox⟩
    | goesOn onward => exact .inr (hpushed rfl rfl onward.connection.setup)
  | @shuts m request launch hstep departs reading slot line seen shut =>
    obtain rfl := Option.some.inj (hafter.symm.trans shut)
    refine .inr (hpushed seen rfl ?_)
    rw [Session.link_connection]
    exact (Connection.step_callStep _ .shutdown).setup_eq
  | reports hstep pending left seen said =>
    exact .inr ⟨after, seen.symm.trans hafter, rfl, rfl, .inl (Nat.le_refl _)⟩
  | hears hstep idle seen relaying hears changed line silent =>
    obtain rfl := Option.some.inj (hafter.symm.trans changed)
    refine .inr ⟨_, seen, by rw [(hears_keeps hears).1], ?_⟩
    cases hears with
    | lagged behind => exact ⟨rfl, .inl (Nat.zero_le _)⟩
    | tidings | news | stops | gone => exact ⟨rfl, .inl (Nat.le_refl _)⟩

/-- An inbox holds as much as the settings allow for. -/
def Roomy (x : Strands) (session : Nat) : Prop :=
  ∀ launch, x.server.seen? session = some launch →
    launch.session.connection.setup.eventChannelSize ≤ launch.inbox.capacity

theorem Sight.roomy (hsight : Sight x step session result) (hroomy : Roomy x session) : Roomy result.1 session := by
  intro after hafter
  rcases hsight.inbox hafter with ⟨setup, hconnection, hinbox⟩ | ⟨before, hseen, hsetup, hcapacity, -⟩
  · rw [hconnection, hinbox]
    exact size_le_capacity _
  · rw [hsetup, hcapacity]
    exact hroomy before hseen

/-- Who is up to date loses nothing. -/
theorem Sight.lossless (hsight : Sight x step session result) (hroomy : Roomy result.1 session)
    (htimely : UpToDate result.1 session) (hlossless : Lossless x session) : Lossless result.1 session := by
  intro after hafter
  rcases hsight.inbox hafter with ⟨setup, -, hinbox⟩ | ⟨before, hseen, -, -, hlost⟩
  · rw [hinbox]
    rfl
  · have hroom := hroomy after hafter
    have hbehind : after.inbox.items.length + after.inbox.lost ≤
        after.session.connection.setup.eventChannelSize := by
      obtain ⟨found, hfound, rfl⟩ := Server.find?_of_seen? hafter
      exact htimely found hfound
    have hbefore := hlossless before hseen
    omega

/-! ## Runs -/

/-- How it stands with a session's news: what its relay has said, what news it has heard of, and what the session was
told. Nothing is skipped as long as the relay is up to date, unless it stops. -/
structure Relayed (x : Strands) (session : Nat) (timely : Prop) (said : List (String × Option Json))
    (heard told : List Payload) : Prop where
  said : said ++ (x.line session).filterMap Line.threadEvent? = heard.flatMap threadEvents
  news : (heard ++ x.waiting session).Sublist told
  roomy : Roomy x session
  lossless : timely → Lossless x session
  whole : timely → heard ++ x.waiting session = told ∨ Stopped x session ∧ x.server.slot ≠ some session

theorem Relayed.start (defaults : ServerSettings) (files : FileTree) (session : Nat) (timely : Prop) :
    Relayed { server := { defaults, files } } session timely [] [] [] where
  said := rfl
  news := .refl _
  roomy launch h := by cases h
  lossless _ launch h := by cases h
  whole _ := .inl rfl

variable {timely : Prop} {said : List (String × Option Json)} {heard told : List Payload}

theorem Relayed.after (hrelayed : Relayed x session timely said heard told) (hstanding : Standing x)
    (hdoes : Does x step result) (htimely : timely → UpToDate result.1 session) :
    ∃ taken, Relayed result.1 session timely
      (said ++ if step.isTurnOf session then threadEventsSent result.2 else []) (heard ++ taken)
      (told ++ x.newsRead session step) := by
  obtain ⟨accepted, hcomposed⟩ := hstanding.composed
  have hsight := hdoes.sight hcomposed.free session
  obtain ⟨taken, hhands⟩ := hsight.hands
  have hroomy := hsight.roomy hrelayed.roomy
  have hlossless : timely → Lossless result.1 session := fun htimes =>
    hsight.lossless hroomy (htimely htimes) (hrelayed.lossless htimes)
  refine ⟨taken, ?_, ?_, hroomy, hlossless, fun htimes => ?_⟩
  · rw [List.append_assoc, hhands.said, ← List.append_assoc, hrelayed.said, List.flatMap_append]
  · rw [List.append_assoc]
    refine ((List.Sublist.refl heard).append hhands.news).trans ?_
    rw [← List.append_assoc]
    exact hrelayed.news.append (.refl _)
  · have hslot : x.server.seen? session ≠ none → x.server.slot ≠ some session →
        result.1.server.slot ≠ some session := fun hseen hbefore hafter =>
      (hstanding.slot_before hdoes hafter).elim hbefore hseen
    rcases hrelayed.whole htimes with hall | ⟨hstopped, hbefore⟩
    · rcases hhands.whole (hrelayed.lossless htimes) (hlossless htimes) with hmore | ⟨hstopped, hseen, hkept⟩
      · refine .inl ?_
        rw [List.append_assoc, hmore, ← List.append_assoc, hall]
      · exact .inr ⟨hstopped, hslot hseen fun hheld => by simp [keeps, Server.keeps, hheld] at hkept⟩
    · have hseen : x.server.seen? session ≠ none := by
        obtain ⟨launch, hseen, -⟩ := hstopped
        simp [hseen]
      exact .inr ⟨hsight.stopped hstopped, hslot hseen hbefore⟩

theorem Relayed.run (hrelayed : Relayed x session timely said heard told) (hstanding : Standing x) (steps : List Step)
    (htimely : timely → ∀ past, past <+: steps → UpToDate (x.run past).1 session) :
    ∃ heard, Relayed (x.run steps).1 session timely (said ++ x.relayed session steps) heard
      (told ++ x.told session steps) := by
  induction steps generalizing x said heard told with
  | nil =>
    refine ⟨heard, ?_⟩
    rw [relayed, Strands.told, List.append_nil, List.append_nil]
    exact hrelayed
  | cons step steps ih =>
    have hdoes := x.step_does step
    have hextend : ∀ past, past <+: steps → step :: past <+: step :: steps := fun past hpast =>
      List.cons_prefix_cons.2 ⟨rfl, hpast⟩
    obtain ⟨taken, hnext⟩ := hrelayed.after hstanding hdoes fun htimes =>
      htimely htimes [step] (hextend [] List.nil_prefix)
    have hlater := ih hnext (hstanding.after hdoes) fun htimes past hpast =>
      htimely htimes (step :: past) (hextend past hpast)
    rwa [List.append_assoc, List.append_assoc] at hlater

/-! ## One session at most -/

/-- A session that has read news is there, or its connection is closed. -/
theorem Sight.anchored_of_news (hsight : Sight x step session result) (hstanding : Standing x)
    (hnews : x.newsRead session step ≠ []) :
    ∃ after, result.1.server.seen? session = some after ∧ after.session.connection.Anchored := by
  cases hsight with
  | aside line silent seen =>
    generalize hread : x.newsRead session step = told, hbefore : x.server.seen? session = before,
      hafter : result.1.server.seen? session = after at seen hnews ⊢
    cases seen with
    | rests | begins => exact absurd rfl hnews
    | @goesOn launch changed news onward =>
      obtain ⟨payload, hmem⟩ := List.exists_mem_of_ne_nil _ hnews
      rw [← onward.news, List.mem_filterMap] at hmem
      obtain ⟨notification, htold, hpayload⟩ := hmem
      cases notification with
      | debug payload =>
        have hgrounded := hstanding.grounded session launch hbefore
        exact ⟨_, rfl, onward.connection.anchored (onward.connection.anchored_of_news hgrounded htold)⟩
      | _ => cases hpayload
  | shuts hstep departs reading slot line seen shut =>
    subst hstep
    exact absurd (x.newsRead_of_inPieces (inPieces_of_departs departs) session) hnews
  | reports hstep pending left seen said =>
    subst hstep
    exact absurd rfl hnews
  | hears hstep idle seen relaying hears changed line silent =>
    subst hstep
    exact absurd rfl hnews

theorem Sight.anchored (hsight : Sight x step session result) {before : Launched}
    (hseen : x.server.seen? session = some before) (hanchored : before.session.connection.Anchored) :
    ∃ after, result.1.server.seen? session = some after ∧ after.session.connection.Anchored :=
  hsight.kept hseen (fun honward => honward.anchored hanchored) (hanchored.step .shutdown)

theorem Standing.anchored_of_run (hstanding : Standing x) (steps : List Step) {launch : Launched}
    (hseen : x.server.seen? session = some launch) (hanchored : launch.session.connection.Anchored) :
    ∃ after, (x.run steps).1.server.seen? session = some after ∧ after.session.connection.Anchored := by
  induction steps generalizing x launch with
  | nil => exact ⟨launch, hseen, hanchored⟩
  | cons step steps ih =>
    obtain ⟨accepted, hcomposed⟩ := hstanding.composed
    have hdoes := x.step_does step
    obtain ⟨after, hafter, hstill⟩ := (hdoes.sight hcomposed.free session).anchored hseen hanchored
    exact ih (hstanding.after hdoes) hafter hstill

theorem Standing.anchored_of_told (hstanding : Standing x) (steps : List Step) (htold : x.told session steps ≠ []) :
    ∃ after, (x.run steps).1.server.seen? session = some after ∧ after.session.connection.Anchored := by
  induction steps generalizing x with
  | nil => exact absurd rfl htold
  | cons step steps ih =>
    obtain ⟨accepted, hcomposed⟩ := hstanding.composed
    have hdoes := x.step_does step
    by_cases hnow : x.newsRead session step = []
    · rw [Strands.told, hnow] at htold
      exact ih (hstanding.after hdoes) htold
    · obtain ⟨after, hafter, hanchored⟩ := (hdoes.sight hcomposed.free session).anchored_of_news hstanding hnow
      exact (hstanding.after hdoes).anchored_of_run steps hafter hanchored

/-- All news is that of one session, which is the one in the slot, if there is one. -/
theorem Standing.one_told (hstanding : Standing x) (steps : List Step) : ∃ session,
    (∀ other, other ≠ session → x.told other steps = []) ∧
      ∀ other, (x.run steps).1.server.slot = some other → other = session := by
  have hafter := hstanding.run steps
  suffices ∃ session, Sole (x.run steps).1 session ∧
      ∀ other, (x.run steps).1.server.slot = some other → other = session by
    obtain ⟨session, hsole, hslot⟩ := this
    refine ⟨session, fun other hother => Decidable.byContradiction fun htold => hother ?_, hslot⟩
    obtain ⟨launch, hseen, -, hdecided⟩ := hstanding.anchored_of_told steps htold
    obtain ⟨found, hfound, rfl⟩ := Server.find?_of_seen? hseen
    exact hsole other found hfound (.inl hdecided)
  by_cases hended : (x.run steps).1.server.ending = some (.ok ())
  · obtain ⟨session, hsole⟩ := hafter.sole hended
    obtain ⟨accepted, hcomposed⟩ := hafter.composed
    refine ⟨session, hsole, fun other hslot => ?_⟩
    rw [hcomposed.ordered.ended hended] at hslot
    cases hslot
  · refine ⟨_, hafter.sole_of_reading hended, fun other hslot => ?_⟩
    rw [hslot, Option.getD_some]

/-- Nobody but the relays tells of threads. -/
theorem Does.tells_of_no_thread (hdoes : Does x step result) (hstanding : Standing x)
    (hother : ∀ session, step ≠ .relays session) : threadEventsSent result.2 = [] := by
  obtain ⟨accepted, hcomposed⟩ := hstanding.composed
  have hreserved : ∀ {s : Server} {effects : List ServerEffect}, Server.Reserved x.server (s, effects) →
      threadEventsSent effects = [] := fun hreserved =>
    threadEventsSent_eq_nil fun news hmem => by
      rcases hreserved.news news hmem with hevent | hevent <;> simp [hevent]
  cases hdoes with
  | idles => rfl
  | acts whole =>
    refine threadEventsSent_eq_nil fun news hmem => ?_
    rcases (Server.move_apart hcomposed.free whole).news news hmem with hevent | hevent <;> simp [hevent]
  | departs departs reading =>
    refine threadEventsSent_eq_nil fun news hmem => ?_
    rcases (x.depart_reserved _).news news hmem with hevent | hevent <;> simp [hevent]
  | reports | hears | rests => exact absurd rfl (hother _)
  | hangsUp leaving => exact hreserved (Server.within_reserved x.server _ fun inner => inner.link_mute .leave)
  | answers leaving => exact hreserved (Server.respond_reserved x.server _ true none none)
  | terminates leaving => exact threadEventsSent_say x.server .terminated

/-- If only one relay has something to tell, all that is told of threads is its. -/
theorem Standing.threadEventsSent_run (hstanding : Standing x) (steps : List Step)
    (hnone : ∀ other, other ≠ session → x.relayed other steps = []) :
    threadEventsSent (x.run steps).2 = x.relayed session steps := by
  induction steps generalizing x with
  | nil => rfl
  | cons step steps ih =>
    have hdoes := x.step_does step
    have hboth : ∀ other, other ≠ session →
        (if step.isTurnOf other then threadEventsSent (x.step step).2 else []) = [] ∧
          (x.step step).1.relayed other steps = [] := fun other hother => List.append_eq_nil_iff.1 (hnone other hother)
    rw [run_cons, threadEventsSent_append, relayed, ih (hstanding.after hdoes) fun other hother => (hboth other hother).2]
    congr 1
    split
    · rfl
    · next hturn =>
      by_cases hrelays : ∃ other, step = .relays other
      · obtain ⟨other, rfl⟩ := hrelays
        have hother : other ≠ session := fun heq => hturn (step_isTurnOf.2 (heq ▸ rfl))
        have hfirst := (hboth other hother).1
        rwa [if_pos (step_isTurnOf.2 rfl)] at hfirst
      · exact hdoes.tells_of_no_thread hstanding fun other heq => hrelays ⟨other, heq⟩

/-! ## Pauses -/

/-- A relay is to say that a thread has stopped only when its session remembers that. -/
theorem Sight.pending (hsight : Sight x step session result) {id : Int64} {stop : Stop}
    (hmem : .news (.stopped id stop) ∈ result.1.line session) :
    .news (.stopped id stop) ∈ x.line session ∨ Records result.1 session id stop := by
  cases hsight with
  | aside line silent seen => exact .inl (line ▸ hmem)
  | shuts hstep departs reading slot line seen shut => exact .inl (line ▸ hmem)
  | reports hstep pending left seen said =>
    rw [pending]
    exact .inl (List.mem_cons_of_mem _ (left ▸ hmem))
  | @hears launch heard lines hstep idle seen relaying hears changed line silent =>
    rw [line] at hmem
    cases hears with
    | lagged | stops => cases hmem
    | @tidings notification rest caughtUp items other goesOn =>
      have htold : threadEvent (.stopped id stop) ∈ (launch.report notification).filterMap Line.threadEvent? :=
        List.mem_filterMap.2 ⟨_, hmem, rfl⟩
      rw [launch.report_tidings other] at htold
      cases htold
    | @gone error rest caughtUp items =>
      have htold : threadEvent (.stopped id stop) ∈
          (launch.report (.disconnected error)).filterMap Line.threadEvent? := List.mem_filterMap.2 ⟨_, hmem, rfl⟩
      rw [launch.report_tidings rfl] at htold
      cases htold
    | @news payload rest caughtUp items isKept =>
      obtain ⟨found, hfound, hsame⟩ := Server.find?_of_seen? changed
      refine .inr ⟨found, ?_⟩
      have hstate : found.session.state = (launch.session.state.handleEvent payload).2 :=
        congrArg (fun launch : Launched => launch.session.state) hsame
      obtain ⟨news, hnews, heq⟩ := List.mem_map.1 hmem
      obtain rfl := Line.news.inj heq
      unfold Debugger.newsOf at hnews
      split at hnews
      · next thread =>
        obtain ⟨rfl, rfl⟩ : id = thread.id ∧ stop = .of thread := by simpa using hnews
        refine ⟨thread, hfound, ?_, rfl⟩
        rw [hstate]
        exact Assoc.find?_insert_self _ _ _
      · simp at hnews
      · cases hnews

theorem Standing.recorded (hstanding : Standing x) (steps : List Step) {id : Int64} {stop : Stop}
    (hmem : .news (.stopped id stop) ∈ (x.run steps).1.line session) :
    .news (.stopped id stop) ∈ x.line session ∨
      ∃ past, past <+: steps ∧ Records (x.run past).1 session id stop := by
  induction steps generalizing x with
  | nil => exact .inl hmem
  | cons step steps ih =>
    obtain ⟨accepted, hcomposed⟩ := hstanding.composed
    have hdoes := x.step_does step
    rcases ih (hstanding.after hdoes) hmem with hpending | ⟨past, hpast, hrecords⟩
    · refine ((hdoes.sight hcomposed.free session).pending hpending).imp_right fun hrecords => ?_
      exact ⟨[step], List.cons_prefix_cons.2 ⟨rfl, List.nil_prefix⟩, hrecords⟩
    · exact .inr ⟨step :: past, List.cons_prefix_cons.2 ⟨rfl, hpast⟩, hrecords⟩

/-- Whoever tells that a thread has stopped is a relay that was to say so. -/
theorem Does.tells_stop (hdoes : Does x step result) (hstanding : Standing x) {body : Option Json}
    (htold : ("stopped", body) ∈ threadEventsSent result.2) : ∃ session id stop, step = .relays session ∧
      body = some (newsEvent (.stopped id stop)).2 ∧ .news (.stopped id stop) ∈ x.line session := by
  by_cases hrelays : ∃ session, step = .relays session
  · obtain ⟨session, rfl⟩ := hrelays
    obtain ⟨accepted, hcomposed⟩ := hstanding.composed
    cases hdoes.sight hcomposed.free session with
    | aside line silent seen =>
      rw [threadEventsSent_of_sent_nil (silent rfl)] at htold
      cases htold
    | shuts hstep => cases hstep
    | @reports line rest hstep pending left seen said =>
      rw [said, threadEventsSent_say] at htold
      cases line with
      | news news =>
        cases news with
        | stopped id stop =>
          obtain rfl : body = _ := by simpa [Line.threadEvent?, threadEvent, newsEvent] using htold
          exact ⟨session, id, stop, rfl, rfl, pending ▸ List.mem_cons_self ..⟩
        | _ => simp [Line.threadEvent?, threadEvent, newsEvent] at htold
      | _ => cases htold
    | hears hstep idle seen relaying hears changed line silent =>
      rw [threadEventsSent_of_sent_nil silent] at htold
      cases htold
  · rw [hdoes.tells_of_no_thread hstanding fun session heq => hrelays ⟨session, heq⟩] at htold
    cases htold

/-! ## Turns -/

/-- A relay that has something to say says the next line at its turn. -/
theorem relays_of_line (hopen : x.server.broken = false) {line : Line} {rest : List Line}
    (hline : x.line session = line :: rest) :
    (x.step (.relays session)).1.line session = rest ∧
      threadEventsSent (x.step (.relays session)).2 = line.threadEvent?.toList := by
  have hstep : x.step (.relays session) = ({ x with
      server := (x.server.say line).1, lines := Assoc.insert session rest x.lines }, (x.server.say line).2) := by
    rw [Strands.step, if_neg (by simp [hopen])]
    simp only [relay, hline]
  rw [hstep]
  refine ⟨?_, threadEventsSent_say x.server line⟩
  rw [line_insert, if_pos rfl]

/-- A relay that has said everything, and goes on, takes what its inbox gives next at its turn. -/
theorem relays_of_take (hopen : x.server.broken = false) (hidle : x.line session = []) {launch : Launched}
    (hfound : Assoc.find? session x.server.launches = some launch) (hrelaying : launch.relaying = true)
    {delivery : Inbox.Delivery} {inbox : Inbox} (htake : launch.inbox.take = some (delivery, inbox)) :
    (∃ after, Assoc.find? session (x.step (.relays session)).1.server.launches = some after ∧ after.inbox = inbox) ∧
      ∀ notification, delivery = .notification notification →
        x.keeps session = true ∨ notification.news? = none →
        (x.step (.relays session)).1.line session = launch.report notification := by
  obtain ⟨heard, lines, effects, hhear, hinbox, hlines⟩ := Launched.hear_of_take hrelaying htake (x.keeps session)
  have hstep : x.step (.relays session) = ({ x with
      server := x.server.setLaunch session heard, lines := Assoc.insert session lines x.lines }, effects) := by
    rw [Strands.step, if_neg (by simp [hopen])]
    simp only [relay, hidle, Server.hear, hfound, Option.bind_some, hhear]
  rw [hstep]
  refine ⟨⟨heard, Assoc.find?_insert_self _ _ _, hinbox⟩, fun notification hnotification hkept => ?_⟩
  rw [line_insert, if_pos rfl]
  exact hlines notification hnotification hkept

end

/-- News is relayed in order. For all runs of the adapter, in which the servers' messages come in any order with the
turns of the relays and of the request loop:

* All news is that of one session, the one in the slot if there is one. What the editor is told of threads, together
  with what that session's relay has begun to say, is in order what there is to tell of the news that it has heard; and
  this, together with the news that still waits for it, is a part of the news that the session has read, in the same
  order and each at most as often.
* If the relay was never further behind than the settings allow for, then as long as the session is in the slot, or the
  relay goes on, it is the whole of that.
* The relay of the session in the slot goes on as long as news waits for it.
* As long as the editor's messages can be read, a relay says at each of its turns the next line that it has to say. If
  there is none, and it goes on, then it takes what its inbox gives next, and is to say what there is to say of that,
  unless it is news of the server's for a session that nothing keeps any more.
* That a thread has stopped is told only by the relay of a session that has remembered the pause before, with what it
  has remembered. -/
theorem news_is_relayed_in_order (defaults : ServerSettings) (files : FileTree) (steps : List Step) :
    let start : Strands := { server := { defaults, files } }
    let x := (start.run steps).1
    (∃ session, (∀ other, other ≠ session → start.told other steps = []) ∧
      (∀ other, x.server.slot = some other → other = session) ∧
      ∃ heard, (heard ++ x.waiting session).Sublist (start.told session steps) ∧
        threadEventsSent (start.run steps).2 ++ (x.line session).filterMap Line.threadEvent? =
          heard.flatMap threadEvents ∧
        ((∀ past, past <+: steps → UpToDate (start.run past).1 session) →
          x.server.slot = some session ∨ ¬ Stopped x session →
          heard ++ x.waiting session = start.told session steps)) ∧
    (∀ session launch, x.server.slot = some session → Assoc.find? session x.server.launches = some launch →
      launch.relaying = true ∨ x.waiting session = []) ∧
    (∀ session, x.server.broken = false →
      let next := x.step (.relays session)
      (∀ line rest, x.line session = line :: rest →
        next.1.line session = rest ∧ threadEventsSent next.2 = line.threadEvent?.toList) ∧
      ∀ launch delivery inbox, x.line session = [] → Assoc.find? session x.server.launches = some launch →
        launch.relaying = true → launch.inbox.take = some (delivery, inbox) →
        (∃ after, Assoc.find? session next.1.server.launches = some after ∧ after.inbox = inbox) ∧
        ∀ notification, delivery = .notification notification → x.keeps session = true ∨ notification.news? = none →
          next.1.line session = launch.report notification) ∧
    ∀ step body, ("stopped", body) ∈ threadEventsSent (x.step step).2 →
      ∃ session id stop, step = .relays session ∧ body = some (newsEvent (.stopped id stop)).2 ∧
        ∃ past, past <+: steps ∧ Records (start.run past).1 session id stop := by
  intro start x
  have hstart : Standing start := .start defaults files
  have hstanding : Standing x := hstart.run steps
  have hrun : ∀ session, ∃ heard, Relayed x session (∀ past, past <+: steps → UpToDate (start.run past).1 session)
      (start.relayed session steps) heard (start.told session steps) := fun session =>
    (Relayed.start defaults files session _).run hstart steps id
  refine ⟨?_, fun session launch hslot hfound => ?_, fun session hopen => ⟨?_, ?_⟩, fun step body htold => ?_⟩
  · obtain ⟨session, hone, hslot⟩ := hstart.one_told steps
    obtain ⟨heard, hrelayed⟩ := hrun session
    refine ⟨session, hone, hslot, heard, hrelayed.news, ?_, fun htimely hlive => ?_⟩
    · rw [hstart.threadEventsSent_run steps fun other hother => ?_]
      · exact hrelayed.said
      · obtain ⟨heard, hother'⟩ := hrun other
        have hnothing := hother'.news
        rw [hone other hother, List.sublist_nil, List.append_eq_nil_iff] at hnothing
        have hsaid := hother'.said
        rw [hnothing.1] at hsaid
        exact (List.append_eq_nil_iff.1 hsaid).1
    · refine (hrelayed.whole htimely).resolve_right fun hgone => ?_
      exact hlive.elim hgone.2 fun hgoes => hgoes hgone.1
  · cases hrelaying : launch.relaying with
    | true => exact .inl rfl
    | false =>
      obtain ⟨accepted, hcomposed⟩ := hstanding.composed
      have hending : x.server.ending ≠ some (.ok ()) := fun hended => by
        rw [hcomposed.ordered.ended hended] at hslot
        cases hslot
      have hseen := Server.seen?_of_find? hfound
      refine .inr ?_
      rw [waiting_of_seen hseen, (hstanding.reading hending).emptied session _ hseen hslot hrelaying]
      rfl
  · intro line rest hline
    exact relays_of_line hopen hline
  · intro launch delivery inbox hidle hfound hrelaying htake
    exact relays_of_take hopen hidle hfound hrelaying htake
  · obtain ⟨session, id, stop, hstep, hbody, hpending⟩ := (x.step_does step).tells_stop hstanding htold
    refine ⟨session, id, stop, hstep, hbody, (hstart.recorded steps hpending).resolve_left ?_⟩
    exact List.not_mem_nil

end Strands

end DebugBridge.Adapter
