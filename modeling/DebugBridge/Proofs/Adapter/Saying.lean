import DebugBridge.Proofs.Adapter.Standing

/-!
# What a relay has still to say

That is what it has begun to say and what it will say of the notifications that wait in the inbox. Once a connection is
gone nothing comes to that any more, and with each turn of the relay it gets less: `Lost.progress`.
-/

namespace DebugBridge.Adapter

open Debugger (Session SessionEffect)

/-- What the relay will say of the notifications in the inbox. -/
def Launched.toSay (launch : Launched) : List Line :=
  if launch.relaying then launch.inbox.items.flatMap launch.report else []

namespace Strands

/-- What a session's relay has still to say. -/
def toSay (x : Strands) (session : Nat) : List Line :=
  x.line session ++
    match Assoc.find? session x.server.launches with
    | some launch => launch.toSay
    | none => []

/-- How many turns a session's relay may need for that. -/
def turns (x : Strands) (session : Nat) : Nat :=
  (x.toSay session).length +
    match Assoc.find? session x.server.launches with
    | some launch => launch.inbox.items.length + if launch.inbox.lost = 0 then 0 else 1
    | none => 0

/-- A session's relay has stopped. -/
def Stopped (x : Strands) (session : Nat) : Prop :=
  ∃ launch, x.server.seen? session = some launch ∧ launch.relaying = false

section

variable {x : Strands} {step : Step} {result : Strands × List ServerEffect} {session : Nat} {launch heard : Launched}
  {accepted : List Message}

theorem toSay_of_seen (hseen : x.server.seen? session = some launch) :
    x.toSay session = x.line session ++ launch.toSay := by
  obtain ⟨found, hfound, rfl⟩ := Server.find?_of_seen? hseen
  rw [toSay, hfound]
  rfl

theorem turns_of_seen (hseen : x.server.seen? session = some launch) : x.turns session =
    (x.line session ++ launch.toSay).length +
      (launch.inbox.items.length + if launch.inbox.lost = 0 then 0 else 1) := by
  rw [turns, toSay_of_seen hseen]
  obtain ⟨found, hfound, rfl⟩ := Server.find?_of_seen? hseen
  rw [hfound]

/-- A relay that takes something from the inbox has still to say what it had. -/
theorem toSay_of_hears {kept : Bool} {lines : List Line} (hhears : launch.Hears kept heard lines)
    (hrelaying : launch.relaying = true) (hkept : kept = true ∨ ∀ notification ∈ launch.inbox.items,
      notification.news? = none) (hlast : LastWord launch.inbox) : lines ++ heard.toSay = launch.toSay := by
  have hcons : ∀ {notification : Notification} {rest : List Notification}, launch.inbox.items = notification :: rest →
      launch.toSay = launch.report notification ++ rest.flatMap launch.report := by
    intro notification rest hitems
    rw [Launched.toSay, if_pos hrelaying, hitems, List.flatMap_cons]
  cases hhears with
  | lagged behind => rfl
  | tidings caughtUp items other goesOn =>
    rw [hcons items, Launched.toSay, if_pos hrelaying]
    rfl
  | news caughtUp items isKept =>
    rw [hcons items, Launched.toSay, if_pos hrelaying]
    rfl
  | @stops payload rest caughtUp items notKept =>
    rcases hkept with hkept | hnone
    · rw [notKept] at hkept
      cases hkept
    · exact absurd (hnone (.debug payload) (items ▸ List.mem_cons_self ..)) (by simp [Notification.news?])
  | @gone error rest caughtUp items =>
    rw [hcons items, hlast.rest items]
    rfl

theorem turns_of_hears {kept : Bool} {lines : List Line} (hhears : launch.Hears kept heard lines) :
    (heard.inbox.items.length + if heard.inbox.lost = 0 then 0 else 1) <
      launch.inbox.items.length + if launch.inbox.lost = 0 then 0 else 1 := by
  cases hhears with
  | lagged behind => simp [behind]
  | tidings caughtUp items | news caughtUp items | stops caughtUp items | gone caughtUp items =>
    simp [caughtUp, items]

/-! ## Relays that have stopped -/

/-- A relay that has stopped does not go on. -/
theorem Sight.stopped (hsight : Sight x step session result) (hstopped : Stopped x session) :
    Stopped result.1 session := by
  obtain ⟨launch, hbefore, hrelaying⟩ := hstopped
  cases hsight with
  | aside line silent seen =>
    generalize x.newsRead session step = told, hafter : result.1.server.seen? session = after at seen
    rw [hbefore] at seen
    cases seen with
    | rests => exact ⟨launch, hafter, hrelaying⟩
    | goesOn onward => exact ⟨_, hafter, hrelaying⟩
  | shuts hstep departs reading slot line seen shut =>
    obtain rfl := Option.some.inj (hbefore.symm.trans seen)
    exact ⟨_, shut, hrelaying⟩
  | reports hstep pending left seen said => exact ⟨launch, seen.trans hbefore, hrelaying⟩
  | hears hstep idle seen relaying hears changed line silent =>
    obtain rfl := Option.some.inj (hbefore.symm.trans seen)
    rw [hrelaying] at relaying
    cases relaying

/-- A relay that has stopped and has said everything says nothing more. -/
theorem Sight.silent (hsight : Sight x step session result) (hstopped : Stopped x session)
    (hidle : x.line session = []) :
    result.1.line session = [] ∧ (step = .relays session → Loop.sent result.2 = []) := by
  cases hsight with
  | aside line silent seen => exact ⟨line.trans hidle, silent⟩
  | shuts hstep departs reading slot line seen shut =>
    refine ⟨line.trans hidle, fun hrelays => ?_⟩
    rw [hstep] at hrelays
    cases hrelays
  | reports hstep pending left seen said =>
    rw [hidle] at pending
    cases pending
  | hears hstep idle seen relaying hears changed line silent =>
    obtain ⟨launch, hbefore, hrelaying⟩ := hstopped
    obtain rfl := Option.some.inj (hbefore.symm.trans seen)
    rw [hrelaying] at relaying
    cases relaying

/-- A relay is to say that debugging is over only when it has stopped. -/
theorem Sight.stopped_of_said (hsight : Sight x step session result)
    (hbefore : .terminated ∈ x.line session → Stopped x session) (hsaid : .terminated ∈ result.1.line session) :
    Stopped result.1 session := by
  cases hsight with
  | aside line silent seen => exact (Sight.aside line silent seen).stopped (hbefore (line ▸ hsaid))
  | shuts hstep departs reading slot line seen shut =>
    exact (Sight.shuts hstep departs reading slot line seen shut).stopped (hbefore (line ▸ hsaid))
  | @reports line rest hstep pending left seen said =>
    refine (Sight.reports hstep pending left seen said).stopped (hbefore ?_)
    rw [pending]
    exact List.mem_cons_of_mem _ (left ▸ hsaid)
  | @hears launch heard lines hstep idle seen relaying hears changed line silent =>
    rw [line] at hsaid
    cases hears with
    | lagged | stops => cases hsaid
    | tidings caughtUp items other goesOn => exact absurd hsaid (launch.terminated_not_mem_report goesOn)
    | news caughtUp items isKept => exact absurd hsaid (launch.terminated_not_mem_report rfl)
    | gone caughtUp items => exact ⟨_, changed, rfl⟩

/-! ## Connections that are gone -/

/-- A session whose connection is gone, without a shutdown. -/
structure Lost (x : Strands) (session : Nat) (launch : Launched) : Prop where
  seen : x.server.seen? session = some launch
  ended : launch.session.connection.Ended
  last : LastWord launch.inbox

/-- What a step is for a relay that will not be told anything more. -/
inductive Progress (x : Strands) (step : Step) (session : Nat) (result : Strands × List ServerEffect) : Prop
  | waits (same : result.1.toSay session = x.toSay session) (turns : result.1.turns session = x.turns session)
      (idle : step = .relays session → x.server.broken = true ∨ x.toSay session = [])
  | prepares (step : step = .relays session) (same : result.1.toSay session = x.toSay session)
      (turns : result.1.turns session < x.turns session) (silent : Loop.sent result.2 = [])
  | speaks {line : Line} (step : step = .relays session) (said : x.toSay session = line :: result.1.toSay session)
      (turns : result.1.turns session < x.turns session) (did : (result.1.server, result.2) = x.server.say line)

/-- A step of the session in which nothing is told leaves its relay as it was. -/
theorem Lost.unheard (hlost : Lost x session launch) {changed : Session × List SessionEffect}
    (hended : changed.1.connection.Ended) (hsilent : Connection.notices (Debugger.linked changed.2) = [])
    (hline : result.1.line session = x.line session)
    (hafter : result.1.server.seen? session = some (launch.after changed)) (hother : step ≠ .relays session) :
    Progress x step session result ∧ ∃ after, Lost result.1 session after := by
  have hinbox : (launch.after changed).inbox = launch.inbox := by
    rw [Launched.after, hsilent]
    rfl
  have hsame : (launch.after changed).toSay = launch.toSay := by
    rw [Launched.toSay, hinbox]
    rfl
  refine ⟨.waits ?_ ?_ fun h => absurd h hother, _, hafter, hended, hinbox ▸ hlost.last⟩
  · rw [toSay_of_seen hafter, toSay_of_seen hlost.seen, hline, hsame]
  · rw [turns_of_seen hafter, turns_of_seen hlost.seen, hline, hsame, hinbox]

theorem Lost.relays (hlost : Lost x session launch) (hdoes : Does x (.relays session) result)
    (hkept : x.keeps session = true ∨ ∀ notification ∈ launch.inbox.items, notification.news? = none) :
    Progress x (.relays session) session result ∧ ∃ after, Lost result.1 session after := by
  cases hdoes with
  | idles silent stays unable => exact ⟨.waits rfl rfl fun _ => .inl (unable session rfl), launch, hlost⟩
  | @reports _ line rest pending =>
    have hline := line_insert (x.server.say line).1 x.lines x.leaving session session rest
    rw [if_pos rfl] at hline
    have hseen : (x.server.say line).1.seen? session = some launch :=
      ((x.server.say_sameWork line).seen session).trans hlost.seen
    refine ⟨.speaks rfl ?_ ?_ rfl, launch, hseen, hlost.ended, hlost.last⟩
    · rw [toSay_of_seen hlost.seen, toSay_of_seen hseen, pending, hline]
      rfl
    · rw [turns_of_seen hlost.seen, turns_of_seen hseen, pending, hline]
      simp
  | @hears _ held heard lines effects idle listed hears =>
    obtain ⟨hrelaying, hhears, hsilent⟩ := Launched.hear_hears hears
    have hline := line_insert (x.server.setLaunch session heard) x.lines x.leaving session session lines
    have hseen := Server.seen?_setLaunch x.server session session heard
    rw [if_pos rfl] at hline hseen
    obtain rfl := Option.some.inj (hlost.seen.symm.trans (Server.seen?_of_find? listed))
    have hhears := hears_seen hhears
    have hsame := toSay_of_hears hhears hrelaying hkept hlost.last
    have hturns := turns_of_hears hhears
    refine ⟨.prepares rfl ?_ ?_ hsilent, _, hseen, ?_, hlost.last.hears hhears⟩
    · rw [toSay_of_seen hlost.seen, toSay_of_seen hseen, idle, hline, hsame, List.nil_append]
    · rw [turns_of_seen hlost.seen, turns_of_seen hseen, idle, hline, hsame, List.nil_append]
      exact Nat.add_lt_add_left hturns _
    · rw [(hears_keeps hhears).1]
      exact hlost.ended
  | rests idle nothing =>
    have hline := line_insert x.server x.lines x.leaving session session []
    rw [if_pos rfl] at hline
    obtain ⟨held, hfound, heq⟩ := Server.find?_of_seen? hlost.seen
    have hnothing : launch.toSay = [] := by
      unfold Launched.toSay
      split
      · next hrelaying =>
        refine List.flatMap_eq_nil_iff.2 fun notification hmem => ?_
        subst heq
        have hheard := @Launched.hear_isSome held hrelaying (List.ne_nil_of_mem hmem) (x.keeps session)
        rw [nothing held hfound] at hheard
        cases hheard
      · rfl
    have hstill : Lost { x with lines := Assoc.insert session [] x.lines } session launch :=
      ⟨hlost.seen, hlost.ended, hlost.last⟩
    refine ⟨.waits ?_ ?_ fun _ => .inr ?_, launch, hstill⟩
    · rw [toSay_of_seen hlost.seen, toSay_of_seen hstill.seen, hline, idle]
    · rw [turns_of_seen hlost.seen, turns_of_seen hstill.seen, hline, idle]
    · rw [toSay_of_seen hlost.seen, idle, hnothing]
      rfl

theorem Lost.progress (hlost : Lost x session launch) (hdoes : Does x step result) (hcomposed : Composed x accepted)
    (hkept : x.keeps session = true ∨ ∀ notification ∈ launch.inbox.items, notification.news? = none) :
    Progress x step session result ∧ ∃ after, Lost result.1 session after := by
  by_cases hstep : step = .relays session
  · subst hstep
    exact hlost.relays hdoes hkept
  · cases hdoes.sight hcomposed.free session with
    | aside line silent seen =>
      generalize x.newsRead session step = told, hafter : result.1.server.seen? session = after at seen
      rw [hlost.seen] at seen
      cases seen with
      | rests =>
        refine ⟨.waits ?_ ?_ fun h => absurd h hstep, launch, hafter, hlost.ended, hlost.last⟩
        · rw [toSay_of_seen hafter, toSay_of_seen hlost.seen, line]
        · rw [turns_of_seen hafter, turns_of_seen hlost.seen, line]
      | goesOn onward =>
        obtain ⟨hended, hsilent⟩ := onward.connection.ended hlost.ended
        exact hlost.unheard hended hsilent line hafter hstep
    | shuts hmoves departs reading slot line seen shut =>
      obtain rfl := Option.some.inj (hlost.seen.symm.trans seen)
      obtain ⟨hended, hsilent⟩ := hlost.ended.step .shutdown
      refine hlost.unheard ?_ ?_ line shut hstep
      · rw [Session.link_connection]
        exact hended
      · rw [Session.notices_link]
        exact hsilent
    | reports hrelays pending left seen said => exact absurd hrelays hstep
    | hears hrelays idle seen relaying hears changed line silent => exact absurd hrelays hstep

end

end Strands

end DebugBridge.Adapter
