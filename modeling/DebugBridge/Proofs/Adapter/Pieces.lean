import DebugBridge.Proofs.Adapter.Strands

/-!
# The pieces make up the whole

When nobody comes in between, a relay that takes a notification and says all its lines does what a relay does in one
step, and a request loop that goes on leaving until it has left does what it does at the request. So every run of the
adapter is one of the adapter in pieces: `moves_in_pieces`.
-/

namespace DebugBridge.Adapter

open Debugger (Session)

namespace Server

variable {s : Server} {session : Nat} {launch : Launched}

theorem setLaunch_setLaunch (s : Server) (session : Nat) (first second : Launched) :
    (s.setLaunch session first).setLaunch session second = s.setLaunch session second := by
  simp only [setLaunch, Assoc.insert_insert]

/-- Whatever a move does, it is not the request loop's part in ending a session. -/
def Move.Free (m : Move) : Prop :=
  ∀ session, m ≠ .step (.link session .shutdown) ∧ m ≠ .step (.link session .leave)

/-! ## Relays -/

theorem sayAll_news (s : Server) (news : List Debugger.News) : s.sayAll (news.map .news) = s.tellNews news := by
  induction news generalizing s with
  | nil => rfl
  | cons first rest ih => simp only [List.map_cons, sayAll, say, tellNews, ih]

theorem sayAll_singleton (s : Server) (line : Line) : s.sayAll [line] = s.say line := by
  simp only [sayAll, List.append_nil]

theorem keeps_setLaunch (hfound : Assoc.find? session s.launches = some launch) {changed : Launched}
    (hrequest : changed.request = launch.request) : (s.setLaunch session changed).keeps session = s.keeps session := by
  simp only [keeps, setLaunch, Assoc.find?_insert_self, hfound, Option.any_some, hrequest]

/-- Hearing of something and saying all there is to say of it is what a relay does in one step. -/
theorem relay_eq (s : Server) (session : Nat) :
    let heard := s.hear session (s.keeps session)
    s.relay session = ((heard.1.sayAll heard.2.1).1, heard.2.2 ++ (heard.1.sayAll heard.2.1).2) := by
  unfold relay hear
  cases hfound : Assoc.find? session s.launches with
  | none => rfl
  | some launch =>
    simp only [Option.bind_some, Launched.hear]
    cases hrelaying : launch.relaying with
    | false => rfl
    | true =>
      cases htake : launch.inbox.take with
      | none => rfl
      | some taken =>
        obtain ⟨delivery, inbox⟩ := taken
        simp only [Bool.not_true, Bool.false_eq_true, if_false, Option.map_some]
        cases delivery with
        | lagged lost => rfl
        | notification notification =>
          cases notification with
          | connectFailed attempt error =>
            cases hverbose : launch.verbose with
            | true => simp only [if_true, sayAll_singleton, say, List.nil_append]
            | false => rfl
          | connected =>
            cases hverbose : launch.verbose with
            | true => simp only [if_true, sayAll_singleton, say, List.nil_append]
            | false => rfl
          | debug payload =>
            dsimp only
            rw [keeps_setLaunch hfound]
            · cases hkept : s.keeps session with
              | true =>
                simp only [if_true, sayAll_news, within, setLaunch, Assoc.find?_insert_self, Assoc.insert_insert,
                  Session.handleEvent, absorb, absorbOne, List.append_nil, List.nil_append]
              | false =>
                rw [setLaunch_setLaunch]
                rfl
            · rfl
          | disconnected error =>
            dsimp only
            rw [setLaunch_setLaunch, farewell]
            cases error with
            | none =>
              simp only [Option.map_none, Option.toList_none, List.nil_append, sayAll_singleton]
              rfl
            | some error =>
              simp only [Option.map_some, Option.toList_some, List.cons_append, List.nil_append, sayAll,
                List.append_nil]
              rfl

/-! ## Leaving -/

/-- What the first half of a shutdown tells goes to the inbox. -/
theorem absorb_shutdown (session : Nat) (inner : Session) : ∃ grow : Inbox → Inbox, ∀ (s : Server) (launch : Launched),
    (s.setLaunch session launch).absorb session (inner.link (·.step .shutdown)).2 =
      (s.setLaunch session { launch with inbox := grow launch.inbox }, []) := by
  have hcases : inner.connection.shutdown.2 = [] ∨ inner.connection.shutdown.2 = [.told (.disconnected none)] := by
    simp only [Connection.shutdown, Connection.close]
    split
    · exact .inl rfl
    · exact .inr rfl
  have hlink : inner.link (·.step .shutdown) =
      ({ inner with connection := inner.connection.shutdown.1 }, inner.connection.shutdown.2.map .link) :=
    Session.absorb_of_not_answered fun number reply hmem => by
      have hmem : .answered number reply ∈ inner.connection.shutdown.2 := hmem
      rcases hcases with heffects | heffects <;> simp [heffects] at hmem
  rcases hcases with heffects | heffects
  · refine ⟨id, fun s launch => ?_⟩
    rw [hlink, heffects]
    rfl
  · refine ⟨(·.push (.disconnected none)), fun s launch => ?_⟩
    rw [hlink, heffects]
    simp only [List.map_cons, List.map_nil, absorb, absorbOne, setLaunch, Assoc.find?_insert_self, Assoc.insert_insert,
      List.append_nil]

/-- The second half only ends a stream. -/
theorem absorb_leave (session : Nat) (inner : Session) : ∃ effects : List ServerEffect, ∀ s : Server,
    s.absorb session (inner.link (·.step .leave)).2 = (s, effects) := by
  have hcases : inner.connection.leave.2 = [] ∨ ∃ stream, inner.connection.leave.2 = [.hungUp stream] := by
    unfold Connection.leave Connection.takeWriter
    split
    · exact .inl rfl
    · cases inner.connection.writer with
      | none => exact .inl rfl
      | some stream => exact .inr ⟨stream, rfl⟩
  have hlink : inner.link (·.step .leave) =
      ({ inner with connection := inner.connection.leave.1 }, inner.connection.leave.2.map .link) :=
    Session.absorb_of_not_answered fun number reply hmem => by
      have hmem : .answered number reply ∈ inner.connection.leave.2 := hmem
      rcases hcases with heffects | ⟨stream, heffects⟩ <;> simp [heffects] at hmem
  rcases hcases with heffects | ⟨stream, heffects⟩
  · refine ⟨[], fun s => ?_⟩
    rw [hlink, heffects]
    rfl
  · refine ⟨[.link session (.hungUp stream)], fun s => ?_⟩
    rw [hlink, heffects]
    rfl

/-- The request loop ends the session in the slot in two pieces. -/
theorem endSession_eq (hslot : s.slot = some session) (ending : Option (Except ReadError Unit)) :
    let first := { s with slot := none, ending }.within session (·.link (·.step .shutdown))
    let second := first.1.within session (·.link (·.step .leave))
    ({ s.endSession.1 with ending }, s.endSession.2) = (second.1, first.2 ++ second.2) := by
  cases hfound : Assoc.find? session s.launches with
  | none => simp only [endSession, within, hslot, hfound, List.append_nil]
  | some launch =>
    obtain ⟨grow, hshutdown⟩ := absorb_shutdown session launch.session
    obtain ⟨effects, hleave⟩ := absorb_leave session (launch.session.link (·.step .shutdown)).1
    have hwhole : s.endSession = ({ s with slot := none }.setLaunch session { launch with
        session := ((launch.session.link (·.step .shutdown)).1.link (·.step .leave)).1
        inbox := grow launch.inbox }, effects) := by
      simp only [endSession, within, hslot, hfound, Session.link_shutdown, absorb_append, hshutdown, hleave,
        List.nil_append]
    have hfirst : { s with slot := none, ending }.within session (·.link (·.step .shutdown)) =
        ({ s with slot := none, ending }.setLaunch session { launch with
          session := (launch.session.link (·.step .shutdown)).1, inbox := grow launch.inbox }, []) := by
      simp only [within, hfound, hshutdown]
    rw [hwhole, hfirst]
    simp only [within, setLaunch, Assoc.find?_insert_self, hleave, Assoc.insert_insert, List.nil_append]

/-- What the request loop says as it leaves at a request. -/
def goodbye (s : Server) : Option Message → Server × List ServerEffect
  | none => (s, [])
  | some request =>
    let (s, first) := s.respond request true none none
    let (s, later) := s.terminate
    (s, first ++ later)

theorem goodbye_ending (s : Server) (request : Option Message) (ending : Option (Except ReadError Unit)) :
    { s with ending }.goodbye request = ({ (s.goodbye request).1 with ending }, (s.goodbye request).2) := by
  cases request with
  | none => rfl
  | some request =>
    obtain ⟨defaults, files, nextSeq, terminated, before⟩ := s
    cases terminated <;> rfl

/-- What the request loop does as it leaves. -/
theorem move_departs {m : Move} {request : Option Message} (hdeparts : m.departs? = some request)
    (hreading : s.ending = none) :
    let ended : Server := { s.endSession.1 with ending := some (.ok ()) }
    s.move m = ((ended.goodbye request).1, (request.map fun request => log .debug "request"
      [("seq", .number request.seq.toInt), ("command", .plain request.command)]).toList ++
        (s.endSession.2 ++ (ended.goodbye request).2)) := by
  have hopen : ¬ s.broken = true := by simp [broken, hreading]
  dsimp only
  rw [goodbye_ending]
  rcases Strands.departs_cases hdeparts with ⟨message, rfl, hkind, hcommand, rfl⟩ | ⟨rfl, rfl⟩
  · simp only [move, step, if_neg hopen, receive, hreading, hkind, perform, Command.of_eq_disconnect.2 hcommand]
    simp [goodbye]
  · simp only [move, step, if_neg hopen, endInput, hreading]
    simp [goodbye]

end Server

namespace Strands

variable {x : Strands} {s : Server}

/-- Nobody stands between two pieces. -/
structure AtRest (x : Strands) (s : Server) : Prop where
  server : x.server = s
  leaving : x.leaving = none
  lines : ∀ session, x.line session = []

theorem AtRest.start (s : Server) : AtRest { server := s } s :=
  ⟨rfl, rfl, fun _ => rfl⟩

/-- The turns in which a relay says all its lines. -/
theorem run_lines {session : Nat} {lines : List Line} (hopen : x.server.broken = false) (hlines : x.line session = lines) :
    let result := x.run (List.replicate lines.length (.relays session))
    result.2 = (x.server.sayAll lines).2 ∧ result.1.server = (x.server.sayAll lines).1 ∧
      result.1.leaving = x.leaving ∧ result.1.line session = [] ∧
      ∀ other, other ≠ session → result.1.line other = x.line other := by
  induction lines generalizing x with
  | nil => exact ⟨rfl, rfl, rfl, hlines, fun _ _ => rfl⟩
  | cons line rest ih =>
    have hstep : x.step (.relays session) =
        ({ x with server := (x.server.say line).1, lines := Assoc.insert session rest x.lines },
          (x.server.say line).2) := by
      rw [Strands.step, if_neg (by simp [hopen])]
      simp only [relay, hlines]
    have hnext := line_insert (x.server.say line).1 x.lines x.leaving session
    have hlater := @ih { x with server := (x.server.say line).1, lines := Assoc.insert session rest x.lines }
      (by simpa [Server.broken, (x.server.say_passes line).ending] using hopen) (by rw [hnext, if_pos rfl])
    rw [List.length_cons, List.replicate_succ, run_cons, hstep]
    obtain ⟨heffects, hserver, hleaving, hline, hothers⟩ := hlater
    refine ⟨?_, hserver, hleaving, hline, fun other hother => (hothers other hother).trans ?_⟩
    · rw [heffects]
      rfl
    · rw [hnext, if_neg hother]
      rfl

theorem AtRest.relay (hrest : AtRest x s) (hopen : s.broken = false) (session : Nat) :
    ∃ steps, (x.run steps).2 = (s.relay session).2 ∧ AtRest (x.run steps).1 (s.relay session).1 := by
  obtain ⟨rfl, hleaving, hlines⟩ := hrest
  have hkeeps : x.keeps session = x.server.keeps session := by simp [keeps, hleaving]
  have hending : (x.server.hear session (x.server.keeps session)).1.ending = x.server.ending := by
    unfold Server.hear
    split <;> rfl
  have hstep : x.step (.relays session) =
      ({ x with
          server := (x.server.hear session (x.server.keeps session)).1
          lines := Assoc.insert session (x.server.hear session (x.server.keeps session)).2.1 x.lines },
        (x.server.hear session (x.server.keeps session)).2.2) := by
    rw [Strands.step, if_neg (by simp [hopen])]
    simp only [Strands.relay, hlines, hkeeps]
  have hrelay := x.server.relay_eq session
  generalize x.server.hear session (x.server.keeps session) = heard at hending hstep hrelay
  obtain ⟨server, lines, effects⟩ := heard
  have hline := line_insert server x.lines x.leaving session
  have hopen' : server.broken = false := by
    rw [Server.broken, show server.ending = _ from hending]
    exact hopen
  obtain ⟨heffects, hserver, hstays, hsaid, hothers⟩ := run_lines
    (x := { x with server, lines := Assoc.insert session lines x.lines }) hopen' ((hline session lines).trans (if_pos rfl))
  refine ⟨.relays session :: List.replicate lines.length (.relays session), ?_, ?_⟩
  · rw [run_cons, hstep, hrelay]
    exact congrArg (effects ++ ·) heffects
  · rw [run_cons, hstep, hrelay]
    refine ⟨hserver, hstays.trans hleaving, fun other => ?_⟩
    by_cases heq : other = session
    · rw [heq]
      exact hsaid
    · refine (hothers other heq).trans ((hline other lines).trans ?_)
      rw [if_neg heq]
      exact hlines other

/-! ### Leaving -/

theorem leaves_eq (hopen : x.server.broken = false) : x.step .leaves = x.leave := by
  rw [Strands.step, if_neg (by simp [hopen])]

/-- The last two pieces of leaving. -/
theorem run_answers {request : Message} (hleaving : x.leaving = some (.answers request))
    (hopen : x.server.broken = false) :
    let answered := x.server.respond request true none none
    x.run [.leaves, .leaves] =
      ({ x with server := answered.1.terminate.1, leaving := none }, answered.2 ++ answered.1.terminate.2) := by
  have hfirst : x.step .leaves = ({ x with
      server := (x.server.respond request true none none).1, leaving := some .terminates },
      (x.server.respond request true none none).2) := by
    rw [leaves_eq hopen]
    simp only [leave, hleaving]
  have hopen' : (x.server.respond request true none none).1.broken = false := hopen
  have hsecond := leaves_eq (x := { x with
    server := (x.server.respond request true none none).1, leaving := some .terminates }) hopen'
  dsimp only
  rw [run_cons, hfirst, run_cons, hsecond, run_nil]
  simp only [leave, List.append_nil]

/-- How the request loop goes on once no session is left to be ended. -/
theorem run_goodbye {request : Option Message} (hleaving : x.leaving = request.map .answers)
    (hopen : x.server.broken = false) : ∃ steps, x.run steps =
      ({ x with server := (x.server.goodbye request).1, leaving := none }, (x.server.goodbye request).2) := by
  cases request with
  | none =>
    refine ⟨[], ?_⟩
    rw [run_nil, ← show x.leaving = none from hleaving]
    rfl
  | some request => exact ⟨[.leaves, .leaves], run_answers hleaving hopen⟩

theorem AtRest.depart (hrest : AtRest x s) {m : Server.Move} {request : Option Message}
    (hdeparts : m.departs? = some request) (hreading : s.ending = none) :
    ∃ steps, (x.run steps).2 = (s.move m).2 ∧ AtRest (x.run steps).1 (s.move m).1 := by
  obtain ⟨rfl, -, hlines⟩ := hrest
  have hstep := step_of_departs hdeparts hreading
  have hlogged := Server.move_departs hdeparts hreading
  dsimp only at hlogged
  unfold Strands.depart at hstep
  cases hslot : x.server.slot with
  | none =>
    rw [hslot] at hstep
    dsimp only at hstep
    obtain ⟨steps, hrun⟩ := run_goodbye (x := (x.step (.moves m)).1) (by rw [hstep]) (by rw [hstep]; rfl)
    have hended : x.server.endSession = (x.server, []) := by
      unfold Server.endSession
      rw [hslot]
    rw [hended] at hlogged
    refine ⟨.moves m :: steps, ?_, ?_⟩
    · rw [run_cons, hrun, hstep, hlogged]
      rfl
    · rw [run_cons, hrun, hstep, hlogged]
      exact ⟨rfl, rfl, hlines⟩
  | some session =>
    rw [hslot] at hstep
    dsimp only at hstep
    have hended := Server.endSession_eq hslot (some (.ok ()))
    dsimp only at hended
    have hfirst : ({ x.server with slot := none, ending := some (.ok ()) }.within session
        (·.link (·.step .shutdown))).1.ending = some (.ok ()) :=
      (Server.within_reserved _ session fun inner => inner.link_mute .shutdown).ending
    generalize { x.server with slot := none, ending := some (.ok ()) }.within session (·.link (·.step .shutdown))
      = first at hstep hended hfirst
    have hsecond : (first.1.within session (·.link (·.step .leave))).1.ending = some (.ok ()) :=
      (Server.within_reserved _ session fun inner => inner.link_mute .leave).ending.trans hfirst
    have hleaves := leaves_eq (x := (x.step (.moves m)).1) (by rw [hstep]; simp [Server.broken, hfirst])
    rw [hstep] at hleaves
    simp only [leave] at hleaves
    generalize first.1.within session (·.link (·.step .leave)) = second at hended hsecond hleaves
    obtain ⟨hserver, heffects⟩ := Prod.mk.inj hended
    obtain ⟨steps, hrun⟩ := run_goodbye (x := { x with server := second.1, leaving := request.map .answers }) rfl
      (by simp [Server.broken, hsecond])
    refine ⟨.moves m :: .leaves :: steps, ?_, ?_⟩
    · rw [run_cons, run_cons, hstep, hleaves, hrun, hlogged, hserver, heffects]
      simp only [List.append_assoc]
    · rw [run_cons, run_cons, hstep, hleaves, hrun, hlogged, hserver]
      exact ⟨rfl, rfl, hlines⟩

theorem AtRest.move (hrest : AtRest x s) {m : Server.Move} (hfree : m.Free) :
    ∃ steps, (x.run steps).2 = (s.move m).2 ∧ AtRest (x.run steps).1 (s.move m).1 := by
  by_cases hbroken : s.broken = true
  · rw [Server.move_of_broken hbroken]
    exact ⟨[], rfl, hrest⟩
  have hopen : s.broken = false := by simpa using hbroken
  cases hdeparts : m.departs? with
  | some request =>
    by_cases hreading : s.ending = none
    · exact hrest.depart hdeparts hreading
    · have hended : s.ending.isSome := Option.isSome_iff_ne_none.2 hreading
      have hnothing : s.move m = (s, []) := by
        rcases departs_cases hdeparts with ⟨message, rfl, -⟩ | ⟨rfl, -⟩
        · simp only [Server.move, Server.step, if_neg hbroken, Server.receive, hended, true_or, if_true]
        · simp only [Server.move, Server.step, if_neg hbroken, Server.endInput, hended, if_true]
      rw [hnothing]
      exact ⟨[], rfl, hrest⟩
  | none =>
    cases hpieces : m.inPieces with
    | false =>
      have hstep : x.step (.moves m) = ({ x with server := (x.server.move m).1 }, (x.server.move m).2) := by
        rw [Strands.step, if_neg (hrest.server ▸ hbroken)]
        simp only [hdeparts, hpieces, Bool.false_eq_true, if_false]
      refine ⟨[.moves m], ?_, ?_⟩
      · rw [run_cons, hstep, hrest.server]
        exact List.append_nil _
      · rw [run_cons, hstep, hrest.server]
        exact ⟨rfl, hrest.leaving, hrest.lines⟩
    | true =>
      unfold Server.Move.inPieces at hpieces
      split at hpieces
      · next session =>
        simp only [Server.move, Server.step, if_neg hbroken]
        exact hrest.relay hopen session
      · next session => exact absurd rfl (hfree session).1
      · next session => exact absurd rfl (hfree session).2
      · rw [hdeparts] at hpieces
        cases hpieces

theorem AtRest.moves (hrest : AtRest x s) {moves : List Server.Move} (hfree : ∀ m ∈ moves, m.Free) :
    ∃ steps, (x.run steps).2 = (s.moves moves).2 ∧ AtRest (x.run steps).1 (s.moves moves).1 := by
  induction moves generalizing x s with
  | nil => exact ⟨[], rfl, hrest⟩
  | cons m rest ih =>
    obtain ⟨hfirst, hlast⟩ := List.forall_mem_cons.1 hfree
    obtain ⟨steps, heffects, hnext⟩ := hrest.move hfirst
    obtain ⟨more, hlater, hdone⟩ := ih hnext hlast
    refine ⟨steps ++ more, ?_, ?_⟩
    · rw [run_append, heffects, hlater]
      rfl
    · rw [run_append]
      exact hdone

/-- Every run of the adapter, in which only the request loop shuts connections down, is one of the adapter in pieces:
it comes to the same state, with the same effects, and nobody stands between two pieces in the end. -/
theorem moves_in_pieces (s : Server) {moves : List Server.Move} (hfree : ∀ m ∈ moves, m.Free) :
    ∃ steps, (({ server := s } : Strands).run steps).2 = (s.moves moves).2 ∧
      AtRest (({ server := s } : Strands).run steps).1 (s.moves moves).1 :=
  (AtRest.start s).moves hfree

end Strands

end DebugBridge.Adapter
