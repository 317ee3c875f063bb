import DebugBridge.Proofs.Adapter.Strands

/-!
# Which connections are closed, and who says so

Until the request loop leaves, a connection that has come about or was lost is that of the session in the slot, and from
then on no other session can have one: `Standing.step`. A relay that is to say that debugging is over knows that its
session's connection is closed.
-/

namespace DebugBridge.Adapter

open Debugger (Session)

/-- The request that is to be answered as the request loop leaves. -/
def Leaving.request? : Leaving → Option Message
  | .hangsUp _ request => request
  | .answers request => some request
  | .terminates => none

namespace Strands

/-- The launches are in order, and so is what the request loop has still to do. -/
structure Composed (x : Strands) (accepted : List Message) : Prop where
  ordered : Server.Ordered x.server accepted
  leaving : ∀ leaving request, x.leaving = some leaving → leaving.request? = some request →
    request.command = "disconnect"

section

variable {x : Strands} {accepted : List Message} {step : Step} {result : Strands × List ServerEffect}

theorem Composed.free (hcomposed : Composed x accepted) : x.server.seen? x.server.launched = none := by
  rw [Server.seen?, Option.map_eq_none_iff, ← Option.not_isSome_iff_eq_none, hcomposed.ordered.listed]
  exact Nat.lt_irrefl _

theorem Composed.fresh (defaults : ServerSettings) (files : FileTree) :
    Composed { server := { defaults, files } } [] where
  ordered := .fresh defaults files
  leaving leaving request h := by cases h

theorem hears_keeps {launch heard : Launched} {kept : Bool} {lines : List Line} (hhears : launch.Hears kept heard lines) :
    heard.session.connection = launch.session.connection ∧ heard.request = launch.request := by
  cases hhears <;> exact ⟨rfl, rfl⟩

/-- What a request is logged with does not concern the launches. -/
theorem depart_carries (hordered : Server.Ordered x.server accepted) (request : Option Message) :
    Server.Carries x.server accepted [] ((x.depart request).1.server, (x.depart request).2) := by
  have hlogged : ∀ s : Server, Server.Passes s (s, (request.map fun request => Server.log .debug "request"
      [("seq", .number request.seq.toInt), ("command", .plain request.command)]).toList) := by
    intro s
    cases request with
    | none => exact .refl s
    | some request => exact (Server.Passes.refl s).log _
  have hleaving : ∀ session, x.server.slot = some session ∨ x.server.ending = some (.ok ()) →
      (none : Option Nat) = some session ∨ (some (.ok ()) : Option (Except ReadError Unit)) = some (.ok ()) :=
    fun _ _ => .inr rfl
  unfold depart
  cases hslot : x.server.slot with
  | none =>
    refine hordered.aside none (some (.ok ())) ?_ (by simp) (fun _ => rfl) hleaving fun session launch h => ?_
    · have hpasses := hlogged { x.server with slot := none, ending := some (.ok ()) }
      exact { hpasses with slot := hslot }
    · rw [hslot] at h
      cases h
  | some session =>
    dsimp only
    obtain ⟨launch, hfound⟩ := hordered.found (hordered.slot session hslot)
    have hsteady := @Session.steady_aside launch.session (hordered.stands session launch hfound).orderly .shutdown rfl rfl
    have hwithin : Server.Passes { x.server with slot := none, ending := some (.ok ()) }
        ({ x.server with slot := none, ending := some (.ok ()) }.within session (·.link (·.step .shutdown))) :=
      Server.within_passes session hordered.asked fun held hheld => by
        obtain rfl : launch = held := Option.some.inj (hfound.symm.trans hheld)
        exact hsteady
    refine hordered.aside none (some (.ok ())) ((hlogged _).append hwithin) (by simp) (fun _ => rfl) hleaving
      fun other held hother hheld => .inr ?_
    obtain rfl : session = other := Option.some.inj (hslot.symm.trans hother)
    refine Server.closed_of_within hheld hordered.asked hfound hsteady ?_
    rw [launch.session.link_connection]
    exact Connection.closed_of_step_shutdown launch.session.connection

/-- As the request loop begins to leave, the reading ends and nothing is said. -/
theorem depart_reserved (x : Strands) (request : Option Message) :
    Server.Reserved { x.server with ending := some (.ok ()) } ((x.depart request).1.server, (x.depart request).2) := by
  have hlogged : ∀ s : Server, Server.Reserved s (s, (request.map fun request => Server.log .debug "request"
      [("seq", .number request.seq.toInt), ("command", .plain request.command)]).toList) := by
    intro s
    cases request with
    | none => exact .refl s
    | some request => exact (Server.Reserved.refl s).log _
  unfold depart
  cases x.server.slot with
  | none => exact hlogged _
  | some session =>
    have hclosing : Server.Reserved { x.server with slot := none, ending := some (.ok ()) }
        ({ x.server with slot := none, ending := some (.ok ()) }.within session (·.link (·.step .shutdown))) :=
      Server.within_reserved _ session fun inner => inner.link_mute .shutdown
    have hboth := (hlogged _).append hclosing
    exact ⟨hboth.terminated, hboth.ending, hboth.news⟩

/-- The launch that a step begins, if there is one. -/
def accepts (x : Strands) : Step → List Message
  | .moves m => x.server.accepts m
  | _ => []

/-- What is made of pieces is no launch. -/
theorem accepts_of_inPieces (s : Server) {m : Server.Move} (hpieces : m.inPieces = true) : s.accepts m = [] := by
  cases m with
  | step action =>
    cases action with
    | receive message =>
      have hdeparts : ¬ (Server.Move.step (.receive message)).departs? = none := by
        intro hnone
        simp [Server.Move.inPieces, hnone] at hpieces
      refine if_neg ?_
      rintro ⟨-, -, hlaunch, -⟩
      refine hdeparts (if_neg ?_)
      rintro ⟨-, hcommand⟩
      rw [hcommand] at hlaunch
      cases hlaunch
    | _ => rfl
  | _ => rfl

/-- A step is a step for the launches, and begins one only while requests are read. -/
theorem Does.carries (hdoes : Does x step result) (hcomposed : Composed x accepted) :
    Server.Carries x.server accepted (x.accepts step) (result.1.server, result.2) ∧
      (result.1.server.ending = some (.ok ()) → x.accepts step = []) := by
  have hordered := hcomposed.ordered
  cases hdoes with
  | idles silent stays unable pieces =>
    have hnone : x.accepts step = [] := by
      cases step with
      | moves m =>
        cases hbroken : x.server.broken with
        | true => exact Server.accepts_of_ended (Server.ended_of_broken hbroken) m
        | false => exact accepts_of_inPieces x.server (pieces hbroken m rfl)
      | _ => rfl
    rw [hnone]
    exact ⟨hordered.passes (.refl _), fun _ => rfl⟩
  | rests => exact ⟨hordered.passes (.refl _), fun _ => rfl⟩
  | @acts m whole =>
    refine ⟨hordered.move m, ?_⟩
    intro hended
    have hbefore := (Server.move_apart hcomposed.free whole).left.1 hended
    exact Server.accepts_of_ended (by simp [hbefore]) m
  | @departs m request departs reading =>
    have hnone : x.accepts (.moves m) = [] := accepts_of_inPieces x.server (inPieces_of_departs departs)
    rw [hnone]
    exact ⟨depart_carries hordered _, fun _ => rfl⟩
  | reports pending => exact ⟨hordered.passes (x.server.say_passes _), fun _ => rfl⟩
  | hears idle listed hears =>
    obtain ⟨-, hhears, hsilent⟩ := Launched.hear_hears hears
    obtain ⟨hconnection, hrequest⟩ := hears_keeps hhears
    have hpasses := Server.setLaunch_passes listed hrequest fun horderly => by
      rw [hconnection]
      exact horderly.refl
    refine ⟨hordered.passes { hpasses with plain := fun _ => ?_ }, fun _ => rfl⟩
    simp [Plain, hsilent]
  | @hangsUp session request leaving =>
    have hpasses : Server.Passes x.server (x.server.within session (·.link (·.step .leave))) :=
      Server.within_passes session hordered.asked fun launch hfound =>
        @Session.steady_aside launch.session (hordered.stands session launch hfound).orderly .leave rfl rfl
    exact ⟨hordered.passes hpasses, fun _ => rfl⟩
  | @answers request leaving =>
    have hcommand := hcomposed.leaving _ request leaving rfl
    refine ⟨hordered.passes (Server.respond_passes x.server request true none none (.inr ?_)), fun _ => rfl⟩
    rw [hcommand]
    rfl
  | terminates leaving => exact ⟨hordered.passes (Server.terminate_passes x.server), fun _ => rfl⟩

theorem Does.composed (hdoes : Does x step result) (hcomposed : Composed x accepted) :
    Composed result.1 (accepted ++ x.accepts step) := by
  refine ⟨(hdoes.carries hcomposed).1.ordered, fun leaving request hleaving hrequest => ?_⟩
  cases hdoes with
  | idles | rests | reports | hears | acts => exact hcomposed.leaving leaving request hleaving hrequest
  | @departs m request' departs reading =>
    have hcommand : ∀ message, request' = some message → message.command = "disconnect" := by
      intro message h
      rcases departs_cases departs with ⟨other, -, -, hcommand, hother⟩ | ⟨-, hnone⟩
      · obtain rfl : message = other := Option.some.inj (h.symm.trans hother)
        exact hcommand
      · rw [hnone] at h
        cases h
    unfold depart at hleaving
    split at hleaving
    · obtain rfl := Option.some.inj hleaving
      exact hcommand request hrequest
    · obtain ⟨message, hmessage, rfl⟩ := Option.map_eq_some_iff.1 hleaving
      exact hcommand request (hmessage.trans hrequest)
  | hangsUp held =>
    obtain ⟨message, hmessage, rfl⟩ := Option.map_eq_some_iff.1 hleaving
    exact hcomposed.leaving _ request held (hmessage.trans hrequest)
  | answers held =>
    obtain rfl := Option.some.inj hleaving
    cases hrequest
  | terminates held => cases hleaving

/-! ## What becomes of the connections -/

/-- Whatever comes to an inbox is the last there, after some of what was there before. -/
theorem push_items (inbox : Inbox) (notification : Notification) : ∃ kept,
    (inbox.push notification).items = kept ++ [notification] ∧ ∀ other ∈ kept, other ∈ inbox.items := by
  unfold Inbox.push
  split
  · exact ⟨inbox.items, rfl, fun _ => id⟩
  · exact ⟨inbox.items.tail, rfl, fun _ => List.mem_of_mem_tail⟩

theorem mem_pushed {inbox : Inbox} {told : List Notification} {notification : Notification}
    (hmem : notification ∈ (told.foldl Inbox.push inbox).items) : notification ∈ inbox.items ∨ notification ∈ told := by
  induction told generalizing inbox with
  | nil => exact .inl hmem
  | cons first rest ih =>
    rw [List.mem_cons, ← or_assoc]
    refine (ih hmem).imp_left fun hpushed => ?_
    obtain ⟨kept, hitems, hkept⟩ := push_items inbox first
    rw [hitems, List.mem_append, List.mem_singleton] at hpushed
    exact hpushed.imp_left (hkept notification)

theorem hears_mem {launch heard : Launched} {kept : Bool} {lines : List Line} (hhears : launch.Hears kept heard lines)
    {notification : Notification} (hmem : notification ∈ heard.inbox.items) : notification ∈ launch.inbox.items := by
  cases hhears with
  | lagged behind => exact hmem
  | tidings caughtUp items | news caughtUp items | stops caughtUp items | gone caughtUp items =>
    rw [items]
    exact List.mem_cons_of_mem _ hmem

/-- That the connection is gone is the last thing in an inbox. -/
def LastWord (inbox : Inbox) : Prop :=
  ∀ notification ∈ inbox.items.dropLast, notification.isFarewell = false

theorem lastWord_push {inbox : Inbox} (hnone : ∀ notification ∈ inbox.items, notification.isFarewell = false)
    (notification : Notification) : LastWord (inbox.push notification) := by
  intro other hmem
  obtain ⟨kept, hitems, hkept⟩ := push_items inbox notification
  rw [hitems, List.dropLast_concat] at hmem
  exact hnone other (hkept other hmem)

theorem LastWord.hears {launch heard : Launched} {kept : Bool} {lines : List Line} (hlast : LastWord launch.inbox)
    (hhears : launch.Hears kept heard lines) : LastWord heard.inbox := by
  cases hhears with
  | lagged behind => exact hlast
  | @tidings first rest caughtUp items | @news payload rest caughtUp items | @stops payload rest caughtUp items
  | @gone error rest caughtUp items =>
    intro notification hmem
    refine hlast notification ?_
    rw [items, List.dropLast_cons_of_ne_nil fun h => by simp [h] at hmem]
    exact List.mem_cons_of_mem _ hmem

/-- Nothing comes after it. -/
theorem LastWord.rest {inbox : Inbox} (hlast : LastWord inbox) {error : Option String} {rest : List Notification}
    (hitems : inbox.items = .disconnected error :: rest) : rest = [] := by
  cases rest with
  | nil => rfl
  | cons next rest => exact absurd (hlast (.disconnected error) (by simp [hitems])) (by simp [Notification.isFarewell])

/-- What becomes of a session's connection in a step, and what there is in the inbox after it. -/
inductive Course (x : Strands) (step : Step) (session : Nat) (after : Launched) : Prop
  | begins (unseen : x.server.seen? session = none) (setup : ConnectionSetup)
      (connection : after.session.connection = { setup }) (items : after.inbox.items = [])
  | goesOn {before : Launched} {told : List Notification} (seen : x.server.seen? session = some before)
      (onward : before.session.connection.Onward after.session.connection told)
      (items : ∀ notification ∈ after.inbox.items, notification ∈ before.inbox.items ∨ notification ∈ told)
  | shuts {before : Launched} {m : Server.Move} {request : Option Message} (step : step = .moves m)
      (departs : m.departs? = some request) (reading : x.server.ending = none) (slot : x.server.slot = some session)
      (seen : x.server.seen? session = some before)
      (connection : after.session.connection = (before.session.connection.step .shutdown).1)

theorem Sight.course (hsight : Sight x step session result) {after : Launched}
    (hafter : result.1.server.seen? session = some after) : Course x step session after := by
  have hstays : ∀ {before : Launched}, x.server.seen? session = some before →
      after.session.connection = before.session.connection →
      (∀ notification ∈ after.inbox.items, notification ∈ before.inbox.items) → Course x step session after :=
    fun hseen hconnection hitems =>
      .goesOn hseen (.still (hconnection ▸ .refl _)) fun notification hmem => .inl (hitems notification hmem)
  cases hsight with
  | aside line silent seen =>
    generalize x.newsRead session step = told, hbefore : x.server.seen? session = before at seen
    rw [hafter] at seen
    cases seen with
    | rests => exact hstays hbefore rfl fun _ => id
    | begins setup connection inbox relaying => exact .begins hbefore setup connection (by rw [inbox]; rfl)
    | goesOn onward => exact .goesOn hbefore onward.connection fun notification hmem => mem_pushed hmem
  | shuts hstep departs reading slot line seen shut =>
    obtain rfl := Option.some.inj (hafter.symm.trans shut)
    refine .shuts hstep departs reading slot seen ?_
    exact Session.link_connection _ .shutdown
  | reports hstep pending left seen said => exact hstays (seen.symm.trans hafter) rfl fun _ => id
  | hears hstep idle seen relaying hears changed line silent =>
    obtain rfl := Option.some.inj (hafter.symm.trans changed)
    exact hstays seen (hears_keeps hears).1 fun _ => hears_mem hears

/-- A session that is seen stays so. -/
theorem Sight.seen (hsight : Sight x step session result) {before : Launched}
    (hseen : x.server.seen? session = some before) : ∃ after, result.1.server.seen? session = some after := by
  cases hsight with
  | aside line silent seen =>
    generalize x.newsRead session step = told, hafter : result.1.server.seen? session = after at seen
    rw [hseen] at seen
    cases seen with
    | rests => exact ⟨_, rfl⟩
    | goesOn onward => exact ⟨_, rfl⟩
  | shuts hstep departs reading slot line seen shut => exact ⟨_, shut⟩
  | reports hstep pending left seen said => exact ⟨before, seen.trans hseen⟩
  | hears hstep idle seen relaying hears changed line silent => exact ⟨_, changed⟩

/-- The reading ends well where the request loop begins to leave. -/
theorem Does.left (hdoes : Does x step result) (hcomposed : Composed x accepted) :
    result.1.server.ending = some (.ok ()) ↔ x.server.ending = some (.ok ()) ∨
      x.server.ending = none ∧ ∃ m request, step = .moves m ∧ m.departs? = some request := by
  have hstays : (result.1.server.ending = some (.ok ()) ↔ x.server.ending = some (.ok ())) →
      (x.server.ending = none → ∀ m, step = .moves m → m.departs? = none) →
      (result.1.server.ending = some (.ok ()) ↔ x.server.ending = some (.ok ()) ∨
        x.server.ending = none ∧ ∃ m request, step = .moves m ∧ m.departs? = some request) := by
    intro hsame hnever
    rw [hsame]
    refine ⟨.inl, fun h => h.resolve_right ?_⟩
    rintro ⟨hreading, m, request, hstep, hdeparts⟩
    rw [hnever hreading m hstep] at hdeparts
    cases hdeparts
  cases hdoes with
  | idles silent stays unable => exact hstays Iff.rfl stays
  | @acts m whole =>
    refine hstays (Server.move_apart hcomposed.free whole).left fun _ other h => ?_
    obtain rfl := Step.moves.inj h
    refine Option.eq_none_iff_forall_ne_some.2 fun request hdeparts => ?_
    rw [inPieces_of_departs hdeparts] at whole
    cases whole
  | @departs m request departs reading =>
    exact iff_of_true (x.depart_reserved request).ending (.inr ⟨reading, m, request, rfl, departs⟩)
  | reports pending => exact hstays (by rw [(x.server.say_passes _).ending]) fun _ _ h => by cases h
  | hears | rests => exact hstays Iff.rfl fun _ _ h => by cases h
  | @hangsUp session request leaving =>
    have hreserved := Server.within_reserved x.server session fun inner => inner.link_mute .leave
    exact hstays (by rw [hreserved.ending]) fun _ _ h => by cases h
  | answers leaving => exact hstays Iff.rfl fun _ _ h => by cases h
  | terminates leaving =>
    exact hstays (by rw [(Server.terminate_passes x.server).ending]) fun _ _ h => by cases h

/-- Debugging is over from before, or the request loop says so in this step, or a relay does. -/
theorem Does.terminated_cases (hdoes : Does x step result) (hcomposed : Composed x accepted)
    (hterminated : result.1.server.terminated = true) : x.server.terminated = true ∨
      step = .leaves ∧ x.leaving = some .terminates ∨
      ∃ session rest, step = .relays session ∧ x.line session = .terminated :: rest := by
  cases hdoes with
  | idles | hears | rests => exact .inl hterminated
  | acts whole => exact .inl ((Server.move_apart hcomposed.free whole).terminated.symm.trans hterminated)
  | departs departs reading => exact .inl ((x.depart_reserved _).terminated.symm.trans hterminated)
  | @reports session line rest pending =>
    cases line with
    | news news => exact .inl hterminated
    | output category line => exact .inl hterminated
    | terminated => exact .inr (.inr ⟨session, rest, rfl, pending⟩)
  | hangsUp leaving =>
    exact .inl ((Server.within_reserved _ _ fun inner => inner.link_mute .leave).terminated.symm.trans hterminated)
  | answers leaving => exact .inl hterminated
  | terminates leaving => exact .inr (.inl ⟨rfl, leaving⟩)

/-! ## The standing of sessions -/

/-- What holds while requests are read. -/
structure Reading (x : Strands) : Prop where
  quiet : x.leaving = none
  unshut : ∀ session launch, x.server.seen? session = some launch → launch.session.connection.Unshut
  held : ∀ session launch, x.server.seen? session = some launch → launch.session.connection.closed = true →
    x.server.slot = some session
  waiting : ∀ session launch, Assoc.find? session x.server.launches = some launch → launch.request.isSome →
    launch.session.connection.closed = false
  last : ∀ session launch, x.server.seen? session = some launch → LastWord launch.inbox
  relaying : ∀ session launch, x.server.seen? session = some launch → x.server.slot = some session →
    launch.session.connection.closed = false → launch.relaying = true
  emptied : ∀ session launch, x.server.seen? session = some launch → x.server.slot = some session →
    launch.relaying = false → launch.inbox.items = []
  /-- Debugging is over only where a connection is gone. -/
  terminated : x.server.terminated = true →
    ∃ session launch, x.server.seen? session = some launch ∧ launch.session.connection.closed = true

/-- No other session than this is there or may come about. -/
def Sole (x : Strands) (session : Nat) : Prop :=
  ∀ other launch, Assoc.find? other x.server.launches = some launch →
    launch.session.connection.Decided ∨ launch.request.isSome → other = session

/-- What holds between two steps. -/
structure Standing (x : Strands) : Prop where
  composed : ∃ accepted, Composed x accepted
  grounded : ∀ session launch, x.server.seen? session = some launch → launch.session.connection.Grounded
  reading : x.server.ending ≠ some (.ok ()) → Reading x
  sole : x.server.ending = some (.ok ()) → ∃ session, Sole x session
  /-- Who is told that a connection is gone finds it closed. -/
  told : ∀ session launch notification, x.server.seen? session = some launch → notification ∈ launch.inbox.items →
    notification.isFarewell = true → launch.session.connection.closed = true
  said : ∀ session, .terminated ∈ x.line session →
    ∃ launch, x.server.seen? session = some launch ∧ launch.session.connection.closed = true

/-- A session that is seen before a step is seen after it, and its connection was shut down or went on. -/
theorem Sight.kept (hsight : Sight x step session result) {before : Launched}
    (hseen : x.server.seen? session = some before) {P : Connection → Prop}
    (honward : ∀ {c' told}, before.session.connection.Onward c' told → P c')
    (hshut : P (before.session.connection.step .shutdown).1) :
    ∃ after, result.1.server.seen? session = some after ∧ P after.session.connection := by
  obtain ⟨after, hafter⟩ := hsight.seen hseen
  refine ⟨after, hafter, ?_⟩
  cases hsight.course hafter with
  | begins unseen setup connection items =>
    rw [hseen] at unseen
    cases unseen
  | goesOn seen onward items =>
    obtain rfl := Option.some.inj (hseen.symm.trans seen)
    exact honward onward
  | shuts hstep departs reading slot seen connection =>
    obtain rfl := Option.some.inj (hseen.symm.trans seen)
    exact connection ▸ hshut

/-- A closed connection stays closed. -/
theorem Sight.closed (hsight : Sight x step session result) {before : Launched}
    (hseen : x.server.seen? session = some before) (hclosed : before.session.connection.closed = true) :
    ∃ after, result.1.server.seen? session = some after ∧ after.session.connection.closed = true :=
  hsight.kept hseen (fun honward => honward.closed hclosed) (Connection.closed_of_step_shutdown _)

/-- An unanswered launch is that of a connection that was open before. -/
theorem Standing.opens (hstanding : Standing x) (hending : x.server.ending ≠ some (.ok ())) {session : Nat} {launch : Launched}
    (hfound : Assoc.find? session x.server.launches = some launch) (hrequest : launch.request.isSome) :
    launch.session.connection.closed = false ∧ launch.session.connection.state ≠ .connected := by
  obtain ⟨accepted, hcomposed⟩ := hstanding.composed
  exact ⟨(hstanding.reading hending).waiting session launch hfound hrequest,
    (hcomposed.ordered.stands session launch hfound).not_connected hrequest⟩

/-- While requests are read, only the session in the slot is there or may come about. -/
theorem Standing.sole_of_reading (hstanding : Standing x) (hending : x.server.ending ≠ some (.ok ())) :
    Sole x (x.server.slot.getD 0) := by
  obtain ⟨accepted, hcomposed⟩ := hstanding.composed
  intro other launch hfound hopen
  have hstands := hcomposed.ordered.stands other launch hfound
  have hslot : x.server.slot = some other := by
    rcases hopen with (hconnected | hclosed) | hsome
    · exact hstands.current (.inl hconnected)
    · exact (hstanding.reading hending).held other _ (Server.seen?_of_find? hfound) hclosed
    · exact (hstands.leaving hsome).resolve_right hending
  rw [hslot, Option.getD_some]

section

variable (hstanding : Standing x) (hdoes : Does x step result)
include hstanding hdoes

theorem Standing.grounded_step (session : Nat) (after : Launched)
    (hafter : result.1.server.seen? session = some after) : after.session.connection.Grounded := by
  obtain ⟨accepted, hcomposed⟩ := hstanding.composed
  have hone : ∀ before, x.server.seen? session = some before → before.session.connection.OneDial := by
    intro before hseen
    obtain ⟨launch, hfound, rfl⟩ := Server.find?_of_seen? hseen
    exact (hcomposed.ordered.stands session launch hfound).orderly.oneDial
  cases (hdoes.sight hcomposed.free session).course hafter with
  | begins unseen setup connection items => exact connection ▸ .fresh setup
  | goesOn seen onward items => exact onward.grounded (hstanding.grounded session _ seen) (hone _ seen)
  | shuts hstep departs reading slot seen connection =>
    exact connection ▸ (hstanding.grounded session _ seen).step (hone _ seen) .shutdown

theorem Standing.told_step (session : Nat) (after : Launched) (notification : Notification)
    (hafter : result.1.server.seen? session = some after) (hmem : notification ∈ after.inbox.items)
    (hfarewell : notification.isFarewell = true) : after.session.connection.closed = true := by
  obtain ⟨accepted, hcomposed⟩ := hstanding.composed
  cases (hdoes.sight hcomposed.free session).course hafter with
  | begins unseen setup connection items =>
    rw [items] at hmem
    cases hmem
  | goesOn seen onward items =>
    rcases items notification hmem with hbefore | htold
    · exact onward.closed (hstanding.told session _ notification seen hbefore hfarewell)
    · exact onward.closed_of_farewell htold hfarewell
  | shuts hstep departs reading slot seen connection =>
    rw [connection]
    exact Connection.closed_of_step_shutdown _

theorem Standing.said_step (session : Nat) (hmem : .terminated ∈ result.1.line session) :
    ∃ launch, result.1.server.seen? session = some launch ∧ launch.session.connection.closed = true := by
  obtain ⟨accepted, hcomposed⟩ := hstanding.composed
  have hsight := hdoes.sight hcomposed.free session
  have hbefore : .terminated ∈ x.line session → ∃ launch, result.1.server.seen? session = some launch ∧
      launch.session.connection.closed = true := by
    intro hmem
    obtain ⟨launch, hseen, hclosed⟩ := hstanding.said session hmem
    exact hsight.closed hseen hclosed
  cases hsight with
  | aside line silent seen => exact hbefore (line ▸ hmem)
  | shuts hstep departs reading slot line seen shut => exact hbefore (line ▸ hmem)
  | reports hstep pending left seen said =>
    refine hbefore ?_
    rw [pending]
    exact List.mem_cons_of_mem _ (left ▸ hmem)
  | @hears launch heard lines hstep idle seen relaying hears changed line silent =>
    rw [line] at hmem
    refine ⟨heard, changed, ?_⟩
    rw [(hears_keeps hears).1]
    cases hears with
    | lagged | stops => cases hmem
    | tidings caughtUp items other goesOn => exact absurd hmem (launch.terminated_not_mem_report goesOn)
    | news caughtUp items isKept => exact absurd hmem (launch.terminated_not_mem_report rfl)
    | @gone error rest caughtUp items =>
      exact hstanding.told session launch (.disconnected error) seen (items ▸ List.mem_cons_self ..) rfl

/-- What is left of the reading after a step that does not end it. -/
theorem Standing.reading_before (hending : result.1.server.ending ≠ some (.ok ())) :
    Reading x ∧ ∀ m request, step = .moves m → m.departs? = some request → x.server.ending ≠ none := by
  obtain ⟨accepted, hcomposed⟩ := hstanding.composed
  rw [ne_eq, hdoes.left hcomposed, not_or] at hending
  refine ⟨hstanding.reading hending.1, fun m request hstep hdeparts hreading => ?_⟩
  exact hending.2 ⟨hreading, m, request, hstep, hdeparts⟩

/-- While requests are read, a connection that is closed in a step had come about. -/
theorem Standing.closes (hending : result.1.server.ending ≠ some (.ok ())) {session : Nat} {after : Launched}
    (hafter : result.1.server.seen? session = some after) (hclosed : after.session.connection.closed = true) :
    ∃ before, x.server.seen? session = some before ∧ x.server.slot = some session ∧
      (before.session.connection.closed = true ∨ before.session.connection.state = .connected) := by
  obtain ⟨accepted, hcomposed⟩ := hstanding.composed
  obtain ⟨hreading, hstays⟩ := hstanding.reading_before hdoes hending
  cases (hdoes.sight hcomposed.free session).course hafter with
  | begins unseen setup connection items => simp [connection] at hclosed
  | @goesOn before told seen onward items =>
    cases hopen : before.session.connection.closed with
    | true => exact ⟨before, seen, hreading.held session before seen hopen, .inl hopen⟩
    | false =>
      obtain ⟨hconnected, -⟩ := onward.loses (hstanding.grounded session before seen) hopen hclosed
      obtain ⟨launch, hfound, rfl⟩ := Server.find?_of_seen? seen
      exact ⟨_, seen, (hcomposed.ordered.stands session launch hfound).current (.inl hconnected), .inr hconnected⟩
  | shuts hstep departs reading slot seen connection => exact absurd reading (hstays _ _ hstep departs)

/-- As long as a connection is not shut down, nothing is told after that it is gone. -/
theorem Standing.last_step (hending : result.1.server.ending ≠ some (.ok ())) (session : Nat) (after : Launched)
    (hafter : result.1.server.seen? session = some after) : LastWord after.inbox := by
  obtain ⟨accepted, hcomposed⟩ := hstanding.composed
  obtain ⟨hreading, hstays⟩ := hstanding.reading_before hdoes hending
  cases hdoes.sight hcomposed.free session with
  | aside line silent seen =>
    generalize x.newsRead session step = told, hbefore : x.server.seen? session = before at seen
    rw [hafter] at seen
    cases seen with
    | rests => exact hreading.last session after hbefore
    | begins setup connection inbox relaying =>
      rw [inbox]
      exact fun notification hmem => by cases hmem
    | @goesOn launch result news onward =>
      have hlast := hreading.last session launch hbefore
      cases hclosed : launch.session.connection.closed with
      | true =>
        have hended := hreading.unshut session launch hbefore hclosed
        rw [Launched.after, (onward.connection.ended hended).2]
        exact hlast
      | false =>
        have hnone : ∀ notification ∈ launch.inbox.items, notification.isFarewell = false := fun notification hmem =>
          Bool.eq_false_iff.2 fun hfarewell => by
            simp [hstanding.told session launch notification hbefore hmem hfarewell] at hclosed
        rw [Launched.after]
        rcases onward.connection.told_cases with htold | ⟨notification, htold⟩
        · rw [htold]
          exact hlast
        · rw [htold]
          exact lastWord_push hnone notification
  | shuts hstep departs reading slot line seen shut => exact absurd reading (hstays _ _ hstep departs)
  | reports hstep pending left seen said => exact hreading.last session after (seen.symm.trans hafter)
  | hears hstep idle seen relaying hears changed line silent =>
    obtain rfl := Option.some.inj (hafter.symm.trans changed)
    exact (hreading.last session _ seen).hears hears

/-- Who is in the slot was there before, or begins. -/
theorem Standing.slot_before (hslot : result.1.server.slot = some session) :
    x.server.slot = some session ∨ x.server.seen? session = none := by
  obtain ⟨accepted, hcomposed⟩ := hstanding.composed
  obtain ⟨hcarries, -⟩ := hdoes.carries hcomposed
  cases hcarries.slot with
  | stays same => exact .inl (same.symm.trans hslot)
  | taken vacant slot =>
    obtain rfl := Option.some.inj (slot.symm.trans hslot)
    exact .inr hcomposed.free
  | failed held listed unanswered slot => cases slot.symm.trans hslot
  | left slot ended => cases slot.symm.trans hslot

/-- The relay of the session in the slot goes on until the connection is gone. -/
theorem Standing.relaying_step (hending : result.1.server.ending ≠ some (.ok ())) (session : Nat) (after : Launched)
    (hafter : result.1.server.seen? session = some after) (hslot : result.1.server.slot = some session)
    (hopen : after.session.connection.closed = false) : after.relaying = true := by
  obtain ⟨accepted, hcomposed⟩ := hstanding.composed
  obtain ⟨hreading, hstays⟩ := hstanding.reading_before hdoes hending
  have hsight := hdoes.sight hcomposed.free session
  have hbefore : ∀ launch, x.server.seen? session = some launch → x.server.slot = some session ∧
      launch.relaying = true := by
    intro launch hseen
    have hheld : x.server.slot = some session :=
      (hstanding.slot_before hdoes hslot).resolve_right (by simp [hseen])
    refine ⟨hheld, hreading.relaying session launch hseen hheld (Bool.eq_false_iff.2 fun hclosed => ?_)⟩
    obtain ⟨found, hfound, hclosed⟩ := hsight.closed hseen hclosed
    obtain rfl := Option.some.inj (hafter.symm.trans hfound)
    simp [hclosed] at hopen
  cases hsight with
  | aside line silent seen =>
    generalize x.newsRead session step = told, hseen : x.server.seen? session = before at seen
    rw [hafter] at seen
    cases seen with
    | rests => exact (hbefore after hseen).2
    | begins setup connection inbox relaying => exact relaying
    | goesOn onward => exact (hbefore _ hseen).2
  | shuts hstep departs reading slot line seen shut => exact absurd reading (hstays _ _ hstep departs)
  | reports hstep pending left seen said => exact (hbefore after (seen.symm.trans hafter)).2
  | @hears launch heard lines hstep idle seen relaying hears changed line silent =>
    obtain rfl := Option.some.inj (hafter.symm.trans changed)
    cases hears with
    | lagged | tidings | news => exact relaying
    | stops caughtUp items notKept => simp [keeps, Server.keeps, (hbefore launch seen).1] at notKept
    | @gone error rest caughtUp items =>
      have hclosed := hstanding.told session launch (.disconnected error) seen (items ▸ List.mem_cons_self ..) rfl
      exact absurd hopen (by simp [hclosed])

/-- The relay of the session in the slot stops only where its inbox is empty, which then stays so. -/
theorem Standing.emptied_step (hending : result.1.server.ending ≠ some (.ok ())) (session : Nat) (after : Launched)
    (hafter : result.1.server.seen? session = some after) (hslot : result.1.server.slot = some session)
    (hstopped : after.relaying = false) : after.inbox.items = [] := by
  obtain ⟨accepted, hcomposed⟩ := hstanding.composed
  obtain ⟨hreading, hstays⟩ := hstanding.reading_before hdoes hending
  have hheld : ∀ launch, x.server.seen? session = some launch → x.server.slot = some session :=
    fun launch hseen => (hstanding.slot_before hdoes hslot).resolve_right (by simp [hseen])
  have hbefore : ∀ launch, x.server.seen? session = some launch → launch.relaying = false → launch.inbox.items = [] :=
    fun launch hseen => hreading.emptied session launch hseen (hheld launch hseen)
  have hgoing : ∀ {launch heard : Launched}, launch.relaying = true → after = heard → heard.relaying = launch.relaying →
      after.inbox.items = [] := by
    rintro launch heard hrelaying rfl hsame
    rw [hsame, hrelaying] at hstopped
    cases hstopped
  cases hdoes.sight hcomposed.free session with
  | aside line silent seen =>
    generalize x.newsRead session step = told, hseen : x.server.seen? session = before at seen
    rw [hafter] at seen
    cases seen with
    | rests => exact hbefore after hseen hstopped
    | begins setup connection inbox relaying => simp [relaying] at hstopped
    | @goesOn launch result news onward =>
      have hclosed : launch.session.connection.closed = true := by
        by_contra hopen
        have hrelaying := hreading.relaying session launch hseen (hheld launch hseen) (by simpa using hopen)
        simp [Launched.after, hrelaying] at hstopped
      rw [Launched.after, (onward.connection.ended (hreading.unshut session launch hseen hclosed)).2]
      exact hbefore launch hseen hstopped
  | shuts hstep departs reading slot line seen shut => exact absurd reading (hstays _ _ hstep departs)
  | reports hstep pending left seen said => exact hbefore after (seen.symm.trans hafter) hstopped
  | @hears launch heard lines hstep idle seen relaying hears changed line silent =>
    have heq := Option.some.inj (hafter.symm.trans changed)
    cases hears with
    | lagged | tidings | news => exact hgoing relaying heq rfl
    | stops caughtUp items notKept => simp [keeps, Server.keeps, hheld launch seen] at notKept
    | @gone error rest caughtUp items =>
      subst heq
      exact (hreading.last session launch seen).rest items

theorem Standing.reading_step (hending : result.1.server.ending ≠ some (.ok ())) : Reading result.1 := by
  obtain ⟨accepted, hcomposed⟩ := hstanding.composed
  obtain ⟨hcarries, -⟩ := hdoes.carries hcomposed
  obtain ⟨hreading, hstays⟩ := hstanding.reading_before hdoes hending
  have hbefore : x.server.ending ≠ some (.ok ()) := fun h => hending ((hdoes.left hcomposed).2 (.inl h))
  refine {
    quiet := ?_
    unshut := ?_
    held := ?_
    waiting := ?_
    last := hstanding.last_step hdoes hending
    relaying := hstanding.relaying_step hdoes hending
    emptied := hstanding.emptied_step hdoes hending
    terminated := ?_ }
  · have hquiet := hreading.quiet
    cases hdoes with
    | departs departs reading => exact absurd reading (hstays _ _ rfl departs)
    | hangsUp leaving | answers leaving | terminates leaving => cases hquiet.symm.trans leaving
    | _ => exact hquiet
  · intro session after hafter
    cases (hdoes.sight hcomposed.free session).course hafter with
    | begins unseen setup connection items => exact connection ▸ .fresh setup
    | goesOn seen onward items =>
      exact onward.unshut (hreading.unshut session _ seen) (hstanding.grounded session _ seen)
    | shuts hstep departs reading slot seen connection => exact absurd reading (hstays _ _ hstep departs)
  · intro session after hafter hclosed
    obtain ⟨before, hseen, hslot, hwas⟩ := hstanding.closes hdoes hending hafter hclosed
    cases hcarries.slot with
    | stays same => exact same.trans hslot
    | taken vacant slot =>
      rw [hslot] at vacant
      cases vacant
    | failed held listed unanswered slot =>
      -- Whoever has failed was neither connected nor closed.
      obtain rfl := Option.some.inj (hslot.symm.trans held)
      obtain ⟨hopen, hearly⟩ := hstanding.opens hbefore listed unanswered
      obtain rfl := Option.some.inj (hseen.symm.trans (Server.seen?_of_find? listed))
      rcases hwas with hclosed | hconnected
      · rw [hopen] at hclosed
        cases hclosed
      · exact absurd hconnected hearly
    | left slot ended => exact absurd ended hending
  · intro session after hfound hrequest
    refine Bool.eq_false_iff.2 fun hclosed => ?_
    obtain ⟨before, hseen, hslot, hwas⟩ :=
      hstanding.closes hdoes hending (Server.seen?_of_find? hfound) hclosed
    obtain ⟨launch, hlisted, rfl⟩ := Server.find?_of_seen? hseen
    rcases hcarries.unanswered hcomposed.ordered (.inr ⟨after, hfound, hrequest⟩) with hbelow | ⟨held, hheld, hsome⟩
    · exact absurd (hcomposed.ordered.below hlisted) (Nat.not_lt.2 hbelow)
    · obtain ⟨hopen, hearly⟩ := hstanding.opens hbefore hheld hsome
      obtain rfl := Option.some.inj (hlisted.symm.trans hheld)
      rcases hwas with hclosed | hconnected
      · exact absurd (hopen.symm.trans hclosed) (by simp)
      · exact absurd hconnected hearly
  · intro hterminated
    have hkept : x.server.terminated = true → ∃ session launch, result.1.server.seen? session = some launch ∧
        launch.session.connection.closed = true := by
      intro h
      obtain ⟨session, launch, hseen, hclosed⟩ := hreading.terminated h
      exact ⟨session, (hdoes.sight hcomposed.free session).closed hseen hclosed⟩
    rcases hdoes.terminated_cases hcomposed hterminated with hwas | ⟨-, hleaving⟩ | ⟨session, rest, -, hline⟩
    · exact hkept hwas
    · cases hreading.quiet.symm.trans hleaving
    · obtain ⟨launch, hseen, hclosed⟩ := hstanding.said session (hline ▸ List.mem_cons_self ..)
      exact ⟨session, (hdoes.sight hcomposed.free session).closed hseen hclosed⟩

/-- Who is there or may come about after a step was so before, or begins just then, or is shut down. -/
theorem Standing.decided_before {other : Nat} {after : Launched}
    (hfound : Assoc.find? other result.1.server.launches = some after)
    (hopen : after.session.connection.Decided ∨ after.request.isSome) :
    x.server.launched ≤ other ∨
      (∃ launch, Assoc.find? other x.server.launches = some launch ∧
        (launch.session.connection.Decided ∨ launch.request.isSome)) ∨
      x.server.ending = none ∧ x.server.slot = some other := by
  obtain ⟨accepted, hcomposed⟩ := hstanding.composed
  obtain ⟨hcarries, -⟩ := hdoes.carries hcomposed
  have hstill : ∀ launch, Assoc.find? other x.server.launches = some launch → launch.session.connection.Decided →
      x.server.launched ≤ other ∨ (∃ launch, Assoc.find? other x.server.launches = some launch ∧
        (launch.session.connection.Decided ∨ launch.request.isSome)) ∨ x.server.ending = none ∧
          x.server.slot = some other := fun launch hfound hdecided => .inr (.inl ⟨launch, hfound, .inl hdecided⟩)
  rcases hopen with (hconnected | hclosed) | hsome
  · have hthere : result.1.server.isConnected other = true := (Server.isConnected_of_find? hfound).2 hconnected
    by_cases hwas : x.server.isConnected other = true
    · obtain ⟨launch, hlisted, hconnected⟩ := (Option.any_eq_true _ _).1 hwas
      exact hstill launch hlisted (.inl (by simpa using hconnected))
    · rcases hcarries.welcomed with ⟨-, hnone⟩ | ⟨session, launch, request, hlisted, hrequest, -, hone⟩
      · exact absurd (hnone other hthere) hwas
      · obtain rfl := (hone other).1 (by simp [hthere, hwas])
        exact .inr (.inl ⟨launch, hlisted, .inr (by rw [hrequest]; rfl)⟩)
  · cases (hdoes.sight hcomposed.free other).course (Server.seen?_of_find? hfound) with
    | begins unseen setup connection items =>
      rw [show after.session.connection = _ from connection] at hclosed
      cases hclosed
    | @goesOn before told seen onward items =>
      obtain ⟨launch, hlisted, rfl⟩ := Server.find?_of_seen? seen
      refine hstill launch hlisted ?_
      cases hwas : launch.session.connection.closed with
      | true => exact .inr hwas
      | false => exact .inl (onward.loses (hstanding.grounded other _ seen) hwas hclosed).1
    | shuts hstep departs reading slot seen connection => exact .inr (.inr ⟨reading, slot⟩)
  · rcases hcarries.unanswered hcomposed.ordered (.inr ⟨after, hfound, hsome⟩) with hbelow | ⟨launch, hlisted, hsome⟩
    · exact .inl hbelow
    · exact .inr (.inl ⟨launch, hlisted, .inr hsome⟩)

/-- Once there can be no other session, there will be none. -/
theorem Standing.sole_step {session : Nat} (hsole : Sole x session)
    (hslot : x.server.ending = none → ∀ other, x.server.slot = some other → other = session)
    (hended : result.1.server.ending = some (.ok ())) : Sole result.1 session := by
  obtain ⟨accepted, hcomposed⟩ := hstanding.composed
  obtain ⟨hcarries, hmore⟩ := hdoes.carries hcomposed
  intro other after hfound hopen
  rcases hstanding.decided_before hdoes hfound hopen with hbelow | ⟨launch, hlisted, hwas⟩ | ⟨hreading, hheld⟩
  · have hlisted := hcarries.ordered.below hfound
    rw [hcarries.ordered.launched, hmore hended, List.append_nil, ← hcomposed.ordered.launched] at hlisted
    exact absurd hlisted (Nat.not_lt.2 hbelow)
  · exact hsole other launch hlisted hwas
  · exact hslot hreading other hheld

theorem Standing.after : Standing result.1 := by
  obtain ⟨accepted, hcomposed⟩ := hstanding.composed
  refine {
    composed := ⟨_, hdoes.composed hcomposed⟩
    grounded := hstanding.grounded_step hdoes
    reading := hstanding.reading_step hdoes
    sole := fun hended => ?_
    told := hstanding.told_step hdoes
    said := hstanding.said_step hdoes }
  rcases (hdoes.left hcomposed).1 hended with hbefore | ⟨hreading, -⟩
  · obtain ⟨session, hsole⟩ := hstanding.sole hbefore
    exact ⟨session, hstanding.sole_step hdoes hsole (fun hreading => by simp [hreading] at hbefore) hended⟩
  · refine ⟨_, hstanding.sole_step hdoes (hstanding.sole_of_reading (by simp [hreading])) (fun _ other hheld => ?_) hended⟩
    rw [hheld, Option.getD_some]

end

theorem Standing.start (defaults : ServerSettings) (files : FileTree) : Standing { server := { defaults, files } } where
  composed := ⟨[], .fresh defaults files⟩
  grounded session launch h := by cases h
  reading _ :=
    { quiet := rfl
      unshut := fun session launch h => by cases h
      held := fun session launch h => by cases h
      waiting := fun session launch h => by cases h
      last := fun session launch h => by cases h
      relaying := fun session launch h => by cases h
      emptied := fun session launch h => by cases h
      terminated := fun h => by cases h }
  sole h := by cases h
  told session launch notification h := by cases h
  said session h := by cases h

theorem Standing.exists_sole (hstanding : Standing x) : ∃ session, Sole x session := by
  by_cases hending : x.server.ending = some (.ok ())
  · exact hstanding.sole hending
  · exact ⟨_, hstanding.sole_of_reading hending⟩

/-- There are no two closed connections. -/
theorem Standing.unique (hstanding : Standing x) {session other : Nat} {launch held : Launched}
    (hseen : x.server.seen? session = some launch) (hclosed : launch.session.connection.closed = true)
    (hother : x.server.seen? other = some held) (hgone : held.session.connection.closed = true) : other = session := by
  obtain ⟨sole, hsole⟩ := hstanding.exists_sole
  obtain ⟨found, hfound, rfl⟩ := Server.find?_of_seen? hseen
  obtain ⟨found', hfound', rfl⟩ := Server.find?_of_seen? hother
  rw [hsole session found hfound (.inl (.inr hclosed))]
  exact hsole other found' hfound' (.inl (.inr hgone))

theorem Standing.run (hstanding : Standing x) (steps : List Step) : Standing (x.run steps).1 := by
  induction steps generalizing x with
  | nil => exact hstanding
  | cons step steps ih => exact ih (hstanding.after (x.step_does step))

end

end Strands

end DebugBridge.Adapter
