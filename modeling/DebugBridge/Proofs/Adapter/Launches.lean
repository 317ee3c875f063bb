import DebugBridge.Proofs.Adapter.Ending
import DebugBridge.Proofs.Adapter.Passing

/-!
# Where launches stand

A launch takes the slot before there is a connection. It is unanswered just as long as it waits for its task or is
dialled for; as its dial ends it is answered, and where there is no connection then the slot is emptied. Each step passes
the launches by, begins one, or begins or ends the dial of one.
-/

namespace DebugBridge.Adapter

open Debugger (Session SessionEffect linked)

/-! ## What is seen of launches -/

/-- What is sent where some launches have connected: each in turn gets its success response, with `initialized` right
after it, and neither is sent otherwise. -/
inductive Welcomes : List Message → List Outgoing → Prop
  | nil : Welcomes [] []
  | other {launches : List Message} {sent : List Outgoing} {message : Outgoing} (plain : message.welcomes = false)
      (rest : Welcomes launches sent) : Welcomes launches (message :: sent)
  | welcome {launches : List Message} {sent : List Outgoing} {request : Message} {response : Response} {news : News}
      (answers : Server.Answers response request) (success : response.success = true)
      (event : news.event = "initialized") (rest : Welcomes launches sent) :
      Welcomes (request :: launches) (.response response :: .news news :: sent)

theorem Welcomes.of_plain {sent : List Outgoing} (hplain : ∀ message ∈ sent, message.welcomes = false) :
    Welcomes [] sent := by
  induction sent with
  | nil => exact .nil
  | cons message rest ih =>
    have hrest := ih fun other hmem => hplain other (List.mem_cons_of_mem _ hmem)
    exact .other (hplain message (List.mem_cons_self ..)) hrest

theorem Welcomes.append {launches later : List Message} {sent more : List Outgoing} (hfirst : Welcomes launches sent)
    (hlater : Welcomes later more) : Welcomes (launches ++ later) (sent ++ more) := by
  induction hfirst with
  | nil => exact hlater
  | other plain _ ih => exact .other plain ih
  | welcome answers success event _ ih => exact .welcome answers success event ih

namespace Server

/-- Whether a session is there: its connection has come about and was not closed since. -/
def isConnected (s : Server) (session : Nat) : Bool :=
  (Assoc.find? session s.launches).any (·.session.connection.state == .connected)

/-- What has become of an unanswered launch after a step. -/
inductive Fate (session : Nat) (request : Message) (result : Server × List ServerEffect) : Prop
  /-- It is still being connected. -/
  | waits {launch : Launched} (listed : Assoc.find? session result.1.launches = some launch)
      (unanswered : launch.request = some request)
      (trying : session ∈ toConnect result.1.tasks ∨ launch.session.connection.dials ≠ [])
      (state : launch.session.connection.state ≠ .connected)
  /-- It has connected. -/
  | connects {launch : Launched} {response : Response} {news : News}
      (listed : Assoc.find? session result.1.launches = some launch) (answered : launch.request = none)
      (state : launch.session.connection.state = .connected) (slot : result.1.slot = some session)
      (sent : Loop.sent result.2 = [.response response, .news news]) (answers : Answers response request)
      (success : response.success = true) (event : news.event = "initialized")
  /-- It has failed. -/
  | fails {launch : Launched} {response : Response}
      (listed : Assoc.find? session result.1.launches = some launch) (answered : launch.request = none)
      (finished : session ∉ toConnect result.1.tasks ∧ launch.session.connection.dials = [])
      (state : launch.session.connection.state ≠ .connected) (slot : result.1.slot = none)
      (sent : Loop.sent result.2 = [.response response]) (answers : Answers response request)
      (failure : response.success = false)

/-! ## Where launches stand -/

/-- Where a launch stands between two moves, given those that were accepted so far. -/
structure Stands (s : Server) (accepted : List Message) (session : Nat) (launch : Launched) : Prop where
  orderly : launch.session.connection.Orderly
  fresh : session ∈ toConnect s.tasks → launch.session.connection.dials = [] ∧
    (launch.session.connection.state = .connecting ∨ launch.session.connection.closed = true)
  /-- It is unanswered as long as it waits for its task or is dialled for. -/
  unanswered : launch.request.isSome ↔ session ∈ toConnect s.tasks ∨ launch.session.connection.dials ≠ []
  request : ∀ request, launch.request = some request → accepted[session]? = some request
  /-- The session that is there, or that may still come about, is in the slot. -/
  current : launch.session.connection.state = .connected ∨
    launch.request.isSome ∧ launch.session.connection.closed = false → s.slot = some session
  leaving : launch.request.isSome → s.slot = some session ∨ s.ending = some (.ok ())

/-- What holds between two moves. -/
structure Ordered (s : Server) (accepted : List Message) : Prop where
  launched : s.launched = accepted.length
  listed : ∀ session, (Assoc.find? session s.launches).isSome ↔ session < s.launched
  stands : ∀ session launch, Assoc.find? session s.launches = some launch → Stands s accepted session launch
  slot : ∀ session, s.slot = some session → session < s.launched
  tasks : ∀ session ∈ toConnect s.tasks, session < s.launched
  once : (toConnect s.tasks).Nodup
  asked : s.AskedApart
  ended : s.ending = some (.ok ()) → s.slot = none

/-- What becomes of the slot in a move: it is emptied from an unanswered launch, or as the reading ends. -/
inductive SlotStep (s s' : Server) : Prop
  | stays (same : s'.slot = s.slot)
  | taken (vacant : s.slot = none) (slot : s'.slot = some s.launched)
  | failed {session : Nat} {launch : Launched} (held : s.slot = some session)
      (listed : Assoc.find? session s.launches = some launch) (unanswered : launch.request.isSome)
      (slot : s'.slot = none)
  | left (slot : s'.slot = none) (ended : s'.ending = some (.ok ()))

/-- What a move does to the launches, and what it begins. -/
structure Carries (s : Server) (accepted more : List Message) (result : Server × List ServerEffect) : Prop where
  ordered : Ordered result.1 (accepted ++ more)
  fate : ∀ session launch request, Assoc.find? session s.launches = some launch → launch.request = some request →
    Fate session request result
  /-- Who was answered is not answered again. -/
  answered : ∀ session launch, Assoc.find? session s.launches = some launch → launch.request = none →
    ∃ launch, Assoc.find? session result.1.launches = some launch ∧ launch.request = none
  grown : s.launched ≤ result.1.launched
  slot : SlotStep s result.1
  /-- No session comes about, and no one is welcomed; or both happen, for the same session. -/
  welcomed : Plain result.2 ∧ (∀ session, result.1.isConnected session = true → s.isConnected session = true) ∨
    ∃ session launch request, Assoc.find? session s.launches = some launch ∧ launch.request = some request ∧
      Welcomes [request] (Loop.sent result.2) ∧
      ∀ other, (result.1.isConnected other && !s.isConnected other) = true ↔ other = session

section

variable {s : Server} {accepted : List Message} {session : Nat} {launch : Launched}

/-- An unanswered launch is not connected. -/
theorem Stands.not_connected (hstands : Stands s accepted session launch) (hrequest : launch.request.isSome) :
    launch.session.connection.state ≠ .connected := by
  rcases hstands.unanswered.1 hrequest with htask | hdialing
  · exact hstands.orderly.not_connected (hstands.fresh htask).2
  · exact hstands.orderly.not_connected (hstands.orderly.oneDial.early hdialing)

theorem Stands.trying (hstands : Stands s accepted session launch) {request : Message}
    (hrequest : launch.request = some request) :
    session ∈ toConnect s.tasks ∨ launch.session.connection.dials ≠ [] :=
  hstands.unanswered.1 (by rw [hrequest]; rfl)

theorem isConnected_of_find? (hfound : Assoc.find? session s.launches = some launch) :
    s.isConnected session = true ↔ launch.session.connection.state = .connected := by
  simp [isConnected, hfound]

theorem Ordered.below (hordered : Ordered s accepted) (hfound : Assoc.find? session s.launches = some launch) :
    session < s.launched :=
  (hordered.listed session).1 (by rw [hfound]; rfl)

theorem Ordered.found (hordered : Ordered s accepted) (hbelow : session < s.launched) :
    ∃ launch, Assoc.find? session s.launches = some launch :=
  Option.isSome_iff_exists.1 ((hordered.listed session).2 hbelow)

theorem Ordered.fresh (defaults : ServerSettings) (files : FileTree) : Ordered { defaults, files } [] where
  launched := rfl
  listed session := by simp
  stands session launch h := by cases h
  slot session h := by cases h
  tasks session h := by cases h
  once := List.nodup_nil
  asked operation asked h := by cases h
  ended h := by cases h

/-! ## Steps that pass the launches by -/

/-- A launch after such a step is one from before it. -/
theorem Passes.back {result : Server × List ServerEffect} (hpasses : Passes s result)
    (horderly : ∀ session launch, Assoc.find? session s.launches = some launch → launch.session.connection.Orderly)
    {changed : Launched} (hchanged : Assoc.find? session result.1.launches = some changed) :
    ∃ launch, Assoc.find? session s.launches = some launch ∧ changed.request = launch.request ∧
      launch.session.connection.Steady (changed.session.connection, []) := by
  cases hfound : Assoc.find? session s.launches with
  | none =>
    rw [hpasses.unlisted session hfound] at hchanged
    cases hchanged
  | some launch =>
    obtain ⟨found, hfound', hsame⟩ := hpasses.listed session launch hfound (horderly session launch hfound)
    obtain rfl : changed = found := Option.some.inj (hchanged.symm.trans hfound')
    exact ⟨launch, rfl, hsame⟩

theorem Passes.isConnected {result : Server × List ServerEffect} (hpasses : Passes s result)
    (horderly : ∀ session launch, Assoc.find? session s.launches = some launch → launch.session.connection.Orderly)
    (hconnected : result.1.isConnected session = true) : s.isConnected session = true := by
  cases hchanged : Assoc.find? session result.1.launches with
  | none => simp [Server.isConnected, hchanged] at hconnected
  | some changed =>
    obtain ⟨launch, hfound, -, hsteady⟩ := hpasses.back horderly hchanged
    exact (isConnected_of_find? hfound).2 (hsteady.connected ((isConnected_of_find? hchanged).1 hconnected))

/-- Both launches and sessions stay what they are, while the slot may be emptied and the reading end. -/
theorem Ordered.aside (hordered : Ordered s accepted) (slot : Option Nat) (ending : Option (Except ReadError Unit))
    {result : Server × List ServerEffect} (hpasses : Passes { s with slot, ending } result)
    (hslot : ∀ session, slot = some session → s.slot = some session) (hended : ending = some (.ok ()) → slot = none)
    (hleaving : ∀ session, s.slot = some session ∨ s.ending = some (.ok ()) →
      slot = some session ∨ ending = some (.ok ()))
    (hcurrent : ∀ session launch, s.slot = some session → Assoc.find? session result.1.launches = some launch →
      slot = some session ∨ launch.session.connection.closed = true) : Carries s accepted [] result := by
  have horderly : ∀ session launch, Assoc.find? session s.launches = some launch →
      launch.session.connection.Orderly := fun session launch hfound => (hordered.stands session launch hfound).orderly
  have hback : ∀ {session : Nat} {changed : Launched}, Assoc.find? session result.1.launches = some changed →
      ∃ launch, Assoc.find? session s.launches = some launch ∧ changed.request = launch.request ∧
        launch.session.connection.Steady (changed.session.connection, []) := hpasses.back horderly
  have hforth : ∀ {session : Nat} {launch : Launched}, Assoc.find? session s.launches = some launch →
      ∃ changed, Assoc.find? session result.1.launches = some changed ∧ changed.request = launch.request :=
    fun {session launch} hfound =>
      let ⟨changed, hchanged, hrequest, _⟩ :=
        hpasses.listed session launch hfound (horderly session launch hfound)
      ⟨changed, hchanged, hrequest⟩
  have hafter : Ordered result.1 (accepted ++ []) := by
    rw [List.append_nil]
    refine {
      launched := hpasses.launched.trans hordered.launched
      listed := fun session => ?_
      stands := fun session changed hchanged => ?_
      slot := fun session h => ?_
      tasks := fun session h => ?_
      once := hpasses.connects ▸ hordered.once
      asked := hpasses.asked hordered.asked
      ended := fun h => hpasses.slot.trans (hended (hpasses.ending.symm.trans h)) }
    · rw [hpasses.launched]
      refine Iff.trans ⟨fun h => ?_, fun h => ?_⟩ (hordered.listed session)
      · obtain ⟨changed, hchanged⟩ := Option.isSome_iff_exists.1 h
        obtain ⟨launch, hfound, -⟩ := hback hchanged
        rw [hfound]
        rfl
      · obtain ⟨launch, hfound⟩ := Option.isSome_iff_exists.1 h
        obtain ⟨changed, hchanged, -⟩ := hforth hfound
        rw [hchanged]
        rfl
    · obtain ⟨launch, hfound, hrequest, hsteady⟩ := hback hchanged
      have hstands := hordered.stands session launch hfound
      refine {
        orderly := hsteady.orderly
        fresh := fun h => ?_
        unanswered := ?_
        request := fun request h => hstands.request request (hrequest.symm.trans h)
        current := fun h => ?_
        leaving := fun h => ?_ }
      · obtain ⟨hnone, hearly⟩ := hstands.fresh (hpasses.connects ▸ h)
        refine ⟨hsteady.dials.2 hnone, ?_⟩
        rcases hearly with hconnecting | hclosed
        · exact hsteady.state.imp_left fun heq => heq.trans hconnecting
        · exact .inr (hsteady.closed hclosed)
      · rw [hpasses.connects, hrequest, hstands.unanswered]
        exact or_congr_right (not_congr hsteady.dials.symm)
      · have hbefore : s.slot = some session := by
          refine hstands.current (h.imp hsteady.connected fun ⟨hsome, hopen⟩ => ⟨hrequest ▸ hsome, ?_⟩)
          exact Bool.eq_false_iff.2 fun hclosed => Bool.eq_false_iff.1 hopen (hsteady.closed hclosed)
        refine hpasses.slot.trans ((hcurrent session changed hbefore hchanged).resolve_right fun hclosed => ?_)
        rcases h with hconnected | ⟨-, hopen⟩
        · exact hsteady.orderly.parted hclosed hconnected
        · rw [hclosed] at hopen
          cases hopen
      · rw [hpasses.slot, hpasses.ending]
        exact hleaving session (hstands.leaving (hrequest ▸ h))
    · rw [hpasses.launched]
      exact hordered.slot session (hslot session (hpasses.slot.symm.trans h))
    · rw [hpasses.launched]
      exact hordered.tasks session (hpasses.connects ▸ h)
  refine {
    ordered := hafter
    fate := fun session launch request hfound hrequest => ?_
    answered := fun session launch hfound hrequest => ?_
    grown := Nat.le_of_eq hpasses.launched.symm
    slot := ?_
    welcomed := .inl ⟨hpasses.plain hordered.asked, fun session => hpasses.isConnected horderly⟩ }
  · obtain ⟨changed, hchanged, hsame⟩ := hforth hfound
    have hstands := hafter.stands session changed hchanged
    have hstill := hsame.trans hrequest
    exact .waits hchanged hstill (hstands.trying hstill) (hstands.not_connected (by rw [hstill]; rfl))
  · obtain ⟨changed, hchanged, hsame⟩ := hforth hfound
    exact ⟨changed, hchanged, hsame.trans hrequest⟩
  · cases hheld : s.slot with
    | none =>
      have hnone : slot = none := Option.eq_none_iff_forall_ne_some.2 fun session h => by
        simpa [hheld] using hslot session h
      exact .stays (hpasses.slot.trans (hnone.trans hheld.symm))
    | some session =>
      rcases hleaving session (.inl hheld) with hsame | hended'
      · exact .stays (hpasses.slot.trans (hsame.trans hheld.symm))
      · exact .left (hpasses.slot.trans (hended hended')) (hpasses.ending.trans hended')

theorem Ordered.passes (hordered : Ordered s accepted) {result : Server × List ServerEffect}
    (hpasses : Passes s result) : Carries s accepted [] result :=
  hordered.aside s.slot s.ending hpasses (fun _ => id) hordered.ended (fun _ => id)
    fun _ _ h _ => .inl h

/-! ## Launches that begin -/

/-- The launch takes the slot, and a task is to connect it. -/
def entered (s : Server) (launch : Launched) : Server :=
  { s.setLaunch s.launched launch with
    launched := s.launched + 1, slot := some s.launched, tasks := s.tasks ++ [.connect s.launched] }

theorem toConnect_entered (s : Server) (launch : Launched) :
    toConnect (s.entered launch).tasks = toConnect s.tasks ++ [s.launched] :=
  toConnect_append _ _

theorem find?_entered_self (s : Server) (launch : Launched) :
    Assoc.find? s.launched (s.entered launch).launches = some launch :=
  Assoc.find?_insert_self _ _ _

theorem find?_entered_of_ne (hne : session ≠ s.launched) (launch : Launched) :
    Assoc.find? session (s.entered launch).launches = Assoc.find? session s.launches :=
  Assoc.find?_insert_of_ne hne _ _

/-- While the slot is empty, no launch is unanswered and no session is there. -/
theorem Stands.finished (hstands : Stands s accepted session launch) (hslot : s.slot = none) (hreading : s.ending = none) :
    launch.request = none ∧ launch.session.connection.state ≠ .connected := by
  constructor
  · refine Option.not_isSome_iff_eq_none.1 fun hsome => ?_
    rcases hstands.leaving hsome with hheld | hended
    · rw [hslot] at hheld
      cases hheld
    · rw [hreading] at hended
      cases hended
  · intro hconnected
    have hheld := hstands.current (.inl hconnected)
    rw [hslot] at hheld
    cases hheld

theorem Ordered.entered (hordered : Ordered s accepted) (hslot : s.slot = none) (hreading : s.ending = none)
    {request : Message} {setup : ConnectionSetup} (hrequest : launch.request = some request)
    (hconnection : launch.session.connection = { setup }) : Ordered (s.entered launch) (accepted ++ [request]) where
  launched := by simp [Server.entered, hordered.launched]
  listed other := by
    rw [show (s.entered launch).launched = s.launched + 1 from rfl]
    by_cases hself : other = s.launched
    · rw [hself, find?_entered_self]
      simp
    · rw [find?_entered_of_ne hself, hordered.listed]
      omega
  stands other held hheld := by
    by_cases hself : other = s.launched
    · subst hself
      obtain rfl : launch = held := Option.some.inj ((find?_entered_self s launch).symm.trans hheld)
      have hmine : s.launched ∈ toConnect (s.entered launch).tasks := by simp [toConnect_entered]
      refine {
        orderly := hconnection ▸ Connection.Orderly.fresh setup
        fresh := fun _ => by simp [hconnection]
        unanswered := by rw [hrequest]; exact iff_of_true rfl (.inl hmine)
        request := fun other h => ?_
        current := fun _ => rfl
        leaving := fun _ => .inl rfl }
      obtain rfl : request = other := Option.some.inj (hrequest.symm.trans h)
      simp [hordered.launched]
    · -- The others are over, and stay so.
      have hstands := hordered.stands other held ((find?_entered_of_ne hself launch).symm.trans hheld)
      obtain ⟨hnone, hgone⟩ := hstands.finished hslot hreading
      have hothers : other ∈ toConnect (s.entered launch).tasks ↔ other ∈ toConnect s.tasks := by
        simp [toConnect_entered, hself]
      exact {
        orderly := hstands.orderly
        fresh := fun h => hstands.fresh (hothers.1 h)
        unanswered := by rw [hothers]; exact hstands.unanswered
        request := by simp [hnone]
        current := by simp [hnone, hgone]
        leaving := by simp [hnone] }
  slot other h := by
    cases h
    exact Nat.lt_succ_self _
  tasks other h := by
    rw [toConnect_entered, List.mem_append, List.mem_singleton] at h
    rcases h with hbefore | rfl
    · exact Nat.lt_succ_of_lt (hordered.tasks other hbefore)
    · exact Nat.lt_succ_self _
  once := by
    rw [toConnect_entered]
    refine List.nodup_append.2 ⟨hordered.once, by simp, fun session hmem other hother => ?_⟩
    rw [List.mem_singleton.1 hother]
    exact Nat.ne_of_lt (hordered.tasks session hmem)
  asked := hordered.asked
  ended h := by
    rw [show (s.entered launch).ending = s.ending from rfl, hreading] at h
    cases h

/-- A launch begins. What follows in the same step is none of its concern. -/
theorem Ordered.enter (hordered : Ordered s accepted) (hslot : s.slot = none) (hreading : s.ending = none)
    {request : Message} {setup : ConnectionSetup} (hrequest : launch.request = some request)
    (hconnection : launch.session.connection = { setup }) {result : Server × List ServerEffect}
    (hpasses : Passes (s.entered launch) result) : Carries s accepted [request] result := by
  have hentered := hordered.entered hslot hreading hrequest hconnection
  have hcarries := hentered.passes hpasses
  have hold : ∀ {session : Nat} {held : Launched}, Assoc.find? session s.launches = some held →
      Assoc.find? session (s.entered launch).launches = some held := fun hfound =>
    (find?_entered_of_ne (Nat.ne_of_lt (hordered.below hfound)) launch).trans hfound
  refine {
    ordered := by simpa using hcarries.ordered
    fate := fun session held other hfound => hcarries.fate session held other (hold hfound)
    answered := fun session held hfound => hcarries.answered session held (hold hfound)
    grown := Nat.le_of_lt hcarries.grown
    slot := .taken hslot hpasses.slot
    welcomed := .inl ⟨hpasses.plain hordered.asked, fun session h => ?_⟩ }
  have hbefore := hpasses.isConnected (fun other held hheld => (hentered.stands other held hheld).orderly) h
  by_cases hself : session = s.launched
  · -- The new session is only connecting.
    rw [hself, isConnected_of_find? (find?_entered_self s launch), hconnection] at hbefore
    cases hbefore
  · rwa [Server.isConnected, find?_entered_of_ne hself] at hbefore

/-! ## Dials -/

/-- One session's dial begins or ends, which leaves the others alone. It does not wait for its task any more. -/
structure Beside (s : Server) (session : Nat) (s' : Server) : Prop where
  launched : s'.launched = s.launched
  ending : s'.ending = s.ending
  asked : s'.asked = s.asked
  once : (toConnect s'.tasks).Nodup
  tasks : ∀ other, other ∈ toConnect s'.tasks ↔ other ∈ toConnect s.tasks ∧ other ≠ session
  listed : ∀ other, other ≠ session → Assoc.find? other s'.launches = Assoc.find? other s.launches
  slot : s'.slot = s.slot ∨ s.slot = some session ∧ s'.slot = none

theorem Beside.slot_of_ne {s' : Server} (hbeside : Beside s session s') {other : Nat} (hne : other ≠ session)
    (hslot : s.slot = some other) : s'.slot = some other := by
  rcases hbeside.slot with heq | ⟨hself, -⟩
  · exact heq.trans hslot
  · exact absurd (Option.some.inj (hslot.symm.trans hself)) hne

theorem Ordered.beside {s' : Server} {changed : Launched} (hordered : Ordered s accepted)
    (hbeside : Beside s session s') (hbelow : session < s.launched)
    (hchanged : Assoc.find? session s'.launches = some changed) (hstands : Stands s' accepted session changed) :
    Ordered s' accepted where
  launched := hbeside.launched.trans hordered.launched
  listed other := by
    rw [hbeside.launched]
    by_cases hself : other = session
    · rw [hself, hchanged]
      exact iff_of_true rfl hbelow
    · rw [hbeside.listed other hself]
      exact hordered.listed other
  stands other held hheld := by
    by_cases hself : other = session
    · subst hself
      obtain rfl : changed = held := Option.some.inj (hchanged.symm.trans hheld)
      exact hstands
    · have hother := hordered.stands other held ((hbeside.listed other hself).symm.trans hheld)
      have htasks : other ∈ toConnect s'.tasks ↔ other ∈ toConnect s.tasks := by
        simp [hbeside.tasks, hself]
      exact {
        orderly := hother.orderly
        fresh := fun h => hother.fresh (htasks.1 h)
        unanswered := by rw [htasks]; exact hother.unanswered
        request := hother.request
        current := fun h => hbeside.slot_of_ne hself (hother.current h)
        leaving := fun h => by
          rw [hbeside.ending]
          exact (hother.leaving h).imp_left (hbeside.slot_of_ne hself) }
  slot other h := by
    rw [hbeside.launched]
    rcases hbeside.slot with heq | ⟨-, hnone⟩
    · exact hordered.slot other (heq.symm.trans h)
    · rw [hnone] at h
      cases h
  tasks other h := by
    rw [hbeside.launched]
    exact hordered.tasks other ((hbeside.tasks other).1 h).1
  once := hbeside.once
  asked := by
    unfold AskedApart
    rw [hbeside.asked]
    exact hordered.asked
  ended h := by
    have hnone := hordered.ended (hbeside.ending.symm.trans h)
    rcases hbeside.slot with heq | ⟨-, hnone'⟩
    · exact heq.trans hnone
    · exact hnone'

theorem Ordered.waits {result : Server × List ServerEffect} (hafter : Ordered result.1 accepted)
    (hfound : Assoc.find? session result.1.launches = some launch) {request : Message}
    (hrequest : launch.request = some request) : Fate session request result := by
  have hstands := hafter.stands session launch hfound
  exact .waits hfound hrequest (hstands.trying hrequest) (hstands.not_connected (by rw [hrequest]; rfl))

theorem Beside.isConnected {s' : Server} (hbeside : Beside s session s') {other : Nat} (hne : other ≠ session) :
    s'.isConnected other = s.isConnected other := by
  rw [Server.isConnected, Server.isConnected, hbeside.listed other hne]

/-- What has become of the one session is all that the step does. -/
theorem Beside.carries {s' : Server} {effects : List ServerEffect} (hbeside : Beside s session s')
    (hafter : Ordered s' accepted) (hfound : Assoc.find? session s.launches = some launch) {request : Message}
    (hrequest : launch.request = some request) (hfate : Fate session request (s', effects))
    (hwelcomed : Plain effects ∧ s'.isConnected session = false ∨
      Welcomes [request] (Loop.sent effects) ∧ s'.isConnected session = true ∧ s.isConnected session = false) :
    Carries s accepted [] (s', effects) where
  ordered := by rwa [List.append_nil]
  fate other held later hheld hlater := by
    by_cases hself : other = session
    · subst hself
      obtain rfl : launch = held := Option.some.inj (hfound.symm.trans hheld)
      obtain rfl : request = later := Option.some.inj (hrequest.symm.trans hlater)
      exact hfate
    · exact @Ordered.waits _ _ _ (s', effects) hafter ((hbeside.listed other hself).trans hheld) _ hlater
  answered other held hheld hnone := by
    by_cases hself : other = session
    · subst hself
      obtain rfl : launch = held := Option.some.inj (hfound.symm.trans hheld)
      rw [hrequest] at hnone
      cases hnone
    · exact ⟨held, (hbeside.listed other hself).trans hheld, hnone⟩
  grown := Nat.le_of_eq hbeside.launched.symm
  slot := by
    rcases hbeside.slot with hsame | ⟨hheld, hnone⟩
    · exact .stays hsame
    · exact .failed hheld hfound (by rw [hrequest]; rfl) hnone
  welcomed := by
    rcases hwelcomed with ⟨hplain, hnot⟩ | ⟨hwelcomed, hafter, hbefore⟩
    · refine .inl ⟨hplain, fun other hother => ?_⟩
      by_cases hself : other = session
      · rw [hself, hnot] at hother
        cases hother
      · rwa [hbeside.isConnected hself] at hother
    · refine .inr ⟨session, launch, request, hfound, hrequest, hwelcomed, fun other => ?_⟩
      by_cases hself : other = session
      · simp [hself, hafter, hbefore]
      · simp [hself, hbeside.isConnected hself]

/-- The task that is first in line is the only one of its session. -/
theorem Ordered.popped (hordered : Ordered s accepted) {tasks : List Task}
    (htasks : s.tasks = .connect session :: tasks) :
    session ∈ toConnect s.tasks ∧ (toConnect tasks).Nodup ∧
      ∀ other, other ∈ toConnect tasks ↔ other ∈ toConnect s.tasks ∧ other ≠ session := by
  have hconnects : toConnect s.tasks = session :: toConnect tasks := by
    rw [htasks]
    rfl
  have honce := hordered.once
  rw [hconnects, List.nodup_cons] at honce
  refine ⟨by simp [hconnects], honce.2, fun other => ?_⟩
  rw [hconnects, List.mem_cons]
  constructor
  · intro hmem
    refine ⟨.inr hmem, ?_⟩
    rintro rfl
    exact honce.1 hmem
  · exact fun ⟨hmem, hne⟩ => hmem.resolve_left hne

/-- The task of a launch begins, and dials. -/
theorem Ordered.dials (hordered : Ordered s accepted) {tasks : List Task} (htasks : s.tasks = .connect session :: tasks)
    (hfound : Assoc.find? session s.launches = some launch) (inner : Session)
    (horderly : inner.connection.Orderly) (hdials : inner.connection.dials ≠ [])
    (hclosed : inner.connection.closed = launch.session.connection.closed) :
    Carries s accepted [] ({ s with tasks }.setLaunch session { launch with session := inner }, []) := by
  have hstands := hordered.stands session launch hfound
  obtain ⟨hmine, honce, hothers⟩ := hordered.popped htasks
  have hgone : session ∉ toConnect tasks := fun h => ((hothers session).1 h).2 rfl
  have hsome : launch.request.isSome := hstands.unanswered.2 (.inl hmine)
  have hchanged : Assoc.find? session ({ s with tasks }.setLaunch session { launch with session := inner }).launches
      = some { launch with session := inner } := Assoc.find?_insert_self _ _ _
  have hearly := horderly.not_connected (horderly.oneDial.early hdials)
  have hbeside : Beside s session ({ s with tasks }.setLaunch session { launch with session := inner }) :=
    ⟨rfl, rfl, rfl, honce, hothers, fun other hne => Assoc.find?_insert_of_ne hne _ _, .inl rfl⟩
  have hafter := hordered.beside hbeside (hordered.below hfound) hchanged {
    orderly := horderly
    fresh := fun h => absurd h hgone
    unanswered := iff_of_true hsome (.inr hdials)
    request := hstands.request
    current := fun h => hstands.current (.inr ⟨hsome, hclosed ▸ (h.resolve_left hearly).2⟩)
    leaving := hstands.leaving }
  obtain ⟨request, hrequest⟩ := Option.isSome_iff_exists.1 hsome
  refine hbeside.carries hafter hfound hrequest (.waits hchanged hrequest (.inr hdials) hearly)
    (.inl ⟨by simp [Plain, Loop.sent], ?_⟩)
  exact Bool.eq_false_iff.2 fun hconnected => hearly ((isConnected_of_find? hchanged).1 hconnected)

theorem absorb_append (s : Server) (session : Nat) (first later : List SessionEffect) :
    s.absorb session (first ++ later) = (((s.absorb session first).1.absorb session later).1,
      (s.absorb session first).2 ++ ((s.absorb session first).1.absorb session later).2) := by
  induction first generalizing s with
  | nil => rfl
  | cons effect rest ih => simp only [List.cons_append, absorb, ih, List.append_assoc]

/-- What a connection does apart from its dial's end goes to the inbox, or out of the adapter. -/
theorem absorb_links {effects : List Effect} (hsilent : Connection.outcomes effects = [])
    (hfound : Assoc.find? session s.launches = some launch) :
    ∃ launches inbox said, s.absorb session (effects.map .link) = ({ s with launches }, said) ∧
      Loop.sent said = [] ∧ Assoc.find? session launches = some { launch with inbox } ∧
      ∀ other, other ≠ session → Assoc.find? other launches = Assoc.find? other s.launches := by
  induction effects generalizing s launch with
  | nil => exact ⟨s.launches, launch.inbox, [], rfl, rfl, hfound, fun _ _ => rfl⟩
  | cons effect rest ih =>
    have hone : ∃ launches inbox said, s.absorbOne session (.link effect) = ({ s with launches }, said) ∧
        Loop.sent said = [] ∧ Assoc.find? session launches = some { launch with inbox } ∧
        ∀ other, other ≠ session → Assoc.find? other launches = Assoc.find? other s.launches := by
      cases effect with
      | told notification =>
        refine ⟨_, launch.inbox.push notification, [], by rw [absorbOne, hfound]; rfl, rfl, ?_, fun other hne => ?_⟩
        · exact Assoc.find?_insert_self _ _ _
        · exact Assoc.find?_insert_of_ne hne _ _
      | dialed dial ending => cases hsilent
      | _ => exact ⟨s.launches, launch.inbox, _, rfl, rfl, hfound, fun _ _ => rfl⟩
    obtain ⟨launches, inbox, said, habsorbed, hnone, hmine, hothers⟩ := hone
    have hrest : Connection.outcomes rest = [] := by
      rw [Connection.outcomes_eq_nil] at hsilent ⊢
      exact fun dial ending hmem => hsilent dial ending (List.mem_cons_of_mem _ hmem)
    obtain ⟨launches', inbox', said', habsorbed', hnone', hmine', hothers'⟩ := ih hrest (s := { s with launches }) hmine
    refine ⟨launches', inbox', said ++ said', ?_, ?_, hmine', fun other hne => ?_⟩
    · simp only [List.map_cons, absorb, habsorbed, habsorbed']
    · rw [sent_append, hnone, hnone', List.append_nil]
    · rw [hothers' other hne]
      exact hothers other hne

/-- A launch is answered, and its session is there or not. -/
theorem Ordered.settled {s' : Server} {changed : Launched} (hordered : Ordered s accepted)
    (hbeside : Beside s session s') (hfound : Assoc.find? session s.launches = some launch)
    (hchanged : Assoc.find? session s'.launches = some changed) (hrequest : changed.request = none)
    (horderly : changed.session.connection.Orderly) (hdials : changed.session.connection.dials = [])
    (hcurrent : changed.session.connection.state = .connected → s'.slot = some session) : Ordered s' accepted := by
  have hgone : session ∉ toConnect s'.tasks := fun h => ((hbeside.tasks session).1 h).2 rfl
  exact hordered.beside hbeside (hordered.below hfound) hchanged {
    orderly := horderly
    fresh := fun h => absurd h hgone
    unanswered := by simp [hrequest, hgone, hdials]
    request := by simp [hrequest]
    current := by simpa [hrequest] using hcurrent
    leaving := by simp [hrequest] }

theorem answerLaunch_ok (hfound : Assoc.find? session s.launches = some launch) {request : Message}
    (hrequest : launch.request = some request) : ∃ response news, s.answerLaunch session (.ok ())
      = ({ s.setLaunch session { launch with request := none } with nextSeq := s.nextSeq + 1 + 1 },
          [.sent (.response response), .sent (.news news)]) ∧
      Answers response request ∧ response.success = true ∧ news.event = "initialized" := by
  simp only [answerLaunch, hfound, hrequest]
  exact ⟨_, _, rfl, ⟨rfl, rfl⟩, rfl, rfl⟩

theorem answerLaunch_error (hfound : Assoc.find? session s.launches = some launch) {request : Message}
    (hrequest : launch.request = some request) (error : CallError) :
    ∃ response record, s.answerLaunch session (.error error)
      = ({ s.setLaunch session { launch with request := none } with
            slot := if s.slot = some session then none else s.slot, nextSeq := s.nextSeq + 1 },
          [.logged record, .sent (.response response)]) ∧
      Answers response request ∧ response.success = false := by
  simp only [answerLaunch, hfound, hrequest]
  exact ⟨_, _, rfl, ⟨rfl, rfl⟩, rfl⟩

/-- A dial ends, and with that its launch is answered. -/
theorem Ordered.settle (hordered : Ordered s accepted) {tasks : List Task} (honce : (toConnect tasks).Nodup)
    (htasks : ∀ other, other ∈ toConnect tasks ↔ other ∈ toConnect s.tasks ∧ other ≠ session)
    (hfound : Assoc.find? session s.launches = some launch) {request : Message}
    (hrequest : launch.request = some request) (inner : Session) {effects : List Effect}
    (hends : launch.session.connection.EndsDial (inner.connection, effects)) :
    Carries s accepted []
      (({ s with tasks }.setLaunch session { launch with session := inner }).absorb session (effects.map .link)) := by
  obtain ⟨horderly, hover, hclosed, before, dial, ending, rfl, hsilent, hstate⟩ := hends
  have hstands := hordered.stands session launch hfound
  have hsome : launch.request.isSome := by rw [hrequest]; rfl
  have hbefore : s.isConnected session = false :=
    Bool.eq_false_iff.2 fun h => hstands.not_connected hsome ((isConnected_of_find? hfound).1 h)
  have hgone : session ∉ toConnect tasks := fun h => ((htasks session).1 h).2 rfl
  obtain ⟨launches, inbox, said, habsorbed, hnone, hmine, hothers⟩ := absorb_links
    (s := { s with tasks }.setLaunch session { launch with session := inner }) hsilent (Assoc.find?_insert_self _ _ _)
  have habsorbed : ({ s with tasks }.setLaunch session { launch with session := inner }).absorb session
      (before.map .link) = ({ s with tasks, launches }, said) := habsorbed
  rw [List.map_append, absorb_append, habsorbed]
  simp only [List.map_cons, List.map_nil, absorb, absorbOne, List.append_nil]
  have hbeside : ∀ (nextSeq : Int) (slot : Option Nat), slot = s.slot ∨ s.slot = some session ∧ slot = none →
      Beside s session { ({ s with tasks, launches } : Server).setLaunch session
        { launch with session := inner, inbox, request := none } with nextSeq, slot } := by
    intro nextSeq slot hslot
    refine ⟨rfl, rfl, rfl, honce, htasks, fun other hne => ?_, hslot⟩
    exact ((Assoc.find?_insert_of_ne hne _ _).trans (hothers other hne)).trans (Assoc.find?_insert_of_ne hne _ _)
  have hchanged : Assoc.find? session (({ s with tasks, launches } : Server).setLaunch session
      { launch with session := inner, inbox, request := none }).launches
        = some { launch with session := inner, inbox, request := none } := Assoc.find?_insert_self _ _ _
  cases ending with
  | ok success =>
    have hconnected : inner.connection.state = .connected := hstate.1 rfl
    -- A connection that has come about was not closed, so the slot still holds its session.
    have hslot : s.slot = some session := by
      refine hstands.current (.inr ⟨hsome, ?_⟩)
      rw [← hclosed]
      exact Bool.eq_false_iff.2 fun h => horderly.parted h hconnected
    obtain ⟨response, news, hanswer, hanswers, hsuccess, hevent⟩ :=
      answerLaunch_ok (s := { s with tasks, launches }) hmine hrequest
    have hside := hbeside (s.nextSeq + 1 + 1) s.slot (.inl rfl)
    have hsent : Loop.sent (said ++ [.sent (.response response), .sent (.news news)])
        = [.response response, .news news] := by
      rw [sent_append, hnone]
      rfl
    rw [hanswer]
    refine hside.carries (hordered.settled hside hfound hchanged rfl horderly hover fun _ => hslot) hfound hrequest
      (.connects hchanged rfl hconnected hslot hsent hanswers hsuccess hevent) (.inr ⟨?_, ?_, hbefore⟩)
    · rw [hsent]
      exact .welcome hanswers hsuccess hevent .nil
    · exact (isConnected_of_find? hchanged).2 hconnected
  | error error =>
    have hnot : inner.connection.state ≠ .connected := fun h => by cases hstate.2 h
    obtain ⟨response, record, hanswer, hanswers, hfailure⟩ :=
      answerLaunch_error (s := { s with tasks, launches }) hmine hrequest error
    have hvacant : s.slot = some session ∨ s.slot = none :=
      (hstands.leaving hsome).imp_right hordered.ended
    have hslot : (if s.slot = some session then none else s.slot) = none := by
      rcases hvacant with hheld | hnone
      · exact if_pos hheld
      · simp [hnone]
    have hside := hbeside (s.nextSeq + 1) (if s.slot = some session then none else s.slot) (by
      rcases hvacant with hheld | hnone
      · exact .inr ⟨hheld, hslot⟩
      · exact .inl (hslot.trans hnone.symm))
    have hsent : Loop.sent (said ++ [.logged record, .sent (.response response)]) = [.response response] := by
      rw [sent_append, hnone]
      rfl
    rw [hanswer]
    refine hside.carries (hordered.settled hside hfound hchanged rfl horderly hover fun h => absurd h hnot) hfound
      hrequest (.fails hchanged rfl ⟨hgone, hover⟩ hnot hslot hsent hanswers hfailure) (.inl ⟨?_, ?_⟩)
    · intro message hmem
      rw [hsent, List.mem_singleton] at hmem
      simp [hmem, Outgoing.welcomes, hfailure]
    · exact Bool.eq_false_iff.2 fun h => hnot ((isConnected_of_find? hchanged).1 h)

theorem Carries.log {more : List Message} {s' : Server} {effects : List ServerEffect}
    (hcarries : Carries s accepted more (s', effects)) (record : Log.Record) :
    Carries s accepted more (s', .logged record :: effects) :=
  { hcarries with
    fate := fun session launch request hfound hrequest => by
      cases hcarries.fate session launch request hfound hrequest with
      | waits listed unanswered trying state => exact .waits listed unanswered trying state
      | connects listed answered state slot sent answers success event =>
        exact .connects listed answered state slot sent answers success event
      | fails listed answered finished state slot sent answers failure =>
        exact .fails listed answered finished state slot sent answers failure
    welcomed := hcarries.welcomed }

end

end Server

end DebugBridge.Adapter
