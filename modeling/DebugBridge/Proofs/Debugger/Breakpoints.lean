import DebugBridge.Proofs.Debugger.Turns
import DebugBridge.Proofs.Debugger.Waits

/-!
# Breakpoints reach the server

What the server holds is what the last request to set breakpoints told it that it has handled, and an acknowledgement
that comes for a call is for a request with its number. So when the call that has the turn is acknowledged, its
request was handled, as the last of its kind: the server holds the complete set.
-/

namespace DebugBridge.Debugger

namespace Exchange

/-! ## What the server has got -/

/-- The server handles the requests in their order, and holds what the last one told it. -/
structure Served (server : DebugServer) (requests : List Wire.Request) : Prop where
  handled : ∃ later, requests = server.handled ++ later ∧ server.unread = Wire.frames Wire.Request.encode later
  held : server.breakpoints = ((server.handled.filterMap breakpointsOf?).getLast?).getD []

section

variable {server : DebugServer} {requests : List Wire.Request}

theorem Served.append (hserved : Served server requests) (more : List Wire.Request) :
    Served { server with unread := server.unread ++ Wire.frames Wire.Request.encode more } (requests ++ more) := by
  obtain ⟨later, hrequests, hunread⟩ := hserved.handled
  refine ⟨⟨later ++ more, ?_, ?_⟩, hserved.held⟩
  · rw [hrequests, List.append_assoc]
  · rw [Wire.frames_append, ← hunread]

theorem Served.handle (hserved : Served server requests)
    (hsize : ∀ request ∈ requests, request.encode.length < UInt64.size) : Served server.handle requests := by
  unfold DebugServer.handle
  split
  · next request rest hnext =>
    obtain ⟨later, hrequests, hunread⟩ := hserved.handled
    have hstream : server.unread ++ [] = Wire.frames Wire.Request.encode later := by rw [List.append_nil, hunread]
    have hsize' : ∀ request ∈ later, request.encode.length < UInt64.size := by
      intro request hmem
      exact hsize request (hrequests ▸ List.mem_append_right _ hmem)
    obtain ⟨later', rfl, hrest⟩ := Wire.next_frames Wire.Request.decode_encode hsize' hstream hnext
    rw [List.append_nil] at hrest
    refine ⟨⟨later', by rw [hrequests, List.append_assoc]; rfl, hrest⟩, ?_⟩
    rw [List.filterMap_append]
    cases hset : breakpointsOf? request with
    | none => simp [hset, hserved.held]
    | some set => simp [hset]
  · exact hserved

/-- What the server has handled stays handled. -/
theorem handled_handle (server : DebugServer) : server.handled ⊆ server.handle.handled := by
  unfold DebugServer.handle
  split
  · exact List.subset_append_left _ _
  · exact List.Subset.refl _

theorem mayTell_mono {server' : DebugServer} (hsub : server.handled ⊆ server'.handled) {event : Wire.Event}
    (hmay : server.MayTell event) : server'.MayTell event := by
  intro hpayload hnumber
  obtain ⟨request, hmem, hrequest⟩ := hmay hpayload hnumber
  exact ⟨request, hsub hmem, hrequest⟩

end

/-! ## What the session has heard -/

/-- The connection takes in what the server may tell, and what a call ends with is a message of its own. -/
structure Heard (server : DebugServer) (coming : Bytes) (c : Connection) : Prop where
  limited : c.setup.maxFrameBytes < UInt64.size
  settled : c.Settled
  stream : ∀ incoming, c.incoming = some incoming → ∃ events rest,
    incoming.unread ++ rest = Wire.frames Wire.Event.encode events ∧ (incoming.ended = false → rest = coming) ∧
      ∀ event ∈ events, server.MayTell event ∧ event.encode.length < UInt64.size
  outcomes : ∀ number call event, Assoc.find? number c.calls = some call → call.outcome = some (.ok event) →
    event.number = number ∧ server.MayTell event

section

variable {server : DebugServer} {coming : Bytes} {c : Connection}

theorem Heard.mono (hheard : Heard server coming c) {server' : DebugServer}
    (hsub : server.handled ⊆ server'.handled) : Heard server' coming c where
  limited := hheard.limited
  settled := hheard.settled
  stream incoming hincoming := by
    obtain ⟨events, rest, hstream, hrest, hevents⟩ := hheard.stream incoming hincoming
    exact ⟨events, rest, hstream, hrest, fun event hmem =>
      ⟨mayTell_mono hsub (hevents event hmem).1, (hevents event hmem).2⟩⟩
  outcomes number call event hfound houtcome := by
    obtain ⟨hnumber, hmay⟩ := hheard.outcomes number call event hfound houtcome
    exact ⟨hnumber, mayTell_mono hsub hmay⟩

/-- The server tells something. -/
theorem Heard.tell (hheard : Heard server coming c) {event : Wire.Event} (hmay : server.MayTell event)
    (hsize : event.encode.length < UInt64.size) :
    Heard server (coming ++ Wire.frames Wire.Event.encode [event]) c where
  limited := hheard.limited
  settled := hheard.settled
  stream incoming hincoming := by
    obtain ⟨events, rest, hstream, hrest, hevents⟩ := hheard.stream incoming hincoming
    cases hended : incoming.ended with
    | true => exact ⟨events, rest, hstream, by simp, hevents⟩
    | false =>
      obtain rfl := hrest hended
      refine ⟨events ++ [event], rest ++ Wire.frames Wire.Event.encode [event], ?_, fun _ => rfl, ?_⟩
      · rw [← List.append_assoc, hstream, Wire.frames_append]
      · intro other hother
        rcases List.mem_append.1 hother with hold | hnew
        · exact hevents other hold
        · exact List.mem_singleton.1 hnew ▸ ⟨hmay, hsize⟩
  outcomes := hheard.outcomes

/-- A call begins, and has no outcome yet. -/
theorem Heard.calling (hheard : Heard server coming c) (payload : Wire.Request.Payload) :
    Heard server coming (calling c payload) where
  limited := hheard.limited
  settled := ⟨hheard.settled.state, hheard.settled.dials⟩
  stream := hheard.stream
  outcomes number call event hfound houtcome := by
    by_cases hnumber : number = c.nextNumber
    · simp only [Debugger.calling, hnumber, Assoc.find?_insert_self, Option.some.injEq] at hfound
      rw [← hfound] at houtcome
      cases houtcome
    · simp only [Debugger.calling, Assoc.find?_insert_of_ne hnumber] at hfound
      exact hheard.outcomes number call event hfound houtcome

/-- A message that is taken from the stream is the next one that the server told. -/
theorem Heard.mayTell_of_received (hheard : Heard server coming c) {action : Connection.Action} {event : Wire.Event}
    (hreceived : .received event ∈ c.moments action) : server.MayTell event := by
  have hintake : .received event ∈ c.intake action := by
    rcases List.mem_append.1 hreceived with hintake | hdid
    · exact hintake
    · simp at hdid
  cases (hheard.settled.step action).2 with
  | stops stopped silent =>
    rw [silent] at hintake
    cases hintake
  | keeps same silent => exact absurd hintake (silent event)
  | @takes incoming other left found next =>
    simp only [Connection.intake, found, next, List.mem_singleton, Connection.Moment.received.injEq] at hintake
    obtain ⟨events, rest, hstream, -, hevents⟩ := hheard.stream incoming found
    obtain ⟨later, rfl, -⟩ :=
      Wire.next_frames Wire.Event.decode_encode (fun event hmem => (hevents event hmem).2) hstream next
    exact hintake ▸ (hevents other List.mem_cons_self).1
  | comes bytes found goesOn joined => cases hintake
  | ends found marked => cases hintake

theorem Heard.step (hheard : Heard server coming c) {action : Connection.Action}
    (hcoming : ∀ bytes, action ≠ .arrive bytes) : Heard server coming (c.step action).1 := by
  obtain ⟨hsettled, hreads⟩ := hheard.settled.step action
  have hstep := Connection.step_callStep c action
  refine ⟨hstep.setup_eq ▸ hheard.limited, hsettled, fun incoming hincoming => ?_,
    fun number call event hfound houtcome => ?_⟩
  · cases hreads with
    | stops stopped silent =>
      rw [stopped] at hincoming
      cases hincoming
    | keeps same silent => exact hheard.stream incoming (same ▸ hincoming)
    | @takes before event left found next now =>
      rw [now] at hincoming
      cases hincoming
      obtain ⟨events, rest, hstream, hrest, hevents⟩ := hheard.stream before found
      obtain ⟨later, rfl, hlater⟩ :=
        Wire.next_frames Wire.Event.decode_encode (fun event hmem => (hevents event hmem).2) hstream next
      exact ⟨later, rest, hlater, hrest, fun event hmem => hevents event (List.mem_cons_of_mem _ hmem)⟩
    | comes bytes found goesOn joined => exact absurd rfl (hcoming bytes)
    | @ends before found marked =>
      rw [marked] at hincoming
      cases hincoming
      obtain ⟨events, rest, hstream, -, hevents⟩ := hheard.stream before found
      exact ⟨events, rest, hstream, by simp, hevents⟩
  · cases hstep.change hfound with
    | begun payload isNext moments eq =>
      rw [eq] at houtcome
      cases houtcome
    | kept before found payload outcome sent strange =>
      exact hheard.outcomes number before event found (outcome ▸ houtcome)
    | replied before reply found payload own awaited moments outcome =>
      rw [houtcome] at outcome
      cases outcome
      exact ⟨own, hheard.mayTell_of_received (moments ▸ List.mem_singleton_self _)⟩
    | broken before found payload wasOpen closed outcome =>
      rw [houtcome] at outcome
      cases outcome

/-- Some of what was sent arrives. -/
theorem Heard.deliver (hheard : Heard server coming c) (count : Nat) :
    Heard server (coming.drop count) (c.step (.arrive (coming.take count))).1 := by
  simp only [Connection.step, Connection.arrive]
  cases hincoming : c.incoming with
  | none =>
    refine ⟨hheard.limited, hheard.settled, fun incoming hfound => ?_, hheard.outcomes⟩
    rw [hincoming] at hfound
    cases hfound
  | some incoming =>
    obtain ⟨events, rest, hstream, hrest, hevents⟩ := hheard.stream incoming hincoming
    dsimp only
    split
    · next hended =>
      refine ⟨hheard.limited, hheard.settled, fun other hother => ?_, hheard.outcomes⟩
      rw [hincoming] at hother
      cases hother
      exact ⟨events, rest, hstream, by simp [hended], hevents⟩
    · next hgoesOn =>
      obtain rfl := hrest (by simpa using hgoesOn)
      refine ⟨hheard.limited, ⟨hheard.settled.state, hheard.settled.dials⟩, fun other hother => ?_, hheard.outcomes⟩
      cases hother
      refine ⟨events, rest.drop count, ?_, fun _ => rfl, hevents⟩
      rw [List.append_assoc, List.take_append_drop, hstream]

end

/-! ## Both sides -/

/-- What holds of every exchange that was ever reached. -/
structure Reached (e : Exchange) (requests : List Wire.Request) : Prop where
  lined : Lined e requests
  served : Served e.server requests
  heard : Heard e.server e.coming e.session.connection

/-- What a session does on its own: it writes nothing, and at most begins a call. -/
structure Silent (c : Connection) (moved : Session × List SessionEffect) : Prop where
  written : written moved.2 = []
  connection : moved.1.connection = c ∨ ∃ payload, moved.1.connection = calling c payload

theorem prepare_silent (s : Session) (operation : Nat) (what : Operation) :
    Silent s.connection (s.prepare operation what) := by
  refine ⟨prepare_written s operation what, ?_⟩
  rcases s.prepare_cases operation what with ⟨state, -, -, hprepared⟩ | ⟨request, waiting, -, -, hprepared⟩
  · rw [hprepared]
    exact .inl rfl
  · rw [hprepared]
    exact .inr ⟨request, rfl⟩

theorem move_silent (s : Session) (operation : Nat) (what : Operation) :
    Silent s.connection (s.move (.prepare operation what)) := by
  simp only [Session.move]
  split
  · split
    · exact prepare_silent { s with syncing := some operation } operation _
    · exact ⟨rfl, .inl rfl⟩
  · exact prepare_silent s operation _

theorem moveTurn_silent (s : Session) : Silent s.connection (s.move .prepareTurn) := by
  simp only [Session.move]
  split
  · next first queue _ _ => exact prepare_silent { s with syncing := some first.operation, queue } first.operation _
  · exact ⟨rfl, .inl rfl⟩

section

variable {e : Exchange} {requests : List Wire.Request}

/-- A session's own moves concern only what it has heard. -/
theorem Heard.silent {server : DebugServer} {coming : Bytes} {c : Connection} (hheard : Heard server coming c)
    {moved : Session × List SessionEffect} (hsilent : Silent c moved) : Heard server coming moved.1.connection := by
  rcases hsilent.connection with hsame | ⟨payload, hcalling⟩
  · rw [hsame]
    exact hheard
  · rw [hcalling]
    exact hheard.calling payload

/-- Steps of the connection, with what they write to the server. -/
theorem Reached.pass (hreached : Reached e requests) {moved : Session × List SessionEffect}
    {more : List Wire.Request} (hwritten : written moved.2 = Wire.frames Wire.Request.encode more)
    (hlined : Lined (e.pass moved) (requests ++ more))
    (hheard : Heard e.server e.coming moved.1.connection) : Reached (e.pass moved) (requests ++ more) where
  lined := hlined
  served := by
    have hserved := hreached.served.append more
    rw [← hwritten] at hserved
    exact hserved
  heard := hheard.mono (List.Subset.refl _)

theorem Reached.link (hreached : Reached e requests) {action : Connection.Action}
    (hnew : ∀ payload, action ≠ .issue payload) (hcoming : ∀ bytes, action ≠ .arrive bytes) :
    ∃ more, Reached (e.pass (e.session.link (·.step action))) (requests ++ more) := by
  obtain ⟨more, hwritten, hlined⟩ := hreached.lined.link hnew
  refine ⟨more, hreached.pass hwritten hlined ?_⟩
  rw [Session.link_connection]
  exact hreached.heard.step hcoming

theorem Reached.look (hreached : Reached e requests) (operation : Nat) {look : UInt64 → Connection.Action}
    (hnew : ∀ number payload, look number ≠ .issue payload) (hcoming : ∀ number bytes, look number ≠ .arrive bytes)
    {moved : Session × List SessionEffect}
    (hmoved : moved = match Assoc.find? operation e.session.running with
      | some running => e.session.link (·.step (look running.number))
      | none => (e.session, [])) :
    ∃ more, Reached (e.pass moved) (requests ++ more) := by
  cases hfound : Assoc.find? operation e.session.running with
  | none =>
    rw [hfound] at hmoved
    rw [hmoved]
    refine ⟨[], hreached.pass rfl ?_ hreached.heard⟩
    rw [List.append_nil]
    exact hreached.lined.pass_silent rfl
  | some running =>
    rw [hfound] at hmoved
    rw [hmoved]
    exact hreached.link (hnew running.number) (hcoming running.number)

/-- A move of the session's own, of which the line was told. -/
theorem Reached.silent (hreached : Reached e requests) {moved : Session × List SessionEffect}
    (hsilent : Silent e.session.connection moved) {e' : Exchange} (hlined : Lined e' requests)
    (hsession : e'.session = moved.1) (hserver : e'.server = (e.pass moved).server) (hcoming : e'.coming = e.coming) :
    Reached e' requests where
  lined := hlined
  served := by
    rw [hserver, Exchange.pass, hsilent.written]
    simp only [List.append_nil]
    exact hreached.served
  heard := by
    rw [hserver, hsession, hcoming]
    exact (hreached.heard.silent hsilent).mono (List.Subset.refl _)

theorem Reached.begin (hreached : Reached e requests) (what : Operation) : Reached (e.begin what).1 requests := by
  have hlined := hreached.lined.begin what
  refine hreached.silent (move_silent e.session e.begun what) hlined ?_ ?_ ?_ <;>
  · unfold Exchange.begin
    dsimp only
    split
    · split <;> rfl
    · rfl

theorem Reached.takeTurn (hreached : Reached e requests) : Reached e.takeTurn.1 requests := by
  have hlined := hreached.lined.takeTurn
  unfold Exchange.takeTurn at hlined ⊢
  dsimp only at hlined ⊢
  split
  · next first queue hsyncing hqueue =>
    simp only [hsyncing, hqueue] at hlined
    exact hreached.silent (moveTurn_silent e.session) hlined rfl rfl rfl
  · exact hreached

theorem Reached.drop (hreached : Reached e requests) (operation : Nat) : Reached (e.drop operation) requests where
  lined := hreached.lined.drop operation
  served := hreached.served
  heard := by
    have hdropped : ∀ number, Heard e.server e.coming (e.session.connection.dropCall number) :=
      fun number => @Heard.step _ _ _ hreached.heard (.dropCall number) (by simp)
    simp only [Exchange.drop, Session.drop, Session.release]
    split
    · exact hdropped _
    · exact hreached.heard

theorem Reached.tell (hreached : Reached e requests) (event : Wire.Event) : Reached (e.tell event) requests := by
  unfold Exchange.tell
  split
  · next hmay =>
    split
    · next bytes hframed =>
      obtain ⟨hfits, rfl⟩ := Wire.eq_of_frame hframed
      have hsize : event.encode.length < UInt64.size := Nat.lt_of_le_of_lt hfits (by decide)
      have htold := hreached.heard.tell hmay hsize
      rw [Wire.frames_singleton] at htold
      exact ⟨hreached.lined.elsewhere _ _, hreached.served, htold⟩
    · exact hreached
  · exact hreached

/-- Every step keeps what holds of both sides. -/
theorem Reached.step (hreached : Reached e requests) (action : Action) :
    ∃ more, Reached (e.step action).1 (requests ++ more) := by
  -- Most steps write nothing.
  have hnothing : ∀ {e' : Exchange}, Reached e' requests → ∃ more, Reached e' (requests ++ more) :=
    fun hreached' => ⟨[], by rw [List.append_nil]; exact hreached'⟩
  cases action with
  | begin what => exact hnothing (hreached.begin what)
  | takeTurn => exact hnothing hreached.takeTurn
  | collect operation => exact @Reached.look _ _ hreached operation .collect (by simp) (by simp) _ rfl
  | expire operation => exact @Reached.look _ _ hreached operation .expire (by simp) (by simp) _ rfl
  | drop operation => exact hnothing (hreached.drop operation)
  | handleEvent payload =>
    have hsilent : Silent e.session.connection (e.session.handleEvent payload) := ⟨rfl, .inl rfl⟩
    exact hnothing (hreached.silent hsilent (hreached.lined.handleEvent payload) rfl rfl rfl)
  | link action =>
    cases action with
    | issue payload => exact hnothing hreached
    | arrive bytes => exact hnothing hreached
    | _ => exact hreached.link (by simp) (by simp)
  | handle =>
    have hsize : ∀ request ∈ requests, request.encode.length < UInt64.size :=
      fun request hmem => Nat.lt_of_le_of_lt (hreached.lined.fits request hmem) hreached.heard.limited
    exact hnothing ⟨hreached.lined.elsewhere _ _, hreached.served.handle hsize,
      hreached.heard.mono (handled_handle e.server)⟩
  | tell event => exact hnothing (hreached.tell event)
  | deliver count =>
    obtain ⟨more, hwritten, hlined⟩ :=
      @Lined.link _ _ hreached.lined (.arrive (e.coming.take count)) (by simp)
    have hserved := hreached.served.append more
    rw [← hwritten] at hserved
    refine ⟨more, hlined.elsewhere _ _, hserved, ?_⟩
    show Heard _ _ (e.session.link (·.step (.arrive (e.coming.take count)))).1.connection
    rw [Session.link_connection]
    exact (hreached.heard.deliver count).mono (List.Subset.refl _)

/-- Every run keeps what holds of both sides. -/
theorem Reached.run (hreached : Reached e requests) (actions : List Action) :
    ∃ requests', Reached (e.run actions) requests' := by
  induction actions generalizing e requests with
  | nil => exact ⟨requests, hreached⟩
  | cons action actions ih =>
    obtain ⟨more, hstep⟩ := hreached.step action
    exact ih hstep

theorem Reached.start (setup : ConnectionSetup) (hlimit : setup.maxFrameBytes < UInt64.size) (files : FileTree)
    (root : Option String) : Reached (start setup files root) [] where
  lined := {
    wire := rfl
    fits := by simp
    sorted := List.Pairwise.nil
    named := fun _ _ hmem => by cases hmem
    syncs := fun _ hsyncing => by cases hsyncing
    ascending := List.Pairwise.nil
    old := fun _ hmem => by cases hmem
    gone := fun _ hmem => by cases hmem
    line := rfl
    numbered := ⟨0, rfl, Nat.le_refl 0, by simp [Exchange.start, requestsOf], fun _ => List.Pairwise.nil⟩
    remembered := rfl
    holder := fun _ _ _ hmem => by cases hmem
    ordered := List.Sublist.slnil
    unsent := fun _ _ hunsent => by
      obtain ⟨call, hfound, -⟩ := hunsent
      cases hfound }
  served := ⟨⟨[], rfl, rfl⟩, rfl⟩
  heard := {
    limited := hlimit
    settled := ⟨show LinkState.connected ≠ .connecting by decide, rfl⟩
    stream := fun incoming hincoming => by
      cases hincoming
      exact ⟨[], [], rfl, fun _ => rfl, by simp⟩
    outcomes := fun _ _ _ hfound => by cases hfound }

end

/-! ## Acknowledgements -/

/-- The requests of turns are those of single turns, each with all that was set up to then. -/
theorem complete_of_mem_requestsOf {turns : List Turn} {request : Wire.Request} (hmem : request ∈ requestsOf {} turns) :
    ∃ earlier turn later, turns = earlier ++ turn :: later ∧ turn.number = some request.number ∧
      ∃ set, request.payload = some (.setBreakpoints set) ∧
        IsComplete ((earlier ++ [turn]).map (·.queued)) set := by
  induction turns using List.reverseRecOn with
  | nil => cases hmem
  | append_singleton turns turn ih =>
    rw [requestsOf_concat] at hmem
    rcases List.mem_append.1 hmem with hbefore | hlast
    · obtain ⟨earlier, other, later, rfl, hother⟩ := ih hbefore
      exact ⟨earlier, other, later ++ [turn], by simp, hother⟩
    · obtain ⟨number, hnumber, rfl⟩ := Option.map_eq_some_iff.1 (Option.mem_toList.1 hlast)
      refine ⟨turns, turn, [], rfl, hnumber, _, rfl, ?_⟩
      rw [List.map_append, List.map_singleton, ← Breakpoints.after_concat]
      exact Breakpoints.toWire_complete _

/-- What comes up to the last element of a list, comes up to it in a sublist too. -/
theorem eq_concat_of_sublist {α : Type} {first second before : List α} {a : α}
    (hsub : (first ++ second).Sublist (before ++ [a])) (hmem : a ∈ first) (hnew : a ∉ before) :
    second = [] ∧ ∃ init, first = init ++ [a] := by
  obtain ⟨front, back, heq, hfront, hback⟩ := List.sublist_append_iff.1 hsub
  have hnone : a ∉ front := fun h => hnew (hfront.subset h)
  rcases List.sublist_singleton.1 hback with rfl | rfl
  · rw [List.append_nil] at heq
    exact absurd (heq ▸ List.mem_append_left _ hmem) hnone
  · rcases List.eq_nil_or_concat second with rfl | ⟨init, last, rfl⟩
    · exact ⟨rfl, front, by simpa using heq⟩
    · rw [List.concat_eq_append, ← List.append_assoc] at heq
      have hinit := List.append_inj_left' heq rfl
      exact absurd (hinit ▸ List.mem_append_left _ hmem) hnone

/-- The breakpoints that some requests set are set by those of them that set breakpoints. -/
theorem filterMap_breakpointsOf? (requests : List Wire.Request) :
    (requests.filter SetsBreakpoints).filterMap breakpointsOf? = requests.filterMap breakpointsOf? := by
  rw [List.filterMap_filter]
  refine List.filterMap_congr fun request _ => ?_
  cases hset : breakpointsOf? request <;> simp [SetsBreakpoints, hset]

section

variable {e : Exchange} {requests : List Wire.Request}

/-- Once the server has handled the request of the last turn, it has handled no other of its kind after it. -/
theorem Reached.breakpoints_eq (hreached : Reached e requests) (hbound : e.begun < UInt64.size) {earlier : List Turn}
    {queued : Queued} {number : UInt64} (hturns : e.turns = earlier ++ [⟨queued, some number⟩])
    {request : Wire.Request} (hhandled : request ∈ e.server.handled) (hnumber : request.number = number)
    (hset : SetsBreakpoints request) : e.server.breakpoints = (({} : Breakpoints).after e.updates).toWire := by
  obtain ⟨later, hrequests, -⟩ := hreached.served.handled
  obtain ⟨count, -, hcount, -, hdistinct⟩ := hreached.lined.numbered
  have hdistinct := hdistinct (by omega)
  have hordered := hreached.lined.ordered
  have hlast : requestsOf {} e.turns = requestsOf {} earlier ++
      [{ number, payload := some (.setBreakpoints (({} : Breakpoints).after e.updates).toWire) }] := by
    rw [updates, hturns, requestsOf_concat, List.map_append, List.map_singleton, Breakpoints.after_concat]
    rfl
  rw [hlast] at hdistinct
  rw [hlast, hrequests, List.filter_append] at hordered
  have hmem : request ∈ e.server.handled.filter SetsBreakpoints := List.mem_filter.2 ⟨hhandled, hset⟩
  -- No two turns have the same number, so the request is the last turn's.
  have hbefore : ∀ other ∈ requestsOf {} earlier, other.number ≠ number :=
    fun other hother => (List.pairwise_append.1 hdistinct).2.2 other hother _ (List.mem_singleton_self _)
  have hrequest : request =
      { number, payload := some (.setBreakpoints (({} : Breakpoints).after e.updates).toWire) } := by
    rcases List.mem_append.1 (hordered.subset (List.mem_append_left _ hmem)) with hother | hown
    · exact absurd hnumber (hbefore _ hother)
    · exact List.mem_singleton.1 hown
  rw [← hrequest] at hordered
  obtain ⟨-, init, hinit⟩ := eq_concat_of_sublist hordered hmem fun hother => hbefore _ hother hnumber
  rw [hreached.served.held, ← filterMap_breakpointsOf?, hinit, hrequest]
  simp [breakpointsOf?]

/-- When the call that has the turn is acknowledged, the server holds all that was set. -/
theorem Reached.acknowledged (hreached : Reached e requests) (hbound : e.begun < UInt64.size)
    {action : Connection.Action} {operation : Nat} {number : UInt64} {lines : List Int32}
    (hmem : (operation, ⟨number, .breakpoints lines⟩) ∈ e.session.running)
    (hanswered : .answered number (.ok .setBreakpoints) ∈ (e.session.connection.step action).2) :
    e.server.breakpoints = (({} : Breakpoints).after e.updates).toWire := by
  obtain ⟨-, earlier, queued, hturns⟩ := hreached.lined.holder operation number lines hmem
  obtain ⟨call, -, hfound, -, hend⟩ := (Connection.step_callStep e.session.connection action).answered
    (Connection.did_mem_moments.2 hanswered)
  have houtcome : ∃ event, call.outcome = some (.ok event) ∧ event.payload = some .setBreakpoints := by
    rcases hend with ⟨outcome, houtcome, hresult⟩ | ⟨error, herror, -⟩
    · obtain ⟨event, rfl, hpayload⟩ := Connection.payload_of_result hresult.symm
      exact ⟨event, houtcome, hpayload⟩
    · cases herror
  obtain ⟨event, houtcome, hpayload⟩ := houtcome
  obtain ⟨hown, hmay⟩ := hreached.heard.outcomes number call event hfound houtcome
  -- The number of a turn is not 0, so what has come is an acknowledgement.
  have hnonzero : number ≠ 0 := by
    obtain ⟨count, -, hcount, hearlier, -⟩ := hreached.lined.numbered
    obtain ⟨before, hbefore, hnth⟩ := hearlier
      { number, payload := some (.setBreakpoints (({} : Breakpoints).after e.updates).toWire) } (by
        rw [updates, hturns, requestsOf_concat, List.map_append, List.map_singleton, Breakpoints.after_concat]
        exact List.mem_append_right _ (List.mem_singleton_self _))
    have hnth : number = Connection.nth before := hnth
    exact hnth ▸ Connection.nth_ne_zero (by omega)
  obtain ⟨request, hhandled, hnumber, hset⟩ := hmay hpayload (hown ▸ hnonzero)
  exact hreached.breakpoints_eq hbound hturns hhandled (hnumber.trans hown) hset

/-- A `setBreakpoints` that ends well has waited for its acknowledgement. -/
theorem waiting_of_finish {files : FileTree} {root : Option String} {s : State} {waiting : Waiting}
    {reply : Except CallError Wire.Event.Payload} {lines : List Int32}
    (hresult : (s.finish files root waiting reply).1 = .ok (.breakpoints lines)) :
    waiting = .breakpoints lines ∧ reply = .ok .setBreakpoints := by
  cases waiting with
  | breakpoints own =>
    rcases reply with error | payload
    · cases hresult
    · cases payload <;> first | (cases hresult; exact ⟨rfl, rfl⟩) | cases hresult
  | frames thread epoch =>
    simp only [State.finish] at hresult
    split at hresult
    · cases hresult
    · split at hresult <;> cases hresult
  | listing thread epoch =>
    simp only [State.finish] at hresult
    split at hresult
    · cases hresult
    · split at hresult <;> cases hresult
  | evaluation thread epoch expression =>
    simp only [State.finish] at hresult
    split at hresult <;> cases hresult
  | _ =>
    have hdone : ∀ {α : Type} (result : Except Error α),
        result.map (fun _ => Answer.done) ≠ .ok (.breakpoints lines) := by
      intro α result
      cases result <;> simp [Except.map]
    exact absurd hresult (hdone _)

/-- No `setBreakpoints` ends well as it begins. -/
theorem not_ended_of_prepare (s : Session) (operation other : Nat) (what : Operation) (lines : List Int32) :
    .ended other (.ok (.breakpoints lines)) ∉ (s.prepare operation what).2 := by
  have hstart : (s.state.start what).1 ≠ .answered (.ok (.breakpoints lines)) := by
    cases what with
    | listVariables reference =>
      simp only [State.start, State.startVariables]
      split
      · split <;> simp
      · split <;> simp
      · simp
    | evaluate frame expression =>
      simp only [State.start]
      split <;> simp
    | _ => simp [State.start]
  unfold Session.prepare
  rcases hwhat : s.state.start what with ⟨result | ⟨request, waiting⟩, state⟩
  · simp only [hwhat] at hstart
    simp only [List.mem_singleton, SessionEffect.ended.injEq, not_and]
    rintro - rfl
    exact hstart rfl
  · dsimp only
    split
    · simp only [Session.finish, List.mem_cons, reduceCtorEq, List.not_mem_nil, or_false, false_or,
        SessionEffect.ended.injEq, not_and]
      rintro - hresult
      cases (waiting_of_finish hresult.symm).2
    · simp

theorem not_ended_of_move (s : Session) {m : Session.Move}
    (hbegins : m = .prepareTurn ∨ ∃ operation what, m = .prepare operation what) (other : Nat) (lines : List Int32) :
    .ended other (.ok (.breakpoints lines)) ∉ (s.move m).2 := by
  rcases hbegins with rfl | ⟨operation, what, rfl⟩
  · simp only [Session.move]
    split
    · exact not_ended_of_prepare _ _ _ _ _
    · simp
  · simp only [Session.move]
    split
    · split
      · exact not_ended_of_prepare _ _ _ _ _
      · simp
    · exact not_ended_of_prepare _ _ _ _ _

/-- A `setBreakpoints` that ends well after a step of the connection ends with the acknowledgement of its call. -/
theorem Reached.ended_of_link (hreached : Reached e requests) (hbound : e.begun < UInt64.size)
    {action : Connection.Action} {operation : Nat} {lines : List Int32}
    (hended : .ended operation (.ok (.breakpoints lines)) ∈ (e.session.link (·.step action)).2) :
    e.server.breakpoints = (({} : Breakpoints).after e.updates).toWire := by
  rcases e.session.link_cases action with ⟨answer, owner, ⟨number, waiting⟩, heffects, hmem, hlink⟩ | ⟨-, hlink⟩
  · rw [hlink] at hended
    have hresult : (State.finish e.session.files e.session.root e.session.state waiting answer).1
        = .ok (.breakpoints lines) := by
      simp only [Session.finish, List.mem_cons, reduceCtorEq, List.not_mem_nil, or_false, false_or,
        SessionEffect.ended.injEq] at hended
      exact hended.2.symm
    obtain ⟨rfl, rfl⟩ := waiting_of_finish hresult
    exact hreached.acknowledged hbound hmem (heffects ▸ List.mem_singleton_self _)
  · rw [hlink] at hended
    obtain ⟨effect, -, heq⟩ := List.mem_map.1 hended
    cases heq

/-- When a `setBreakpoints` ends well, the server holds all that was set. -/
theorem Reached.ended (hreached : Reached e requests) (hbound : e.begun < UInt64.size) {action : Action}
    {operation : Nat} {lines : List Int32}
    (hended : .ended operation (.ok (.breakpoints lines)) ∈ (e.step action).2) :
    IsComplete (e.step action).1.updates (e.step action).1.server.breakpoints := by
  -- It ends with a step of the connection, which changes neither what was set nor what the server holds.
  have hcomplete : ∀ {step : Connection.Action},
      .ended operation (.ok (.breakpoints lines)) ∈ (e.session.link (·.step step)).2 →
      IsComplete e.updates e.server.breakpoints := by
    intro step hlink
    rw [hreached.ended_of_link hbound hlink]
    exact Breakpoints.toWire_complete _
  cases action with
  | begin what =>
    refine absurd hended ?_
    have hmove := not_ended_of_move e.session (.inr ⟨e.begun, what, rfl⟩) operation lines
    simp only [Exchange.step, Exchange.begin]
    split
    · split <;> exact hmove
    · exact hmove
  | takeTurn =>
    refine absurd hended ?_
    have hmove := not_ended_of_move e.session (.inl rfl) operation lines
    simp only [Exchange.step, Exchange.takeTurn]
    split
    · exact hmove
    · simp
  | collect other =>
    simp only [Exchange.step, Session.collect] at hended
    split at hended
    · exact @hcomplete (.collect _) hended
    · cases hended
  | expire other =>
    simp only [Exchange.step, Session.expire] at hended
    split at hended
    · exact @hcomplete (.expire _) hended
    · cases hended
  | handleEvent payload => simp [Exchange.step, Session.handleEvent] at hended
  | link step =>
    cases step with
    | issue payload => cases hended
    | arrive bytes => cases hended
    | _ => exact hcomplete hended
  | deliver count => exact hcomplete hended
  | _ => cases hended

end

/-! ## The exchange as a whole -/

/-- However many updates are under way at once, in a session with a server that handles requests in their order:

* All that is written are whole requests, and those to set breakpoints come in the order of the turns.
* The request of a turn sets, for each source, the list that was set last up to this turn, and nothing else.
* No update is lost: those that were not withdrawn from the line had their turns in the order in which they were asked
  for, or are still in line.
* When one of them ends well, the server holds exactly what was set by all that have had their turns. An acknowledgement
  is told from an old one by its number, so there must not have been as many calls as there are numbers. -/
theorem every_update_reaches_the_server (setup : ConnectionSetup) (hlimit : setup.maxFrameBytes < UInt64.size)
    (files : FileTree) (root : Option String) (actions : List Action) :
    let e := (start setup files root).run actions
    (∃ requests,
      Wire.drain e.session.connection.setup.maxFrameBytes Wire.Request.decode e.wire = ⟨requests, none, []⟩ ∧
      (requests.filter SetsBreakpoints).Sublist (requestsOf {} e.turns)) ∧
    (∀ request ∈ requestsOf {} e.turns, ∃ earlier turn later, e.turns = earlier ++ turn :: later ∧
      turn.number = some request.number ∧ ∃ set, request.payload = some (.setBreakpoints set) ∧
        IsComplete ((earlier ++ [turn]).map (·.queued)) set) ∧
    e.asked.filter (·.operation ∉ e.withdrawn) = e.updates ++ e.session.queue ∧
    (e.begun < UInt64.size → ∀ action operation lines,
      .ended operation (.ok (.breakpoints lines)) ∈ (e.step action).2 →
        IsComplete (e.step action).1.updates (e.step action).1.server.breakpoints) := by
  intro e
  obtain ⟨requests, hreached⟩ := (Reached.start setup hlimit files root).run actions
  have hdrained := Wire.drain_frames requests hreached.heard.limited hreached.lined.fits Wire.Request.decode_encode
  rw [← hreached.lined.wire] at hdrained
  exact ⟨⟨requests, hdrained, hreached.lined.ordered⟩, fun request hmem => complete_of_mem_requestsOf hmem,
    hreached.lined.line, fun hbound action operation lines hended => hreached.ended hbound hended⟩

/-- Three updates at once, the last of which takes back the first. -/
theorem every_update_reaches_the_server_concurrently :
    let line (line : Int32) : SourceBreakpoint := { line, condition := none }
    let turn (number : UInt64) : List Action :=
      [.link (.transmit number), .handle, .tell { number, payload := some .setBreakpoints }, .deliver 100, .link .read]
    let actions : List Action :=
      [.begin (.setBreakpoints "a" [line 3]), .begin (.setBreakpoints "b" [line 7]), .begin (.setBreakpoints "a" [])] ++
        turn 1 ++ [.collect 0, .takeTurn] ++ turn 2 ++ [.collect 1, .takeTurn] ++ turn 3
    let e := (start {} {} none).run actions
    (ConnectionSetup.maxFrameBytes {} < UInt64.size ∧ e.begun < UInt64.size ∧
      .ended 2 (.ok (.breakpoints [])) ∈ (e.step (.collect 2)).2) ∧
    IsComplete (e.step (.collect 2)).1.updates (e.step (.collect 2)).1.server.breakpoints ∧
      (e.step (.collect 2)).1.server.breakpoints = [(line 7).toWire "b"] := by
  intro line turn actions e
  have hlimit : ConnectionSetup.maxFrameBytes {} < UInt64.size := by decide +kernel
  have hbound : e.begun < UInt64.size := by decide +kernel
  have hended : .ended 2 (.ok (.breakpoints [])) ∈ (e.step (.collect 2)).2 := by
    rw [← mem_endingsOf]
    decide +kernel
  obtain ⟨-, -, -, hcomplete⟩ := every_update_reaches_the_server {} hlimit {} none actions
  exact ⟨⟨hlimit, hbound, hended⟩, hcomplete hbound (.collect 2) 2 [] hended, by decide +kernel⟩

end Exchange

end DebugBridge.Debugger
