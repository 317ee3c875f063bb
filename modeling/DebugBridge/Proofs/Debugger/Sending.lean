import DebugBridge.Proofs.Connection.Posted
import DebugBridge.Proofs.Debugger.Attended
import DebugBridge.Proofs.Debugger.BreakpointSets
import DebugBridge.Proofs.Debugger.Entries

/-!
# What a session sends

An operation asks the server for something at one point only, which is its turn: where it begins, or where it comes to
be the first of those that set breakpoints and the one before it has ended. What it asks for then joins the line to the
writer, and nothing else does.
-/

namespace DebugBridge.Debugger

/-- The update that an operation makes to the breakpoints, if it sets some. -/
def Operation.update? : Operation → Option (String × List SourceBreakpoint)
  | .setBreakpoints path breakpoints => some (path, breakpoints)
  | _ => none

/-- What is remembered of the breakpoints once an operation has begun. -/
def Operation.remember (what : Operation) (known : Breakpoints) : Breakpoints :=
  match what.update? with
  | some (path, breakpoints) => known.set path breakpoints
  | none => known

namespace Session

/-- The operation that has its turn in a move. -/
def turn? (s : Session) : Move → Option (Nat × Operation)
  | .step (.start operation what) | .prepare operation what =>
    if what.update?.isSome ∧ ¬ (s.syncing = none ∧ s.queue = []) then none else some (operation, what)
  | .step .takeTurn | .prepareTurn =>
    match s.syncing, s.queue with
    | none, first :: _ => some (first.operation, .setBreakpoints first.path first.breakpoints)
    | _, _ => none
  | _ => none

/-- What an operation asks the server for, if it has its turn now. -/
def asking (s : Session) (what : Operation) : List Wire.Request.Payload :=
  if s.connection.state = .connected then (s.state.start what).1.request?.toList else []

/-- What is written to the server, piece by piece. -/
def writes (effects : List SessionEffect) : List Bytes :=
  Connection.writes (linked effects)

/-- A session that has asked for something so far: what was sent of it, and what was set. Of the operations it is said
which ones set breakpoints, and only one of these talks to the server at a time. -/
structure Posts (s : Session) (sets : Nat → Prop) (asks : List Wire.Request.Payload) (sent : List Wire.Request)
    (clean : Prop) (known : Breakpoints) : Prop where
  posted : ∃ first, s.connection.Posted asks first sent clean
  held : ∀ operation running, (operation, running) ∈ s.running → sets operation → s.syncing = some operation
  known : s.state.breakpoints = known

/-- What a session has sent after a step. -/
def Sends (sets : Nat → Prop) (asks : List Wire.Request.Payload) (sent : List Wire.Request) (clean : Prop)
    (known : Breakpoints) (result : Session × List SessionEffect) : Prop :=
  ∃ more, writes result.2 = more.map Connection.frameOf ∧ Posts result.1 sets asks (sent ++ more) clean known

/-- A session's step in which no operation has its turn: what is sent was in line before. -/
def GoesOn (s : Session) (clean : Prop) (result : Session × List SessionEffect) : Prop :=
  ∀ (sets : Nat → Prop) (asks : List Wire.Request.Payload) (sent : List Wire.Request) (known : Breakpoints),
    asks.length < UInt64.size → Posts s sets asks sent clean known →
      Sends sets asks sent clean known result ∧ result.1.queue = s.queue

section

variable {s : Session} {sets : Nat → Prop} {asks : List Wire.Request.Payload} {sent : List Wire.Request} {clean : Prop}
  {known : Breakpoints} {m : Move} {operation : Nat} {what : Operation}

theorem Posts.still (hposts : Posts s sets asks sent clean known) : Sends sets asks sent clean known (s, []) :=
  ⟨[], rfl, by rwa [List.append_nil]⟩

theorem Posts.silent {result : Session × List SessionEffect} (hposts : Posts result.1 sets asks sent clean known)
    (hsilent : linked result.2 = []) : Sends sets asks sent clean known result :=
  ⟨[], by rw [writes, hsilent]; rfl, by rwa [List.append_nil]⟩

theorem Sends.next {first second : Session × List SessionEffect} {asks' : List Wire.Request.Payload}
    {known' : Breakpoints} (hfirst : Sends sets asks sent clean known first)
    (hsecond : ∀ sent, Posts first.1 sets asks sent clean known → Sends sets asks' sent clean known' second) :
    Sends sets asks' sent clean known' (second.1, first.2 ++ second.2) := by
  obtain ⟨more, hwrote, hposts⟩ := hfirst
  obtain ⟨later, hlater, hafter⟩ := hsecond _ hposts
  refine ⟨more ++ later, ?_, by rwa [← List.append_assoc]⟩
  simp only [writes, linked, Connection.writes, List.filterMap_append, List.map_append] at hwrote hlater ⊢
  rw [hwrote, hlater]

theorem Posts.fresh (setup : ConnectionSetup) (files : FileTree) (root : Option String) (sets : Nat → Prop)
    (clean : Prop) : Posts { connection := { setup }, files, root } sets [] [] clean {} where
  posted := ⟨0, .fresh setup clean⟩
  held _ _ hmem := by cases hmem
  known := rfl

/-- What a session knows changes, though nothing is set. -/
theorem Posts.learn (hposts : Posts s sets asks sent clean known) {state : State}
    (hsame : state.breakpoints = s.state.breakpoints) : Posts { s with state } sets asks sent clean known :=
  ⟨hposts.posted, hposts.held, hsame.trans hposts.known⟩

/-- An operation that ends gives back the turn if it had it. -/
theorem Posts.release (hposts : Posts s sets asks sent clean known) (operation : Nat) :
    Posts (s.release operation) sets asks sent clean known where
  posted := hposts.posted
  held other running hmem hsets := by
    obtain ⟨hmem, hne⟩ := Assoc.mem_erase.1 hmem
    have hholds := hposts.held other running hmem hsets
    simp only [Session.release, hholds]
    exact if_neg fun heq => hne (Option.some.inj heq)
  known := hposts.known

/-! ## Steps of the connection -/

theorem linked_map_link (effects : List Effect) : linked (effects.map .link) = effects := by
  rw [linked, List.filterMap_map]
  exact List.filterMap_some

/-- Of a step of the connection everything is written that the connection writes. -/
theorem writes_link (s : Session) (action : Connection.Action) :
    writes (s.link (·.step action)).2 = Connection.writes (s.connection.step action).2 := by
  rcases s.link_cases action with ⟨answer, ended, running, heffects, -, hlink⟩ | ⟨-, hlink⟩
  · rw [hlink, heffects]
    rfl
  · rw [hlink, writes, linked_map_link]

theorem Posts.reconnect (hposts : Posts s sets asks sent clean known) {connection : Connection} {first : Nat}
    {more : List Wire.Request} (hposted : connection.Posted asks first (sent ++ more) clean) :
    Posts { s with connection } sets asks (sent ++ more) clean known :=
  ⟨⟨first, hposted⟩, hposts.held, hposts.known⟩

theorem Posts.link (hposts : Posts s sets asks sent clean known) (hbound : asks.length < UInt64.size)
    (action : Connection.Action) (hother : action.byOwner = false) (hturn : s.connection.InTurn action)
    (hclean : clean → ∀ number cause, action ≠ .transmitFailed number cause) :
    Sends sets asks sent clean known (s.link (·.step action)) ∧ (s.link (·.step action)).1.queue = s.queue := by
  obtain ⟨first, hposted⟩ := hposts.posted
  obtain ⟨first, more, hwrote, hafter⟩ := hposted.step hbound hother hturn hclean
  have hwritten := (s.writes_link action).trans hwrote
  rcases s.link_cases action with ⟨answer, ended, running, -, -, hlink⟩ | ⟨-, hlink⟩
  · -- With its call ended, the operation ends.
    have hanswered : Posts { s with
        connection := (s.connection.step action).1
        state := (s.state.finish s.files s.root running.waiting answer).2 } sets asks (sent ++ more) clean known :=
      ⟨⟨first, hafter⟩, hposts.held, (State.finish_adds _ _ _ _ _).breakpoints.trans hposts.known⟩
    rw [hlink] at hwritten ⊢
    exact ⟨⟨more, hwritten, hanswered.release ended⟩, rfl⟩
  · rw [hlink] at hwritten ⊢
    exact ⟨⟨more, hwritten, hposts.reconnect hafter⟩, rfl⟩

theorem Posts.collect (hposts : Posts s sets asks sent clean known) (hbound : asks.length < UInt64.size)
    (operation : Nat) : Sends sets asks sent clean known (s.collect operation) ∧
      (s.collect operation).1.queue = s.queue := by
  unfold Session.collect
  split
  · next running _ => exact hposts.link hbound (.collect running.number) rfl (Connection.inTurn_of_taken? rfl) (by simp)
  · exact ⟨hposts.still, rfl⟩

/-- A session goes on as its connection takes a step in which no request is taken. -/
theorem goesOn_link (s : Session) {action : Connection.Action} (hother : action.byOwner = false)
    (htaken : action.taken? = none) (hclean : ∀ number cause, action ≠ .transmitFailed number cause) :
    s.GoesOn clean (s.link (·.step action)) := by
  intro sets asks sent known hbound hposts
  exact hposts.link hbound action hother (Connection.inTurn_of_taken? htaken) fun _ => hclean

/-- The connection is shut down with both halves. -/
theorem Posts.shutdown (hposts : Posts s sets asks sent clean known) (hbound : asks.length < UInt64.size) :
    Sends sets asks sent clean known (s.link fun c =>
        let (c, first) := c.shutdown
        let (c, later) := c.leave
        (c, first ++ later)) ∧
      (s.link fun c =>
        let (c, first) := c.shutdown
        let (c, later) := c.leave
        (c, first ++ later)).1.queue = s.queue := by
  rw [link_shutdown]
  obtain ⟨hshut, hqueue⟩ := hposts.link hbound .shutdown rfl (Connection.inTurn_of_taken? rfl) (by simp)
  constructor
  · exact hshut.next fun sent hafter => (hafter.link hbound .leave rfl (Connection.inTurn_of_taken? rfl) (by simp)).1
  · obtain ⟨more, -, hafter⟩ := hshut
    exact (hafter.link hbound .leave rfl (Connection.inTurn_of_taken? rfl) (by simp)).2.trans hqueue

theorem Posts.dial (hposts : Posts s sets asks sent clean known) (hnone : s.connection.dials = [])
    (hearly : s.connection.state = .connecting ∨ s.connection.closed = true) :
    Sends sets asks sent clean known (s.link (·.dial)) ∧ (s.link (·.dial)).1.queue = s.queue := by
  obtain ⟨first, hposted⟩ := hposts.posted
  have hsilent := (Connection.dial_quiet s.connection).silent
  have hlink : s.link (·.dial)
      = ({ s with connection := s.connection.dial.1 }, s.connection.dial.2.map .link) :=
    absorb_of_not_answered fun number reply hmem => (hsilent _ hmem).elim
  rw [hlink]
  refine ⟨⟨[], ?_, ?_⟩, rfl⟩
  · rw [writes, linked_map_link]
    exact Connection.writes_of_silent hsilent
  · exact hposts.reconnect (by rw [List.append_nil]; exact hposted.dial hnone hearly)

theorem Posts.handleEvent (hposts : Posts s sets asks sent clean known) (payload : Wire.Event.Payload) :
    Sends sets asks sent clean known (s.handleEvent payload) := by
  have hsame : (s.state.handleEvent payload).2.breakpoints = s.state.breakpoints := by
    rw [State.handleEvent_eq]
  exact Posts.silent (hposts.learn hsame) rfl

/-! ## Turns -/

theorem start_remembers (s : State) (what : Operation) :
    (s.start what).2.breakpoints = what.remember s.breakpoints := by
  cases what with
  | setBreakpoints path breakpoints => rfl
  | _ => exact (State.start_adds s _).breakpoints

/-- An operation that has its turn asks for something, or has ended. -/
theorem prepare_asking (s : Session) (operation : Nat) (what : Operation) :
    s.asking what = [] ∧
      (s.prepare operation what).1 = { s with state := (s.state.start what).2 }.release operation ∨
    ∃ request waiting, s.asking what = [request] ∧ s.connection.state = .connected ∧
      (s.prepare operation what).1 = { s with
        state := (s.state.start what).2
        connection := calling s.connection request
        running := Assoc.insert operation { number := s.connection.nextNumber, waiting } s.running } := by
  have hstate := s.prepare_state operation what
  unfold prepare at hstate ⊢
  unfold asking
  rcases hstart : s.state.start what with ⟨result | ⟨request, waiting⟩, state⟩
  · exact .inl ⟨by simp [Started.request?], rfl⟩
  · by_cases hconnected : s.connection.state = .connected
    · refine .inr ⟨request, waiting, by simp [hconnected, Started.request?], hconnected, ?_⟩
      simp [Connection.issue, hconnected, calling]
    · refine .inl ⟨by simp [hconnected], ?_⟩
      simp only [hstart, Connection.issue, ne_eq, hconnected, not_false_eq_true, if_true] at hstate ⊢
      simp only [finish, release] at hstate ⊢
      rw [hstate]

theorem orderly_calling {c : Connection} (horderly : c.Orderly) (hconnected : c.state = .connected)
    (payload : Wire.Request.Payload) : (c.step (.issue payload)).1.Orderly := by
  rw [step_issue hconnected]
  exact ⟨(calling_dialStep horderly.oneDial hconnected payload).after, horderly.parted⟩

variable {syncing : Option Nat} {queue : List Queued}

/-- An operation has its turn. One that sets breakpoints is given it while nobody else of these talks to the server. -/
theorem Posts.prepare (hposts : Posts s sets asks sent clean known) (hbound : asks.length + 1 < UInt64.size)
    (hsyncing : syncing = s.syncing ∧ ¬ sets operation ∨ s.syncing = none ∧ syncing = some operation) :
    Posts ({ s with syncing, queue }.prepare operation what).1 sets (asks ++ s.asking what) sent clean
      (what.remember known) := by
  have hremembers : (s.state.start what).2.breakpoints = what.remember known := by
    rw [start_remembers, hposts.known]
  have hheld : ∀ other running, (other, running) ∈ s.running → sets other → syncing = some other := by
    intro other running hmem hsets
    have hholds := hposts.held other running hmem hsets
    rcases hsyncing with ⟨rfl, -⟩ | ⟨hnone, -⟩
    · exact hholds
    · rw [hnone] at hholds
      cases hholds
  rcases prepare_asking { s with syncing, queue } operation what with
    ⟨hnone, hprepared⟩ | ⟨request, waiting, hasks, hconnected, hprepared⟩
  · have hbegun : Posts { s with syncing, queue, state := (s.state.start what).2 } sets asks sent clean
        (what.remember known) := ⟨hposts.posted, hheld, hremembers⟩
    rw [hprepared, show s.asking what = [] from hnone, List.append_nil]
    exact hbegun.release operation
  · obtain ⟨first, hposted⟩ := hposts.posted
    have hissued := hposted.issue hbound hconnected request (orderly_calling hposted.orderly hconnected request)
    rw [step_issue hconnected] at hissued
    rw [hprepared, show s.asking what = [request] from hasks]
    refine ⟨⟨first, hissued⟩, fun other running hmem hsets => ?_, hremembers⟩
    rcases Assoc.mem_insert hmem with heq | hmem
    · cases heq
      rcases hsyncing with ⟨-, hnot⟩ | ⟨-, hmine⟩
      · exact absurd hsets hnot
      · exact hmine
    · exact hheld other running hmem hsets

theorem queue_prepare (s : Session) (operation : Nat) (what : Operation) :
    (s.prepare operation what).1.queue = s.queue := by
  rcases s.prepare_asking operation what with ⟨-, hprepared⟩ | ⟨request, waiting, -, -, hprepared⟩
  · rw [hprepared]
    rfl
  · rw [hprepared]

/-- With nobody else in line, the request goes to the writer at once. -/
theorem Posts.submit (hfree : s.connection.Free) {asks' : List Wire.Request.Payload}
    {known' : Breakpoints} (hbound : asks'.length < UInt64.size)
    (hposts : Posts ({ s with syncing, queue }.prepare operation what).1 sets asks' sent clean known') :
    Sends sets asks' sent clean known' (({ s with syncing, queue }.prepare operation what).1.submit operation) ∧
      (({ s with syncing, queue }.prepare operation what).1.submit operation).1.queue = queue := by
  have hqueue := queue_prepare { s with syncing, queue } operation what
  unfold Session.submit
  split
  · next running hfound =>
    have hturn : ({ s with syncing, queue }.prepare operation what).1.connection.InTurn (.transmit running.number) := by
      intro number htaken entry hmem hunsent
      obtain rfl : running.number = number := Option.some.inj htaken
      rcases prepare_asking { s with syncing, queue } operation what with
        ⟨-, hprepared⟩ | ⟨request, waiting, -, -, hprepared⟩
      · rw [hprepared] at hmem
        rw [hfree entry hmem] at hunsent
        cases hunsent
      · rw [hprepared] at hmem hfound
        rw [Assoc.find?_insert_self] at hfound
        cases hfound
        rcases Assoc.mem_insert hmem with rfl | hmem
        · exact UInt64.le_refl _
        · rw [hfree entry hmem] at hunsent
          cases hunsent
    obtain ⟨hsends, hsame⟩ := hposts.link hbound (.transmit running.number) rfl hturn (by simp)
    exact ⟨hsends, hsame.trans hqueue⟩
  · exact ⟨hposts.still, hqueue⟩

/-- An operation that has its turn sends what it asks for, or leaves that to the writer. -/
theorem Posts.enter (hposts : Posts s sets asks sent clean known) (hbound : asks.length + 1 < UInt64.size)
    (hsyncing : syncing = s.syncing ∧ ¬ sets operation ∨ s.syncing = none ∧ syncing = some operation)
    {result : Session × List SessionEffect} (hresult : result = { s with syncing, queue }.prepare operation what ∨
      s.connection.Free ∧ result = { s with syncing, queue }.enter operation what) :
    Sends sets (asks ++ s.asking what) sent clean (what.remember known) result ∧ result.1.queue = queue := by
  have hprepared := @Posts.prepare _ _ _ _ _ _ operation what _ queue hposts hbound hsyncing
  have hsilent := linked_prepare { s with syncing, queue } operation what
  rcases hresult with rfl | ⟨hfree, rfl⟩
  · exact ⟨hprepared.silent hsilent, queue_prepare _ operation what⟩
  · rw [enter_eq]
    have hroom : (asks ++ s.asking what).length < UInt64.size := by
      have hone : (s.asking what).length ≤ 1 := by
        unfold asking
        split
        · cases (s.state.start what).1.request? <;> simp
        · simp
      rw [List.length_append]
      omega
    refine ⟨(hprepared.silent hsilent).next fun sent hafter => (hafter.submit hfree hroom).1, ?_⟩
    exact (hprepared.submit hfree hroom).2

theorem Move.begins_cases (hbegins : m.begins? = some (operation, what)) :
    m = .prepare operation what ∨ m = .step (.start operation what) := by
  cases m with
  | prepareTurn => cases hbegins
  | prepare other what =>
    cases hbegins
    exact .inl rfl
  | step action =>
    cases action with
    | start other what =>
      cases hbegins
      exact .inr rfl
    | _ => cases hbegins

/-- An operation begins, and has its turn unless it has to wait in line. -/
theorem Posts.begins (hposts : Posts s sets asks sent clean known) (hbound : asks.length + 1 < UInt64.size)
    (hbegins : m.begins? = some (operation, what)) (hsets : what.update?.isSome ↔ sets operation)
    (hfree : (s.turn? m).isSome → m = .step (.start operation what) → s.connection.Free) :
    (s.turn? m = some (operation, what) ∧ (what.update?.isSome → s.syncing = none ∧ s.queue = []) ∧
      Sends sets (asks ++ s.asking what) sent clean (what.remember known) (s.move m) ∧
      (s.move m).1.queue = s.queue) ∨
    (s.turn? m = none ∧ ∃ path breakpoints, what = .setBreakpoints path breakpoints ∧
      s.move m = ({ s with queue := s.queue ++ [{ operation, path, breakpoints }] }, [])) := by
  have hcases := Move.begins_cases hbegins
  have hturn : s.turn? m
      = if what.update?.isSome ∧ ¬ (s.syncing = none ∧ s.queue = []) then none else some (operation, what) := by
    rcases hcases with rfl | rfl <;> rfl
  by_cases hupdate : what.update?.isSome
  · obtain ⟨path, breakpoints, rfl⟩ : ∃ path breakpoints, what = .setBreakpoints path breakpoints := by
      cases what with
      | setBreakpoints path breakpoints => exact ⟨path, breakpoints, rfl⟩
      | _ => cases hupdate
    by_cases hline : s.syncing = none ∧ s.queue = []
    · -- Nobody else sets breakpoints, so the operation is given the turn.
      rw [if_neg (by simp [hline])] at hturn
      rw [hturn] at hfree
      refine .inl ⟨hturn, fun _ => hline, ?_⟩
      refine @Posts.enter _ _ _ _ _ _ operation _ _ s.queue hposts hbound (.inr ⟨hline.1, rfl⟩) _ ?_
      rcases hcases with rfl | rfl
      · refine .inl ?_
        simp only [move, hline, and_self, if_true]
      · refine .inr ⟨hfree rfl rfl, ?_⟩
        simp only [move, step, start, hline, and_self, if_true]
    · refine .inr ⟨by rw [hturn, if_pos ⟨hupdate, hline⟩], path, breakpoints, rfl, ?_⟩
      rcases hcases with rfl | rfl
      · simp only [move, hline, if_false]
      · simp only [move, step, start, hline, if_false]
  · rw [if_neg fun h => hupdate h.1] at hturn
    rw [hturn] at hfree
    refine .inl ⟨hturn, fun h => absurd h hupdate, ?_⟩
    refine @Posts.enter _ _ _ _ _ _ operation _ _ s.queue hposts hbound (.inl ⟨rfl, hsets.not.1 hupdate⟩) _ ?_
    have hother : ∀ path breakpoints, what ≠ .setBreakpoints path breakpoints := by
      rintro path breakpoints rfl
      exact hupdate rfl
    rcases hcases with rfl | rfl
    · refine .inl ?_
      cases what with
      | setBreakpoints path breakpoints => exact absurd rfl (hother path breakpoints)
      | _ => rfl
    · refine .inr ⟨hfree rfl rfl, ?_⟩
      cases what with
      | setBreakpoints path breakpoints => exact absurd rfl (hother path breakpoints)
      | _ => rfl

/-- The first in line gets its turn once nobody else has it. -/
theorem Posts.turns (hposts : Posts s sets asks sent clean known)
    (hbound : s.queue ≠ [] → asks.length + 1 < UInt64.size)
    (hm : m = .prepareTurn ∨ m = .step .takeTurn ∧ ((s.turn? m).isSome → s.connection.Free)) :
    (∃ queued queue, s.syncing = none ∧ s.queue = queued :: queue ∧
      s.turn? m = some (queued.operation, .setBreakpoints queued.path queued.breakpoints) ∧
      Sends sets (asks ++ s.asking (.setBreakpoints queued.path queued.breakpoints)) sent clean
        (known.set queued.path queued.breakpoints) (s.move m) ∧ (s.move m).1.queue = queue) ∨
    (s.turn? m = none ∧ s.move m = (s, [])) := by
  have hturn : s.turn? m = match s.syncing, s.queue with
      | none, first :: _ => some (first.operation, .setBreakpoints first.path first.breakpoints)
      | _, _ => none := by
    rcases hm with rfl | ⟨rfl, -⟩ <;> rfl
  by_cases hnext : ∃ queued queue, s.syncing = none ∧ s.queue = queued :: queue
  · obtain ⟨queued, queue, hsyncing, hqueue⟩ := hnext
    rw [hsyncing, hqueue] at hturn
    rw [hturn] at hm
    refine .inl ⟨queued, queue, hsyncing, hqueue, hturn, ?_⟩
    refine @Posts.enter _ _ _ _ _ _ queued.operation (.setBreakpoints queued.path queued.breakpoints) _ queue hposts
      (hbound (by simp [hqueue])) (.inr ⟨hsyncing, rfl⟩) _ ?_
    rcases hm with rfl | ⟨rfl, hfree⟩
    · refine .inl ?_
      simp only [move, hsyncing, hqueue]
    · refine .inr ⟨hfree rfl, ?_⟩
      simp only [move, step, takeTurn, hsyncing, hqueue]
  · -- Somebody has the turn, or nobody is in line.
    refine .inr ⟨?_, ?_⟩
    · rw [hturn]
      split
      · next queued queue hsyncing hqueue => exact absurd ⟨queued, queue, hsyncing, hqueue⟩ hnext
      · rfl
    · rcases hm with rfl | ⟨rfl, -⟩
      · simp only [move]
        split
        · next queued queue hsyncing hqueue => exact absurd ⟨queued, queue, hsyncing, hqueue⟩ hnext
        · rfl
      · simp only [move, step, takeTurn]
        split
        · next queued queue hsyncing hqueue => exact absurd ⟨queued, queue, hsyncing, hqueue⟩ hnext
        · rfl

end

end Session

end DebugBridge.Debugger
