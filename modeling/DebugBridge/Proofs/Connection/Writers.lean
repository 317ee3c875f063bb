import DebugBridge.Proofs.Connection.Line

/-!
# Who holds the writer

Any number of dials may be under way at once, and each of them installs its stream as the writer before it looks whether
it comes too late. One that comes too late then takes back whatever the writer is. So a connection that is there has the
stream it reads from for its writer as long as no dial comes too late, and none at all after one that does:
`writers_are_lost_to_late_dials`.
-/

namespace DebugBridge.Connection

/-! ## What a step does to the dials -/

/-- What the dials share is the same in two connections, as far as the later one is not closed. -/
structure Apart (c c' : Connection) : Prop where
  dialed : c'.dialed = c.dialed
  writer : c'.writer = c.writer
  leaving : c.leaving ≤ c'.leaving
  staying : c'.closed = false → c'.leaving = c.leaving
  state : c'.closed = false → c'.state = c.state
  stream : c'.closed = false → c'.incoming.map (·.stream) = c.incoming.map (·.stream)

/-- What a step can do to the dials and to the writer. -/
inductive DialMove (c : Connection) : Action → Connection → List Effect → Prop
  /-- The step is no concern of theirs. -/
  | aside {action : Action} {c' : Connection} {effects : List Effect} (apart : Apart c c')
      (dials : c'.dials = c.dials) (silent : ∀ dial ending, .dialed dial ending ∉ effects) : DialMove c action c' effects
  /-- A shutdown takes the writer away. -/
  | leaves {effects : List Effect} (left : c.leaving ≠ 0) (silent : ∀ dial ending, .dialed dial ending ∉ effects) :
      DialMove c .leave { c with writer := none, leaving := c.leaving - 1 } effects
  /-- A dial begins. -/
  | begins (waits : c.state = .connecting) (wasOpen : c.closed = false) :
      DialMove c .dial { c with dialed := c.dialed + 1, dials := Assoc.insert c.dialed (.opening 1) c.dials } []
  /-- A dial ends as it begins. -/
  | refusedAtOnce {dials : List (Nat × Dial)} (kept : dials = c.dials ∨ dials = Assoc.erase c.dialed c.dials)
      (error : CallError) : DialMove c .dial { c with dialed := c.dialed + 1, dials } [.dialed c.dialed (.error error)]
  /-- A dial goes on to its next stage. A new attempt begins only on an open connection. -/
  | goesOn {action : Action} {effects : List Effect} {dial : Nat} {stage later : Dial}
      (found : Assoc.find? dial c.dials = some stage) (onTime : later ≠ .discarding) (before : stage ≠ .discarding)
      (attempts : ∀ attempt, later = .opening attempt → c.closed = false)
      (silent : ∀ dial ending, .dialed dial ending ∉ effects) : DialMove c action (c.setDial dial later) effects
  /-- A stream is open, but comes too late. -/
  | late {dial : Nat} {stream : StreamId} (found : Assoc.find? dial c.dials = some (.attaching stream))
      (tooLate : c.closed = true ∨ c.state ≠ .connecting) :
      DialMove c (.attach dial) ({ c with writer := some stream }.setDial dial .discarding) []
  /-- A stream is installed. -/
  | installs {dial : Nat} {stream : StreamId} (found : Assoc.find? dial c.dials = some (.attaching stream))
      (wasOpen : c.closed = false) (waits : c.state = .connecting) :
      DialMove c (.attach dial)
        { c with
          writer := some stream, state := .connected, incoming := some { stream }, dials := Assoc.erase dial c.dials }
        [.told .connected, .dialed dial (.ok ())]
  /-- What came too late is taken back. -/
  | takesBack {dial : Nat} (found : Assoc.find? dial c.dials = some .discarding) :
      DialMove c (.discard dial) { c with writer := none, dials := Assoc.erase dial c.dials }
        ((c.writer.map Effect.hungUp).toList ++ [.dialed dial (.error .connectionClosed)])
  /-- A dial gives up. -/
  | givesUp {action : Action} {state : LinkState} {before : List Effect} {dial : Nat} {stage : Dial}
      (found : Assoc.find? dial c.dials = some stage) (onTime : stage ≠ .discarding)
      (fails : state = c.state ∨ state = .failed) (silent : ∀ dial ending, .dialed dial ending ∉ before) (error : CallError) :
      DialMove c action { c with state, dials := Assoc.erase dial c.dials } (before ++ [.dialed dial (.error error)])
  /-- A dial is dropped. -/
  | dropped (dial : Nat) : DialMove c (.dropDial dial) { c with dials := Assoc.erase dial c.dials } []

section

variable {c : Connection}

theorem Apart.refl (c : Connection) : Apart c c :=
  ⟨rfl, rfl, Nat.le_refl _, fun _ => rfl, fun _ => rfl, fun _ => rfl⟩

/-- Who is closed need not agree in more than the dials and the writer. -/
theorem Apart.of_closed {c' : Connection} (hdialed : c'.dialed = c.dialed) (hwriter : c'.writer = c.writer)
    (hleaving : c.leaving ≤ c'.leaving) (hclosed : c'.closed = true) : Apart c c' := by
  have hnot : c'.closed ≠ false := by simp [hclosed]
  exact ⟨hdialed, hwriter, hleaving, fun h => absurd h hnot, fun h => absurd h hnot, fun h => absurd h hnot⟩

/-- Closing, with whatever becomes of the stream that is read. -/
theorem close_apart (c : Connection) (incoming : Option Incoming) (error : Option String) :
    Apart c ({ c with incoming }.close error).1 := by
  unfold close
  split
  · next hclosed => exact .of_closed rfl rfl (Nat.le_refl _) hclosed
  · exact .of_closed rfl rfl (Nat.le_refl _) rfl

theorem shutdown_apart (c : Connection) : Apart c c.shutdown.1 := by
  have hapart := close_apart c c.incoming none
  exact .of_closed hapart.dialed hapart.writer (Nat.le_succ_of_le hapart.leaving) (close_closed c none)

theorem dispatch_apart (c : Connection) (event : Wire.Event) : Apart c (c.dispatch event).1 := by
  have hsame : ∀ (pending : List UInt64) (calls : List (UInt64 × Call)), Apart c { c with pending, calls } :=
    fun _ _ => ⟨rfl, rfl, Nat.le_refl _, fun _ => rfl, fun _ => rfl, fun _ => rfl⟩
  unfold dispatch forget
  split
  · exact .refl c
  · split
    · dsimp only
      split
      · exact hsame _ _
      · exact hsame _ c.calls
    · exact .refl c

/-- A step that is none of the dials' leaves the writer alone, unless a shutdown takes it away. -/
theorem step_apart {action : Action} (haside : action.ofDial = false) (hother : action ≠ .leave) :
    Apart c (c.step action).1 := by
  have hself := Apart.refl c
  by_cases hcall : action.ofCall = true
  · have hsame := step_ofCalls c hcall
    exact ⟨hsame.dialed, hsame.writer, Nat.le_of_eq hsame.leaving.symm, fun _ => hsame.leaving, fun _ => hsame.state,
      fun _ => by rw [hsame.incoming]⟩
  cases action with
  | dial | opened _ _ | refused _ _ | retry _ | giveUp _ | attach _ | discard _ | dropDial _ => cases haside
  | leave => exact absurd rfl hother
  | arrive bytes =>
    simp only [Connection.step, arrive]
    split
    · next incoming hincoming =>
      split
      · exact hself
      · exact ⟨rfl, rfl, Nat.le_refl _, fun _ => rfl, fun _ => rfl, fun _ => by simp [hincoming]⟩
    · exact hself
  | arriveEnd =>
    simp only [Connection.step, arriveEnd]
    split
    · next incoming hincoming =>
      exact ⟨rfl, rfl, Nat.le_refl _, fun _ => rfl, fun _ => rfl, fun _ => by simp [hincoming]⟩
    · exact hself
  | read =>
    simp only [Connection.step, read]
    split
    · exact hself
    · next incoming hincoming =>
      split
      · next event rest _ =>
        have hpassed := dispatch_apart { c with incoming := some { incoming with unread := rest } } event
        exact { hpassed with stream := fun hopen => by simpa [hincoming] using hpassed.stream hopen }
      · exact close_apart c none _
      · split
        · exact hself
        · exact close_apart c none _
  | readFailed cause =>
    simp only [Connection.step, readFailed]
    split
    · exact close_apart c none _
    · exact hself
  | stopReading =>
    simp only [Connection.step, stopReading]
    split
    · next hclosed => exact .of_closed rfl rfl (Nat.le_refl _) hclosed
    · exact hself
  | shutdown => exact shutdown_apart c
  | _ => exact absurd rfl hcall

/-- Every step is one of these. -/
theorem step_dialMove (c : Connection) (action : Action) : DialMove c action (c.step action).1 (c.step action).2 := by
  have hself : ∀ {action : Action}, DialMove c action c [] := .aside (.refl c) rfl (by simp)
  have hattempt : ∀ {action : Action} {dial : Nat} {stage : Dial} (number : Nat), stage ≠ .discarding →
      Assoc.find? dial c.dials = some stage →
      DialMove c action (c.attempt dial number).1 (c.attempt dial number).2 := by
    intro action dial stage number hstage hfound
    unfold attempt
    split
    · exact @DialMove.givesUp c action c.state [] dial stage hfound hstage (.inl rfl) (by simp) _
    · next hopen => exact .goesOn hfound (by simp) hstage (fun _ _ => by simpa using hopen) (by simp)
  by_cases haside : action.ofDial = false
  · by_cases hleave : action = .leave
    · subst hleave
      simp only [Connection.step, leave]
      split
      · exact hself
      · next hleft =>
        refine .leaves hleft fun dial ending hmem => ?_
        cases hwriter : c.writer <;> simp [takeWriter, hwriter] at hmem
    · obtain ⟨hdials, -, hsilent⟩ := @step_aside c action haside
      exact .aside (step_apart haside hleave) hdials hsilent
  cases action with
  | dial =>
    simp only [Connection.step, dial]
    split
    · exact .refusedAtOnce (.inl rfl) _
    · next hwaits =>
      unfold attempt
      dsimp only
      split
      · exact .refusedAtOnce (.inr rfl) _
      · next hopen => exact .begins (by simpa using hwaits) (by simpa using hopen)
  | opened dial stream =>
    simp only [Connection.step, opened]
    split
    · next hfound => exact .goesOn hfound (by simp) (by simp) (by simp) (by simp)
    · exact hself
  | refused dial cause =>
    simp only [Connection.step, refused]
    split
    · next attempt hfound =>
      split
      · exact .goesOn hfound (by simp) (by simp) (by simp) (by simp)
      · exact @DialMove.givesUp c _ .failed [.told (.connectFailed attempt cause)] dial _ hfound (by simp) (.inr rfl)
          (by simp) _
    · exact hself
  | retry dial =>
    simp only [Connection.step, retry]
    split
    · next hfound => exact hattempt _ (by simp) hfound
    · exact hself
  | giveUp dial =>
    simp only [Connection.step, giveUp]
    split
    · next hfound =>
      split
      · exact @DialMove.givesUp c _ c.state [] dial _ hfound (by simp) (.inl rfl) (by simp) _
      · exact hself
    · exact hself
  | attach dial =>
    simp only [Connection.step, attach]
    split
    · next hfound =>
      split
      · next htooLate => exact .late hfound htooLate
      · next hnew =>
        simp only [ne_eq, not_or, Bool.not_eq_true, Decidable.not_not] at hnew
        exact .installs hfound hnew.1 hnew.2
    · exact hself
  | discard dial =>
    simp only [Connection.step, discard]
    split
    · next hfound => exact .takesBack hfound
    · exact hself
  | dropDial dial => exact .dropped dial
  | _ => exact absurd rfl haside

/-! ## Streams that come too late -/

/-- A step by which a stream comes too late for a connection that is there. -/
def ComesLate (c : Connection) (action : Action) : Prop :=
  ∃ dial stream, action = .attach dial ∧ Assoc.find? dial c.dials = some (.attaching stream) ∧ c.state = .connected

/-- Somewhere in a run a stream comes too late. -/
def CameLate (c : Connection) (actions : List Action) : Prop :=
  ∃ before action after, actions = before ++ action :: after ∧ (c.run before).1.ComesLate action

theorem CameLate.head {action : Action} (hlate : c.ComesLate action) (later : List Action) :
    CameLate c (action :: later) :=
  ⟨[], action, later, rfl, hlate⟩

theorem CameLate.cons {action : Action} {actions : List Action} (hlate : CameLate (c.step action).1 actions) :
    CameLate c (action :: actions) := by
  obtain ⟨before, last, after, rfl, hlast⟩ := hlate
  exact ⟨action :: before, last, after, rfl, hlast⟩

/-- No dial has come too late. -/
def Punctual (c : Connection) : Prop :=
  ∀ dial, Assoc.find? dial c.dials ≠ some .discarding

/-- A connection that is there reads from a stream, and writes to the same one unless another one came too late. -/
structure Served (c : Connection) (late : Prop) : Prop where
  parted : c.closed = true → c.state ≠ .connected
  staying : c.closed = false → c.leaving = 0
  early : c.closed = false → c.state = .connecting → Punctual c
  there : c.state = .connected → ∃ incoming, c.incoming = some incoming ∧
    (late ∨ c.writer = some incoming.stream ∧ Punctual c)

theorem Served.fresh (setup : ConnectionSetup) : Served { setup } False where
  parted := by simp
  staying := by simp
  early _ _ dial := by simp
  there := by simp

/-- A dial that ends is none that comes too late. -/
theorem Punctual.erase (hpunctual : Punctual c) (dial : Nat) {c' : Connection}
    (hdials : c'.dials = Assoc.erase dial c.dials) : Punctual c' := by
  intro other hfound
  rw [hdials, Assoc.find?_erase] at hfound
  split at hfound
  · cases hfound
  · exact hpunctual other hfound

theorem Punctual.insert (hpunctual : Punctual c) {dial : Nat} {stage : Dial} (hstage : stage ≠ .discarding)
    {c' : Connection} (hdials : c'.dials = Assoc.insert dial stage c.dials) : Punctual c' := by
  intro other hfound
  rw [hdials] at hfound
  by_cases hsame : other = dial
  · rw [hsame, Assoc.find?_insert_self] at hfound
    cases hfound
    exact hstage rfl
  · rw [Assoc.find?_insert_of_ne hsame] at hfound
    exact hpunctual other hfound

/-- A step that leaves streams, state and shutdowns as they are, and makes no dial come too late. -/
theorem Served.same {late : Prop} {c' : Connection} (hserved : Served c late) (hclosed : c'.closed = c.closed)
    (hleaving : c'.leaving = c.leaving) (hstate : c'.state = c.state) (hincoming : c'.incoming = c.incoming)
    (hwriter : c'.writer = c.writer) (hpunctual : Punctual c → Punctual c') : Served c' late where
  parted := by
    rw [hclosed, hstate]
    exact hserved.parted
  staying := by
    rw [hclosed, hleaving]
    exact hserved.staying
  early hopen hwaits := hpunctual (hserved.early (hclosed ▸ hopen) (hstate ▸ hwaits))
  there hthere := by
    obtain ⟨incoming, hfound, hwrites⟩ := hserved.there (hstate ▸ hthere)
    rw [hincoming, hwriter]
    exact ⟨incoming, hfound, hwrites.imp_right fun h => ⟨h.1, hpunctual h.2⟩⟩

theorem Served.mono {late later : Prop} (hserved : Served c late) (hlate : late → later) : Served c later :=
  { hserved with
    there := fun hthere => by
      obtain ⟨incoming, hfound, hwrites⟩ := hserved.there hthere
      exact ⟨incoming, hfound, hwrites.imp_left hlate⟩ }

/-- A connection that is not there owes no one a writer. -/
theorem Served.of_gone {late : Prop} (hstaying : c.closed = false → c.leaving = 0)
    (hearly : c.closed = false → c.state ≠ .connecting) (hgone : c.state ≠ .connected) : Served c late where
  parted _ := hgone
  staying := hstaying
  early hopen hwaits := absurd hwaits (hearly hopen)
  there hthere := absurd hthere hgone

theorem Served.step {late : Prop} (hserved : Served c late) (action : Action) :
    Served (c.step action).1 (late ∨ c.ComesLate action) := by
  have hparted : (c.step action).1.closed = true → (c.step action).1.state ≠ .connected :=
    over_step hserved.parted action
  have hopening : (c.step action).1.closed = false → c.closed = false := fun hopen =>
    Bool.eq_false_iff.2 fun hclosed => by
      rw [(step_callStep c action).closed_of_closed hclosed] at hopen
      cases hopen
  have hmove := step_dialMove c action
  generalize (c.step action).1 = c', (c.step action).2 = effects at hmove hparted hopening
  have hlater : late → late ∨ c.ComesLate action := .inl
  cases hmove with
  | aside apart dials silent =>
    have hpunctual : Punctual c → Punctual c' := fun h dial => dials ▸ h dial
    refine ⟨hparted, fun hopen => (apart.staying hopen).trans (hserved.staying (hopening hopen)), fun hopen hwaits =>
      hpunctual (hserved.early (hopening hopen) (apart.state hopen ▸ hwaits)), fun hthere => ?_⟩
    -- A connection that is there was not closed, so it reads from the stream that it has read from.
    have hopen : c'.closed = false := Bool.eq_false_iff.2 fun hclosed => hparted hclosed hthere
    obtain ⟨before, hfound, hwrites⟩ := hserved.there (apart.state hopen ▸ hthere)
    have hstream := apart.stream hopen
    rw [hfound, Option.map_some, Option.map_eq_some_iff] at hstream
    obtain ⟨incoming, hincoming, hsame⟩ := hstream
    refine ⟨incoming, hincoming, hwrites.imp hlater fun h => ⟨?_, hpunctual h.2⟩⟩
    rw [apart.writer, h.1, hsame]
  | leaves left silent =>
    have hclosed : c.closed = true := Bool.not_eq_false _ ▸ fun hopen => left (hserved.staying hopen)
    have hnot : c.closed ≠ false := by simp [hclosed]
    exact .of_gone (fun hopen => absurd hopen hnot) (fun hopen => absurd hopen hnot) (hserved.parted hclosed)
  | begins waits wasOpen =>
    refine Served.mono ?_ hlater
    exact hserved.same rfl rfl rfl rfl rfl fun h => h.insert Dial.noConfusion rfl
  | refusedAtOnce kept error =>
    refine Served.mono ?_ hlater
    refine hserved.same rfl rfl rfl rfl rfl fun h => ?_
    rcases kept with hkept | herased
    · exact fun dial => hkept ▸ h dial
    · exact h.erase _ herased
  | goesOn found onTime before attempts silent =>
    refine Served.mono ?_ hlater
    exact hserved.same rfl rfl rfl rfl rfl fun h => h.insert onTime rfl
  | @late dial stream found tooLate =>
    refine ⟨hparted, hserved.staying, fun hopen hwaits => ?_, fun hthere => ?_⟩
    · rcases tooLate with hclosed | hnot
      · exact absurd (hclosed.symm.trans hopen) (by decide)
      · exact absurd hwaits hnot
    · obtain ⟨incoming, hfound, -⟩ := hserved.there hthere
      exact ⟨incoming, hfound, .inl (.inr ⟨dial, stream, rfl, found, hthere⟩)⟩
  | installs found wasOpen waits =>
    have hpunctual := hserved.early wasOpen waits
    exact ⟨hparted, hserved.staying, fun _ hwaits => LinkState.noConfusion hwaits,
      fun _ => ⟨_, rfl, .inr ⟨rfl, hpunctual.erase _ rfl⟩⟩⟩
  | @takesBack dial found =>
    refine ⟨hparted, hserved.staying, fun hopen hwaits => absurd found (hserved.early hopen hwaits dial),
      fun hthere => ?_⟩
    obtain ⟨incoming, hfound, hwrites⟩ := hserved.there hthere
    rcases hwrites with hlate | ⟨-, hpunctual⟩
    · exact ⟨incoming, hfound, .inl (.inl hlate)⟩
    · exact absurd found (hpunctual dial)
  | givesUp found onTime fails silent error =>
    rcases fails with hsame | hfailed
    · refine Served.mono ?_ hlater
      exact hserved.same rfl rfl hsame rfl rfl fun h => h.erase _ rfl
    · exact .of_gone hserved.staying (fun _ => by simp [hfailed]) (by simp [hfailed])
  | dropped dial =>
    refine Served.mono ?_ hlater
    exact hserved.same rfl rfl rfl rfl rfl fun h => h.erase _ rfl

theorem Served.run {late : Prop} (hserved : Served c late) (actions : List Action) :
    Served (c.run actions).1 (late ∨ CameLate c actions) := by
  -- On the actions: what came too late before the first of them is carried along in `late`.
  induction actions generalizing c late with
  | nil => exact hserved.mono .inl
  | cons action actions ih =>
    refine (ih (hserved.step action)).mono ?_
    rintro ((hbefore | hnow) | hafter)
    · exact .inl hbefore
    · exact .inr (.head hnow actions)
    · exact .inr hafter.cons

/-! ## Requests -/

/-- What becomes of a request that is made on a connection that is there. -/
theorem request_of_connected (hthere : c.state = .connected) (payload : Wire.Request.Payload) :
    (c.run [.issue payload, .transmit c.nextNumber]).2 =
      match c.writer with
      | none => [.answered c.nextNumber (.error .notConnected)]
      | some stream =>
        match Wire.frame c.setup.maxFrameBytes { number := c.nextNumber, payload := some payload : Wire.Request }.encode with
        | .error error => [.answered c.nextNumber (.error (.protocol error))]
        | .ok bytes => [.wrote stream bytes] := by
  have hissue : c.issue payload = .ok (c.nextNumber, { c with
      nextNumber := c.nextNumber + 1
      pending := c.pending ++ [c.nextNumber]
      calls := Assoc.insert c.nextNumber { payload } c.calls }) := by
    simp [issue, hthere]
  simp only [run, Connection.step, hissue, transmit, Assoc.find?_insert_self, Bool.false_eq_true, if_false,
    List.nil_append, List.append_nil]
  cases c.writer with
  | none => rfl
  | some stream =>
    dsimp only
    cases Wire.frame c.setup.maxFrameBytes
      { number := c.nextNumber, payload := some payload : Wire.Request }.encode <;> rfl

/-- What a dial that comes too late does to a connection that is there: its stream becomes the writer, and then there is
no writer. -/
theorem late_dial_of_connected (hthere : c.state = .connected) {dial : Nat} {stream : StreamId}
    (hdial : Assoc.find? dial c.dials = some (.attaching stream)) :
    let late := (c.step (.attach dial)).1
    let after := late.step (.discard dial)
    (late.state = .connected ∧ late.incoming = c.incoming ∧ late.writer = some stream) ∧
      after.1.state = .connected ∧ after.1.incoming = c.incoming ∧ after.1.writer = none ∧
      after.2 = [.hungUp stream, .dialed dial (.error .connectionClosed)] := by
  have hlate : c.step (.attach dial) = ({ c with writer := some stream }.setDial dial .discarding, []) := by
    simp [Connection.step, attach, hdial, hthere]
  rw [hlate]
  refine ⟨⟨hthere, rfl, rfl⟩, ?_⟩
  simp [Connection.step, discard, setDial, takeWriter, endDial, Assoc.find?_insert_self, hthere]

end

/-- A connection that is there writes to the stream it reads from, unless another dial's stream came too late: for that
one takes the writer with it as it goes. The connection is there all the same, and every request on it ends at once, as
if it were not. -/
theorem writers_are_lost_to_late_dials (setup : ConnectionSetup) (actions : List Action) :
    let c := (run { setup } actions).1
    (c.state = .connected → ∃ incoming, c.incoming = some incoming ∧
      (CameLate { setup } actions ∨ c.writer = some incoming.stream)) ∧
    (c.state = .connected → ∀ payload,
      (c.run [.issue payload, .transmit c.nextNumber]).2 =
        match c.writer with
        | none => [.answered c.nextNumber (.error .notConnected)]
        | some stream =>
          match Wire.frame c.setup.maxFrameBytes
            { number := c.nextNumber, payload := some payload : Wire.Request }.encode with
          | .error error => [.answered c.nextNumber (.error (.protocol error))]
          | .ok bytes => [.wrote stream bytes]) ∧
    (c.state = .connected → ∀ dial stream, Assoc.find? dial c.dials = some (.attaching stream) →
      let late := (c.step (.attach dial)).1
      let after := late.step (.discard dial)
      (late.state = .connected ∧ late.incoming = c.incoming ∧ late.writer = some stream) ∧
        after.1.state = .connected ∧ after.1.incoming = c.incoming ∧ after.1.writer = none ∧
        after.2 = [.hungUp stream, .dialed dial (.error .connectionClosed)]) := by
  intro c
  refine ⟨fun hthere => ?_, fun hthere => request_of_connected hthere, fun hthere dial stream hdial =>
    late_dial_of_connected hthere hdial⟩
  have hserved : Served c (False ∨ CameLate { setup } actions) := (Served.fresh setup).run actions
  obtain ⟨incoming, hincoming, hwrites⟩ := hserved.there hthere
  refine ⟨incoming, hincoming, ?_⟩
  rcases hwrites with hlate | ⟨hwriter, -⟩
  · exact .inl (hlate.resolve_left id)
  · exact .inr hwriter

/-- A connection that is there may lack a writer: of two dials the one that opens its stream later takes the other's
writer away, and requests fail from then on. -/
theorem connected_may_lack_a_writer :
    let race := [Action.dial, .dial, .opened 1 1, .attach 1, .opened 0 0, .attach 0, .discard 0]
    let c := (run {} race).1
    (c.state = .connected ∧ c.incoming = some { stream := 1 } ∧ c.writer = none ∧ c.closed = false) ∧
    (c.run [.issue .startDebugging, .transmit 1]).2 = [.answered 1 (.error .notConnected)] ∧
    ¬ ∀ (setup : ConnectionSetup) (actions : List Action),
      let c := (run { setup } actions).1
      c.state = .connected → c.writer.isSome := by
  intro race c
  have hthere : c.state = .connected := rfl
  have hnone : c.writer = none := rfl
  refine ⟨⟨hthere, rfl, hnone, rfl⟩, rfl, fun hall => ?_⟩
  have hsome : c.writer.isSome := hall {} race hthere
  rw [hnone] at hsome
  cases hsome

end DebugBridge.Connection
