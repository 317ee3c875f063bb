import DebugBridge.Proofs.Debugger.Walks

/-!
# An editor sees what there is

`Charted` ties a session to what was written down of its walks: every operation under way is tied to its request, what
has come for it is what the server has to show, and what is seen at the end of a path is what lies there. Every kind of
step keeps it, so it holds throughout, whatever is asked in between.
-/

namespace DebugBridge.Debugger

/-- What a session has shown is what there is, and so is all that has come for the operations meant. -/
structure Charted (data : ServerData) (meant : Nat → Prop) (s : Session) (o : Observer) (w : Walk) : Prop where
  asked : ∀ operation what, Assoc.find? operation w.begun = some what → Assoc.find? operation o.asked = some what
  tied : ∀ operation running, (operation, running) ∈ s.running → meant operation →
    Tied w o.handouts s.state.epoch operation running.waiting
  heard : ∀ operation running request, (operation, running) ∈ s.running → meant operation →
    Assoc.find? operation w.requests = some request →
      ∀ call event, Assoc.find? running.number s.connection.calls = some call → call.outcome = some (.ok event) →
        data.gives request event.payload = true
  seen : ∀ thread path view, Sees thread w.seen path view → Renders o.handouts thread view (data.listed thread path)

namespace Charted

variable {data : ServerData} {meant : Nat → Prop} {s : Session} {o : Observer} {w : Walk} {operation : Nat}

theorem but (hcharted : Charted data (fun _ => True) s o w) (operation : Nat) :
    Charted data (· ≠ operation) s o w where
  asked := hcharted.asked
  tied other running hmem _ := hcharted.tied other running hmem trivial
  heard other running request hmem _ := hcharted.heard other running request hmem trivial
  seen := hcharted.seen

/-- Nothing is written down, and nothing was seen. -/
theorem blank (data : ServerData) (meant : Nat → Prop) (s : Session) (o : Observer) : Charted data meant s o {} where
  asked _ _ hfound := by cases hfound
  tied _ _ _ _ := .unasked rfl rfl
  heard _ _ _ _ _ hfound := by cases hfound
  seen _ _ _ hsees := by cases hsees

/-! ## Ends -/

/-- What is seen next is what a line opens that was seen before, so by what was seen it lies inside its object. -/
theorem seen_shown (hcharted : Charted data meant s o w) {result : Except Error Answer}
    (htruly : EndsTruly data o w operation result) {thread : Int64} {path : List Nat} {view : List Line}
    (hsees : Sees thread ((w.shown? operation result).toList ++ w.seen) path view) :
    Renders (o.note (.ended operation result)).handouts thread view (data.listed thread path) := by
  have hgrows := (Observer.note_grows (o := o) (.ended operation result)).2
  cases hshown : w.shown? operation result with
  | none =>
    rw [hshown] at hsees
    exact (hcharted.seen _ _ _ hsees).mono hgrows
  | some entry =>
    rw [hshown, Option.toList_some, List.singleton_append] at hsees
    -- The view is the one just shown, or it was seen before.
    cases hsees with
    | frames => exact htruly _ _ hshown thread _ (.frames thread rfl)
    | @inside _ path around _ step line before found opens =>
      obtain ⟨object, hobject, hshows⟩ := (hcharted.seen _ _ _ before).shows found
      have hlisted : data.listed thread (step :: path) = data.inside object := by
        simp only [ServerData.listed, hobject, Option.map_some, Option.getD_some]
      rw [hlisted]
      exact htruly _ _ hshown thread _ (.inside (hshows.handed opens) hshows.opening_eq)
    | later _ before => exact (hcharted.seen _ _ _ before).mono hgrows

/-- An operation ends with what it is to show. -/
theorem ends (hcharted : Charted data (· ≠ operation) s o w) {result : Except Error Answer}
    (htruly : EndsTruly data o w operation result) {state : State} (hepoch : state.epoch = s.state.epoch) :
    Charted data (fun _ => True) ({ s with state }.release operation) (o.note (.ended operation result))
      (w.note (.ended operation result)) := by
  obtain ⟨hasked, hgrows⟩ := Observer.note_grows (o := o) (.ended operation result)
  constructor
  · intro other what hfound
    rw [hasked]
    exact hcharted.asked other what hfound
  · intro other running hmem _
    obtain ⟨hold, hne⟩ := Assoc.mem_erase.1 hmem
    have htied : Tied (w.note (.ended operation result)) _ s.state.epoch other running.waiting :=
      (hcharted.tied other running hold hne).mono rfl rfl hgrows
    rw [← hepoch] at htied
    exact htied
  · intro other running request hmem _
    obtain ⟨hold, hne⟩ := Assoc.mem_erase.1 hmem
    exact hcharted.heard other running request hold hne
  · intro thread path view hsees
    exact hcharted.seen_shown htruly hsees

theorem finish (hcharted : Charted data (· ≠ operation) s o w) {waiting : Waiting}
    {reply : Except CallError Wire.Event.Payload}
    (htruly : EndsTruly data (o.note (.replied operation reply)) w operation
      (s.state.finish s.files s.root waiting reply).1) :
    Charted data (fun _ => True) (s.finish operation waiting reply).1
      ((s.finish operation waiting reply).2.foldl Observer.note o)
      ((s.finish operation waiting reply).2.foldl Walk.note w) := by
  -- The reply itself is written down by the observer only.
  have hreplied : Charted data (· ≠ operation) s (o.note (.replied operation reply)) w :=
    ⟨hcharted.asked, hcharted.tied, hcharted.heard, hcharted.seen⟩
  exact hreplied.ends htruly (State.finish_adds s.state s.files s.root waiting reply).epoch

/-! ## Beginnings -/

/-- What one operation is to do does not matter for the others. -/
theorem told (hcharted : Charted data (· ≠ operation) s o w) (what : Operation) {state : State}
    (hepoch : state.epoch = s.state.epoch) :
    Charted data (· ≠ operation) { s with state } { o with asked := Assoc.insert operation what o.asked }
      { w with begun := Assoc.insert operation what w.begun } := by
  constructor
  · intro other what' hfound
    by_cases hother : other = operation
    · rw [hother, Assoc.find?_insert_self] at hfound ⊢
      exact hfound
    · rw [Assoc.find?_insert_of_ne hother] at hfound ⊢
      exact hcharted.asked other what' hfound
  · intro other running hmem hne
    have htied : Tied { w with begun := Assoc.insert operation what w.begun } o.handouts s.state.epoch other
        running.waiting :=
      (hcharted.tied other running hmem hne).mono rfl (Assoc.find?_insert_of_ne hne _ _) (List.Subset.refl _)
    rw [← hepoch] at htied
    exact htied
  · exact hcharted.heard
  · exact hcharted.seen

/-- Other operations go on as they were, or a resume leaves nothing to go on with. -/
theorem begin (hcharted : Charted data (fun _ => True) s o w) (operation : Nat) (what : Operation) :
    Charted data (· ≠ operation) { s with state := (s.state.start what).2 } (o.begin operation what)
      (w.begin operation what) := by
  have hepoch := (State.start_adds s.state what).epoch
  have hothers := hcharted.but operation
  cases what with
  | setBreakpoints path breakpoints => exact ⟨hothers.asked, hothers.tied, hothers.heard, hothers.seen⟩
  | resume thread stepping => exact blank data _ _ _
  | _ => exact hothers.told _ hepoch

/-- An operation asks. -/
theorem asks (hcharted : Charted data (· ≠ operation) s o w) (request : Wire.Request.Payload) :
    Charted data (· ≠ operation) s o (w.note (.asked operation request)) where
  asked := hcharted.asked
  tied other running hmem hne :=
    (hcharted.tied other running hmem hne).mono (Assoc.find?_insert_of_ne hne _ _) rfl (List.Subset.refl _)
  heard other running other' hmem hne hfound := by
    rw [Walk.note, Assoc.find?_insert_of_ne hne] at hfound
    exact hcharted.heard other running other' hmem hne hfound
  seen := hcharted.seen

/-- Its call begins, and nothing has come for it yet. -/
theorem enter (hcharted : Charted data (· ≠ operation) s o w) (hsorted : Assoc.Sorted s.running)
    (request : Wire.Request.Payload) {waiting : Waiting}
    (htied : Tied w o.handouts s.state.epoch operation waiting) :
    Charted data (fun _ => True) { s with
      connection := calling s.connection request
      running := Assoc.insert operation { number := s.connection.nextNumber, waiting } s.running } o w := by
  constructor
  · exact hcharted.asked
  · intro other running hmem _
    rcases hsorted.mem_insert_of_ne hmem with heq | ⟨hold, hne⟩
    · cases heq
      exact htied
    · exact hcharted.tied other running hold hne
  · intro other running asked hmem _ hasked call event hfound houtcome
    by_cases hnumber : running.number = s.connection.nextNumber
    · -- Whoever has this number, nothing has come for the new call.
      simp only [calling, hnumber, Assoc.find?_insert_self] at hfound
      cases hfound
      cases houtcome
    · simp only [calling, Assoc.find?_insert_of_ne hnumber] at hfound
      rcases hsorted.mem_insert_of_ne hmem with heq | ⟨hold, hne⟩
      · cases heq
        exact absurd rfl hnumber
      · exact hcharted.heard other running asked hold hne hasked call event hfound houtcome
  · exact hcharted.seen

/-! ## Steps -/

/-- What has come stays what there is to show, as long as what comes is. -/
theorem relink (hcharted : Charted data meant s o w) {action : Connection.Action}
    (htells : action = .read → TellsWhatThereIs data s w) :
    Charted data meant { s with connection := (s.connection.step action).1 } o w := by
  refine ⟨hcharted.asked, hcharted.tied, ?_, hcharted.seen⟩
  intro operation running request hmem hmeant hasked call event hfound houtcome
  -- Only a reply that is read in this very step is new.
  cases (Connection.step_callStep s.connection action).change hfound with
  | begun payload isNext moments eq =>
    rw [eq] at houtcome
    cases houtcome
  | kept before found payload outcome sent strange =>
    rw [outcome] at houtcome
    exact hcharted.heard operation running request hmem hmeant hasked before event found houtcome
  | replied before _ found payload own awaited moments outcome =>
    rw [outcome] at houtcome
    cases houtcome
    have hreceived : .received event ∈ s.connection.moments action := by
      rw [moments]
      exact List.mem_singleton_self _
    obtain ⟨rfl, hcoming⟩ := Connection.received_mem_moments hreceived
    exact htells rfl event hcoming _ hmem own.symm request hasked
  | broken before found payload wasOpen closed outcome =>
    rw [outcome] at houtcome
    cases houtcome

theorem foldl_link {γ : Type} {note : γ → SessionEffect → γ} (hdeaf : ∀ g effect, note g (.link effect) = g) (g : γ)
    (effects : List Effect) : (effects.map SessionEffect.link).foldl note g = g := by
  rw [List.foldl_map]
  exact List.foldl_fixed' (hdeaf g) effects

/-- A step of the connection ends an operation with what there is to show, or ends none. -/
theorem link (hcharted : Charted data (fun _ => True) s o w) (hmirrors : Mirrors o.handouts s.state)
    {action : Connection.Action} (htells : action = .read → TellsWhatThereIs data s w) :
    Charted data (fun _ => True) (s.link (·.step action)).1 ((s.link (·.step action)).2.foldl Observer.note o)
      ((s.link (·.step action)).2.foldl Walk.note w) := by
  have hrelinked := hcharted.relink htells
  rcases s.link_cases action with ⟨answer, operation, running, heffects, hmem, hlink⟩ | ⟨-, hlink⟩
  · rw [hlink]
    refine (hrelinked.but operation).finish ?_
    refine Tied.endsTruly (o := o.note (.replied operation answer)) (hcharted.tied operation running hmem trivial)
      hmirrors (hcharted.asked operation) rfl ?_ s.files s.root
    rintro request payload hasked rfl
    have hanswered : .answered running.number (.ok payload) ∈ (s.connection.step action).2 := by
      rw [heffects]
      exact List.mem_singleton_self _
    obtain ⟨call, -, hfound, -, hend⟩ :=
      (Connection.step_callStep s.connection action).answered (Connection.did_mem_moments.2 hanswered)
    rcases hend with ⟨outcome, houtcome, hresult⟩ | ⟨error, herror, -⟩
    · obtain ⟨event, rfl, hpayload⟩ := Connection.payload_of_result hresult.symm
      rw [← hpayload]
      exact hcharted.heard operation running request hmem trivial hasked call event hfound houtcome
    · cases herror
  · rw [hlink, foldl_link (fun _ _ => rfl), foldl_link (fun _ _ => rfl)]
    exact hrelinked

/-- An operation that is answered at once does what it was just asked to do. -/
theorem begin_of_answered {state : State} {what : Operation} {result : Except Error Answer}
    (hstart : (state.start what).1 = .answered result) (o : Observer) (w : Walk) (operation : Nat) :
    (o.begin operation what).handouts = o.handouts ∧
      Assoc.find? operation (o.begin operation what).asked = some what ∧
      Assoc.find? operation (w.begin operation what).begun = some what := by
  have hinsert : ∀ {α : Type} (a : α) (entries : List (Nat × α)),
      Assoc.find? operation (Assoc.insert operation a entries) = some a :=
    fun a entries => Assoc.find?_insert_self operation a entries
  cases what with
  | setBreakpoints path breakpoints => cases hstart
  | resume thread stepping => cases hstart
  | _ => exact ⟨rfl, hinsert _ _, hinsert _ _⟩

/-- An operation begins: it ends at once, or asks and waits, or asks in vain. -/
theorem prepare (hcharted : Charted data (fun _ => True) s o w) (hfollows : Session.Follows s o) (operation : Nat)
    (what : Operation) :
    Charted data (fun _ => True) (s.prepare operation what).1
      ((s.prepare operation what).2.foldl Observer.note (o.begin operation what))
      ((s.prepare operation what).2.foldl Walk.note (w.begin operation what)) := by
  have hbegun := hcharted.begin operation what
  unfold Session.prepare
  cases hstart : s.state.start what with
  | mk started state =>
    rw [hstart] at hbegun
    cases started with
    | answered result =>
      have hanswered : (s.state.start what).1 = .answered result := by rw [hstart]
      obtain ⟨hhandouts, hasked, hbegan⟩ := begin_of_answered hanswered o w operation
      refine hbegun.ends ?_ rfl
      exact endsTruly_of_start (by rw [hhandouts]; exact hfollows.mirrors) hanswered hasked hbegan
    | asks request waiting =>
      have hasks := hbegun.asks request
      by_cases hconnected : s.connection.state = .connected
      · have hissue : s.connection.issue request = .ok (s.connection.nextNumber, calling s.connection request) := by
          simp [Connection.issue, hconnected, calling]
        simp only [hissue]
        exact hasks.enter hfollows.sorted request (tied_of_start hfollows.mirrors w operation hstart)
      · have hissue : s.connection.issue request = .error .notConnected := by simp [Connection.issue, hconnected]
        simp only [hissue]
        refine hasks.finish ?_
        -- The call fails at once, so whatever was asked shows nothing.
        cases waiting <;> exact .of_error _

end Charted

/-- Every kind of step keeps what an editor sees true. -/
theorem charted_invariant (data : ServerData) :
    Walk.account.Invariant (TellsWhatThereIs data) fun s w =>
      ∃ o, Session.Follows s o ∧ Charted data (fun _ => True) s o w := by
  constructor
  · exact fun _ _ _ _ => rfl
  · rintro s w syncing queue ⟨o, hfollows, hcharted⟩
    exact ⟨o, hfollows.congr rfl rfl, hcharted.asked, hcharted.tied, hcharted.heard, hcharted.seen⟩
  · rintro s w operation what ⟨o, hfollows, hcharted⟩
    exact ⟨_, (hfollows.prepare operation what).follows, hcharted.prepare hfollows operation what⟩
  · rintro s w action ⟨o, hfollows, hcharted⟩ htells
    exact ⟨_, (hfollows.link (·.step action)).follows, hcharted.link hfollows.mirrors htells⟩
  · rintro s w payload ⟨o, hfollows, hcharted⟩
    refine ⟨o, (hfollows.handleEvent payload).follows, hcharted.asked, ?_, hcharted.heard, hcharted.seen⟩
    -- News do not end a pause.
    intro operation running hmem _
    have hepoch : (s.state.handleEvent payload).2.epoch = s.state.epoch := by rw [State.handleEvent_eq]
    show Tied w o.handouts (s.state.handleEvent payload).2.epoch operation running.waiting
    rw [hepoch]
    exact hcharted.tied operation running hmem trivial
  · rintro s w operation ⟨o, hfollows, hcharted⟩
    refine ⟨o, (hfollows.step (.drop operation)).follows, hcharted.asked, ?_, ?_, hcharted.seen⟩
    · intro other running hmem _
      exact hcharted.tied other running (Assoc.mem_erase.1 hmem).1 trivial
    · intro other running request hmem _ hasked call event hfound houtcome
      refine hcharted.heard other running request (Assoc.mem_erase.1 hmem).1 trivial hasked call event ?_ houtcome
      -- Dropping takes the operation's own call away.
      simp only [Session.drop, Session.release] at hfound
      split at hfound
      · rw [Connection.dropCall, Assoc.find?_erase] at hfound
        split at hfound
        · cases hfound
        · exact hfound
      · exact hfound

/-! ## Walks -/

section

variable {s : Session} {m : Session.Move} {operation : Nat} {what : Operation}

/-- What is answered at once is seen at once. -/
theorem seen_of_answered (hbegins : m.begins? = some (operation, what)) {answer : Answer}
    (hstart : (s.state.start what).1 = .answered (.ok answer)) {view : List Line}
    (hview : answer.view? what = some view) (w : Walk) :
    (Walk.account.next w s m).seen = (what, view) :: w.seen := by
  obtain ⟨-, -, hbegun⟩ := Charted.begin_of_answered hstart {} w operation
  have hseen : (w.begin operation what).seen = w.seen := by
    cases what with
    | resume thread stepping => cases hstart
    | _ => rfl
  have hnote : ((w.begin operation what).note (.ended operation (.ok answer))).seen = (what, view) :: w.seen := by
    rw [Walk.note, shown?_of_begun hbegun, hview, hseen]
    rfl
  have hmove : (s.move m).2 = [.ended operation (.ok answer)] := by
    have hfree : ∀ path breakpoints, what ≠ .setBreakpoints path breakpoints := by
      rintro path breakpoints rfl
      cases hstart
    rcases hstarted : s.state.start what with ⟨started, state⟩
    rw [hstarted] at hstart
    cases hstart
    rcases move_of_begins s hbegins hfree with hprepare | henter
    · rw [hprepare, Session.prepare, hstarted]
    · rw [henter, Session.enter, hstarted]
  rw [Account.next, hmove, Walk.account.takes_of_begins w hbegins]
  exact hnote

end

/-- A walk through what a server has to show is true to it: it sees what there is, asks for no more than it needs, and
goes on wherever there is more to see. -/
structure Walk.IsTrueTo (data : ServerData) (w : Walk) (s : Session) : Prop where
  /-- What is seen at the end of a path is what lies there, in order, and just what can be opened has a reference. -/
  views : ∀ (thread : Int64) (path : List Nat) (view : List Line), Sees thread w.seen path view →
    view.map (fun line => (line.shown, line.reference != 0))
      = (data.listed thread path).map fun object => (object.shown, object.opens)
  /-- The server is asked once for the frames of a thread. -/
  frames : ∀ (thread : Int64) (m : Session.Move) (operation : Nat), m.begins? = some (operation, .stackTrace thread) →
    asksOf (s.move m).2 = [(operation, .listFrames thread)]
  /-- It is asked once for the children of a value. Into anything else one sees at once, and it is not asked. -/
  opened : ∀ (thread : Int64) (path : List Nat) (view : List Line) (step : Nat) (line : Line),
    Sees thread w.seen path view → view[step]? = some line → line.reference ≠ 0 →
    ∀ (m : Session.Move) (operation : Nat), m.begins? = some (operation, line.opening) →
      match (data.listed thread path)[step]? with
      | some (.value value) => asksOf (s.move m).2 = [(operation, .getChildren thread value.id)]
      | _ => asksOf (s.move m).2 = [] ∧ ∃ inner, (Walk.account.next w s m).seen = (line.opening, inner) :: w.seen
  /-- No more is asked later on, but to set breakpoints. -/
  others : ∀ m : Session.Move, m.begins? = none →
    ∀ asked ∈ asksOf (s.move m).2, ∃ breakpoints, asked.2 = .setBreakpoints breakpoints
  /-- When the frames come, they are seen. -/
  listed : ∀ action operation thread frames, Assoc.find? operation w.requests = some (.listFrames thread) →
    .replied operation (.ok (.listFrames frames)) ∈ (s.link (·.step action)).2 →
      ∃ view, ((s.link (·.step action)).2.foldl Walk.note w).seen = (.stackTrace thread, view) :: w.seen
  /-- When the children come, they are seen. -/
  expanded : ∀ action operation thread value children,
    Assoc.find? operation w.requests = some (.getChildren thread value) →
    .replied operation (.ok (.getChildren children)) ∈ (s.link (·.step action)).2 →
      ∃ reference view, Assoc.find? operation w.begun = some (.listVariables reference) ∧
        ((s.link (·.step action)).2.foldl Walk.note w).seen = (.listVariables reference, view) :: w.seen

namespace Charted

variable {data : ServerData} {s : Session} {o : Observer} {w : Walk}

/-- A line that can be opened leads into its object. -/
theorem opened (hcharted : Charted data (fun _ => True) s o w) (hmirrors : Mirrors o.handouts s.state) {thread : Int64}
    {path : List Nat} {view : List Line} (hsees : Sees thread w.seen path view) {step : Nat} {line : Line}
    (hline : view[step]? = some line) (hopens : line.reference ≠ 0) {m : Session.Move} {operation : Nat}
    (hbegins : m.begins? = some (operation, line.opening)) :
    match (data.listed thread path)[step]? with
    | some (.value value) => asksOf (s.move m).2 = [(operation, .getChildren thread value.id)]
    | _ => asksOf (s.move m).2 = [] ∧ ∃ inner, (Walk.account.next w s m).seen = (line.opening, inner) :: w.seen := by
  obtain ⟨object, hobject, hshows⟩ := (hcharted.seen thread path view hsees).shows hline
  have hfound : Handout.find? o.handouts line.reference = some ⟨line.reference, thread, object⟩ :=
    hmirrors.find?_of_mem (hshows.handed hopens)
  have hasks := asksOf_begins s hbegins (by rw [hshows.opening_eq]; cases object <;> simp [Object.opening])
  rw [hobject]
  rw [hshows.opening_eq] at hbegins hasks ⊢
  cases object with
  | frame content =>
    have hstart : (s.state.start (.scopes line.reference)).1 = .answered (.ok (.scopes (s.state.scopes _).1)) := rfl
    exact ⟨hasks, _, seen_of_answered hbegins hstart rfl w⟩
  | scope content =>
    have hstart : (s.state.start (.listVariables line.reference)).1
        = .answered (.ok (.listing (s.state.forEach (·.display thread) content.bindings).1)) := by
      simp only [State.start, hmirrors.startVariables_eq, hfound]
    simp only [Object.opening, hstart, Started.request?] at hasks
    exact ⟨hasks, _, seen_of_answered hbegins hstart rfl w⟩
  | value content =>
    have hstart : (s.state.start (.listVariables line.reference)).1
        = .asks (.getChildren thread content.id) (.listing thread s.state.epoch) := by
      simp only [State.start, hmirrors.startVariables_eq, hfound]
    simp only [Object.opening, hstart, Started.request?] at hasks
    exact hasks

/-- When the frames come that were asked for, they are seen. -/
theorem listed (hcharted : Charted data (fun _ => True) s o w) {action : Connection.Action} {operation : Nat}
    {thread : Int64} {frames : List Wire.Frame}
    (hasked : Assoc.find? operation w.requests = some (.listFrames thread))
    (hreplied : .replied operation (.ok (.listFrames frames)) ∈ (s.link (·.step action)).2) :
    ∃ view, ((s.link (·.step action)).2.foldl Walk.note w).seen = (.stackTrace thread, view) :: w.seen := by
  obtain ⟨running, hmem, hlink⟩ := Session.link_of_replied hreplied
  obtain ⟨hwaiting, hbegun⟩ := (hcharted.tied operation running hmem trivial).frames_eq hasked
  have hresult : (s.state.finish s.files s.root running.waiting (.ok (.listFrames frames))).1
      = .ok (.frames (s.state.forEach (State.stackFrame s.files s.root thread) frames).1) := by
    simp [hwaiting, State.finish, Except.bind, Reply.frames]
  rw [hlink]
  simp only [Session.finish, List.foldl_cons, List.foldl_nil, Walk.note, hresult, shown?_of_begun hbegun]
  exact ⟨_, rfl⟩

/-- When the children come that were asked for, they are seen. -/
theorem expanded (hcharted : Charted data (fun _ => True) s o w) {action : Connection.Action} {operation : Nat}
    {thread value : Int64} {children : List Wire.Value}
    (hasked : Assoc.find? operation w.requests = some (.getChildren thread value))
    (hreplied : .replied operation (.ok (.getChildren children)) ∈ (s.link (·.step action)).2) :
    ∃ reference view, Assoc.find? operation w.begun = some (.listVariables reference) ∧
      ((s.link (·.step action)).2.foldl Walk.note w).seen = (.listVariables reference, view) :: w.seen := by
  obtain ⟨running, hmem, hlink⟩ := Session.link_of_replied hreplied
  obtain ⟨hwaiting, reference, hbegun⟩ := (hcharted.tied operation running hmem trivial).children_eq hasked
  have hresult : (s.state.finish s.files s.root running.waiting (.ok (.getChildren children))).1
      = .ok (.listing (s.state.forEach (·.display thread) children).1) := by
    simp [hwaiting, State.finish, Except.bind, Reply.children]
  rw [hlink]
  simp only [Session.finish, List.foldl_cons, List.foldl_nil, Walk.note, hresult, shown?_of_begun hbegun]
  exact ⟨reference, _, hbegun, rfl⟩

theorem isTrueTo (hcharted : Charted data (fun _ => True) s o w) (hmirrors : Mirrors o.handouts s.state) :
    w.IsTrueTo data s where
  views thread path view hsees := (hcharted.seen thread path view hsees).shown_eq
  frames thread m operation hbegins := asksOf_begins s hbegins (by simp)
  opened thread path view step line hsees hline hopens m operation hbegins :=
    hcharted.opened hmirrors hsees hline hopens hbegins
  others m hbegins asked hasked := asksOf_others hbegins hasked
  listed action operation thread frames hasked hreplied := hcharted.listed hasked hreplied
  expanded action operation thread value children hasked hreplied := hcharted.expanded hasked hreplied

end Charted

/-- Walks show what there is. Let the server have some frames to show for each thread and some children for each value,
whatever lies inside what. From any moment on, as long as whatever comes for the operations of the pause shows just
that, what is seen at the end of a path is what lies there: the frames of a thread in order, then the scopes of one of
them, then the bindings in one of these, then children of children, down to any depth. It does not matter what else is
asked in between. And for every step of a path the server is asked at most once. A resume ends all walks. -/
theorem Session.walks_show_what_there_is (connection : Connection) (files : FileTree) (root : Option String)
    (before later : List Move) (data : ServerData)
    (htells : Walk.account.WhenReading (TellsWhatThereIs data) {}
      (({ connection, files, root } : Session).moves before).1 later) :
    let s := (({ connection, files, root } : Session).moves before).1
    (Walk.account.after {} s later).IsTrueTo data (s.moves later).1 := by
  intro s
  have hfollows : Follows s (Observer.after {} _ before) := (Follows.start connection files root).moves before
  obtain ⟨o, hfollows', hcharted⟩ :=
    (charted_invariant data).moves ⟨_, hfollows, .blank data _ s _⟩ htells
  exact hcharted.isTrueTo hfollows'.mirrors

/-- A value that lies inside itself is opened twice, and looks the same each time. -/
theorem Session.walks_show_what_there_is_of_cycle :
    let value : Wire.Value := { label := "xs", description := "[...]", typeName := "list", hasChildren := true, id := 5 }
    let frame : Wire.Frame := { functionName := "f", scopes := [{ name := "Locals", bindings := [value] }] }
    let data : ServerData := { frames := fun _ => [frame], children := fun _ => [value] }
    let bytes (number : UInt64) (payload : Wire.Event.Payload) : Bytes :=
      (Wire.putAll 1000 [] [({ number, payload := some payload } : Wire.Event).encode]).1
    let before : List Action := [.link .dial, .link (.opened 0 0), .link (.attach 0)]
    let later : List Action := [.start 1 (.stackTrace 7), .link (.arrive (bytes 1 (.listFrames [frame]))), .link .read,
      .collect 1, .start 2 (.scopes 1), .start 3 (.listVariables 2), .start 4 (.listVariables 3),
      .link (.arrive (bytes 2 (.getChildren [value]))), .link .read, .collect 4]
    let s := (({ connection := {} } : Session).moves (before.map .step)).1
    let w := Walk.account.after {} s (later.map .step)
    Walk.account.WhenReading (TellsWhatThereIs data) {} s (later.map .step) ∧
      w.IsTrueTo data (s.moves (later.map .step)).1 ∧
      w.seen.map (·.2) = [[⟨.variable "xs" "[...]" (some "list"), 4⟩], [⟨.variable "xs" "[...]" (some "list"), 3⟩],
        [⟨.scope "Locals", 2⟩], [⟨.frame "f" 0 0, 1⟩]] := by
  intro value frame data bytes before later s w
  have htells : Walk.account.WhenReading (TellsWhatThereIs data) {} s (later.map .step) := by decide +kernel
  exact ⟨htells, walks_show_what_there_is {} {} none (before.map .step) (later.map .step) data htells, by decide +kernel⟩

end DebugBridge.Debugger
