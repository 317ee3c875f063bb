import DebugBridge.Proofs.Debugger.Observer
import DebugBridge.Proofs.Debugger.Pause

/-!
# References keep their objects

The invariant `Follows` ties a session to its observer: the tables mirror the observer's notes, and each operation under
way waits for what it was asked to do in this pause, or is late. So a reference stands for one object until the next
resume, and what is asked about it later is answered from that object: `references_keep_their_objects`.
-/

namespace DebugBridge.Debugger

/-! ## What a reference resolves to -/

section

variable {handouts : List Handout} {s : State}

/-- The tables name a thread for just what was handed out, in the table of its kind. -/
theorem Mirrors.thread? (hmirrors : Mirrors handouts s) (kind : Object.Kind) (reference : Reference) :
    Assoc.find? reference (s.threadsOf kind)
      = ((Handout.find? handouts reference).filter (·.object.kind = kind)).map (·.thread) := by
  cases howner : Assoc.find? reference (s.threadsOf kind) with
  | some thread =>
    obtain ⟨h, hmem, rfl, rfl, rfl⟩ := hmirrors.owners kind reference thread howner
    simp [hmirrors.find?_of_mem hmem, Option.filter]
  | none =>
    cases hfound : Handout.find? handouts reference with
    | none => rfl
    | some h =>
      obtain ⟨hmem, rfl⟩ := Handout.mem_of_find? hfound
      have hother : h.object.kind ≠ kind := by
        rintro rfl
        rw [hmirrors.threads h hmem] at howner
        cases howner
      simp [hother, Option.filter]

theorem Mirrors.scopes_eq (hmirrors : Mirrors handouts s) (reference : Reference) :
    s.scopes reference = match Handout.find? handouts reference with
      | some ⟨_, thread, .frame content⟩ =>
        s.forEach (fun s scope => ({ name := scope.name, reference := (s.addScope thread scope).1 },
          (s.addScope thread scope).2)) content.scopes
      | _ => ([], s) := by
  have hthread := hmirrors.thread? .frame reference
  unfold State.scopes
  rw [hmirrors.get?, show s.frameThreads = s.threadsOf .frame from rfl, hthread]
  rcases Handout.find? handouts reference with _ | ⟨_, _, _ | _ | _⟩ <;> rfl

theorem Mirrors.startVariables_eq (hmirrors : Mirrors handouts s) (reference : Reference) :
    s.startVariables reference = match Handout.find? handouts reference with
      | some ⟨_, thread, .scope scope⟩ =>
        (.answered (.ok (.listing (s.forEach (·.display thread) scope.bindings).1)),
          (s.forEach (·.display thread) scope.bindings).2)
      | some ⟨_, thread, .value value⟩ => (.asks (.getChildren thread value.id) (.listing thread s.epoch), s)
      | _ => (.answered (.ok (.listing [])), s) := by
  have hscope := hmirrors.thread? .scope reference
  have hvalue := hmirrors.thread? .value reference
  unfold State.startVariables
  rw [hmirrors.get?, show s.scopeThreads = s.threadsOf .scope from rfl, hscope,
    show s.valueThreads = s.threadsOf .value from rfl, hvalue]
  rcases Handout.find? handouts reference with _ | ⟨_, _, _ | _ | _⟩ <;> rfl

theorem Mirrors.startEvaluate_eq (hmirrors : Mirrors handouts s) (frame : Reference) (text : String) :
    s.start (.evaluate frame text) = match Handout.find? handouts frame with
      | some ⟨_, thread, .frame _⟩ =>
        (.asks (.evaluate thread (trimQuotes text)) (.evaluation thread s.epoch (trimQuotes text)), s)
      | _ => (.answered (.error (.invalidRequest s!"unknown frameId {frame}")), s) := by
  have hthread := hmirrors.thread? .frame frame
  simp only [State.start, show s.frameThreads = s.threadsOf .frame from rfl, hthread]
  rcases Handout.find? handouts frame with _ | ⟨_, _, _ | _ | _⟩ <;> rfl

end

namespace Observer

/-- What an operation of this pause remembers is what it was asked to do, of something that was handed out. -/
def Expects (o : Observer) (now operation : Nat) : Waiting → Prop
  | .frames thread epoch => epoch = now ∧ Assoc.find? operation o.asked = some (.stackTrace thread)
  | .listing thread epoch =>
    epoch = now ∧ ∃ reference value, Assoc.find? operation o.asked = some (.listVariables reference) ∧
      ⟨reference, thread, .value value⟩ ∈ o.handouts
  | .evaluation thread epoch expression =>
    epoch = now ∧ ∃ frame text content, Assoc.find? operation o.asked = some (.evaluate frame text) ∧
      expression = trimQuotes text ∧ ⟨frame, thread, .frame content⟩ ∈ o.handouts
  | _ => False

/-- An operation under way does what it was asked to do, or is late. -/
def Fits (o : Observer) (now operation : Nat) (waiting : Waiting) : Prop :=
  waiting.Late now ∨ o.Expects now operation waiting

section

variable {o : Observer} {now operation : Nat} {waiting : Waiting}

/-- What fits goes on to fit as more is handed out. -/
theorem Fits.mono {o' : Observer} (hfits : o.Fits now operation waiting)
    (hasked : Assoc.find? operation o'.asked = Assoc.find? operation o.asked) (hsub : o.handouts ⊆ o'.handouts) :
    o'.Fits now operation waiting := by
  rcases hfits with hlate | hexpects
  · exact .inl hlate
  · refine .inr ?_
    cases waiting with
    | frames thread epoch => exact ⟨hexpects.1, hasked.trans hexpects.2⟩
    | listing thread epoch =>
      obtain ⟨hepoch, reference, value, hwhat, hmem⟩ := hexpects
      exact ⟨hepoch, reference, value, hasked.trans hwhat, hsub hmem⟩
    | evaluation thread epoch expression =>
      obtain ⟨hepoch, frame, text, content, hwhat, htext, hmem⟩ := hexpects
      exact ⟨hepoch, frame, text, content, hasked.trans hwhat, htext, hsub hmem⟩
    | _ => exact hexpects.elim

/-- When a new pause begins, every operation under way is late. -/
theorem Fits.late {later : Nat} (hfits : o.Fits now operation waiting) (hlater : now < later) : waiting.Late later := by
  rcases hfits with hlate | hexpects
  · exact hlate.trans hlater
  · cases waiting with
    | frames thread epoch => exact hexpects.1 ▸ hlater
    | listing thread epoch => exact hexpects.1 ▸ hlater
    | evaluation thread epoch expression => exact hexpects.1 ▸ hlater
    | _ => trivial

end

/-! ## What ends an operation -/

/-- An operation ends: the tables hold what was handed out with its answer, and every reference in it was noted. -/
structure Ends (o : Observer) (s : State) (operation : Nat) (result : Except Error Answer) (s' : State) : Prop where
  mirrors : Mirrors (o.note (.ended operation result)).handouts s'
  epoch : s'.epoch = s.epoch
  noted : ∀ answer, result = .ok answer → ∀ reference ∈ answer.references, reference ≠ 0 →
    ∃ h ∈ (o.note (.ended operation result)).handouts, h.reference = reference

section

variable {o : Observer} {s : State} {operation : Nat}

/-- Failures hand out nothing. -/
theorem Ends.of_error (hmirrors : Mirrors o.handouts s) (error : Error) : Ends o s operation (.error error) s :=
  ⟨hmirrors, rfl, fun _ heq => by cases heq⟩

/-- Nor do answers without references. -/
theorem Ends.of_zero {result : Except Error Answer} (hmirrors : Mirrors o.handouts s)
    (hzero : ∀ answer, result = .ok answer → ∀ reference ∈ answer.references, reference = 0) :
    Ends o s operation result s := by
  cases result with
  | error error => exact .of_error hmirrors error
  | ok answer =>
    have hsame : o.note (.ended operation (.ok answer)) = o := hear_of_zero (hzero answer rfl) operation
    refine ⟨by rw [hsame]; exact hmirrors, rfl, fun other heq reference hmem hnonzero => ?_⟩
    exact absurd (hzero other heq reference hmem) hnonzero

/-- A listing hands out what it lists. -/
theorem Ends.of_listed {α β : Type} {what : Operation} {answer : Answer} {thread : Int64} {reference : β → Reference}
    {object : α → Object} {list : List α} {after : List β × State}
    (hasked : Assoc.find? operation o.asked = some what)
    (hlines : o.lines what answer = linesOf thread reference object after.1 list)
    (hreferences : answer.references = after.1.map reference)
    (hlisted : Listed o.handouts s thread reference object list after) :
    Ends o s operation (.ok answer) after.2 := by
  have hnote : (o.note (.ended operation (.ok answer))).handouts
      = Handout.noteAll o.handouts (linesOf thread reference object after.1 list) := by
    rw [note, hear_of_asked hasked, hlines]
  refine ⟨by rw [hnote]; exact hlisted.mirrors, hlisted.epoch, fun other heq r hmem hnonzero => ?_⟩
  cases heq
  rw [hreferences] at hmem
  obtain ⟨b, hshown, rfl⟩ := List.mem_map.1 hmem
  rw [hnote]
  exact hlisted.noted hshown hnonzero

/-- An answer that comes late hands out nothing. -/
theorem references_of_late {waiting : Waiting} (hlate : waiting.Late s.epoch) (files : FileTree) (root : Option String)
    (reply : Except CallError Wire.Event.Payload) {answer : Answer}
    (hanswer : (s.finish files root waiting reply).1 = .ok answer) :
    ∀ reference ∈ answer.references, reference = 0 := by
  have hlateAnswer := (State.finish_of_late files root hlate reply).2
  -- Apart from listings, no operation answers with references.
  have hconst : ∀ {α : Type} {result : Except CallError α} {other : Answer}, other.references = [] →
      ((result.mapError Error.call).map fun _ => other) = .ok answer → ∀ reference ∈ answer.references, reference = 0 := by
    intro α result other hnone heq
    cases result with
    | error error => cases heq
    | ok a =>
      cases heq
      simp [hnone]
  cases waiting with
  | frames thread epoch =>
    exact hconst rfl ((hlateAnswer _ rfl).symm.trans hanswer)
  | listing thread epoch =>
    exact hconst rfl ((hlateAnswer _ rfl).symm.trans hanswer)
  | evaluation thread epoch expression =>
    have heq := (hlateAnswer _ rfl).symm.trans hanswer
    split at heq
    · cases heq
      simp [Answer.references]
    · cases heq
      simp [Answer.references]
    · cases heq
  | _ => exact hconst rfl hanswer

/-- What is found under a name was handed out before, or is handed out now, or is not there. -/
theorem evaluateKnown_ends {frame : Reference} {text : String} {thread : Int64} {content : Wire.Frame}
    (hmirrors : Mirrors o.handouts s) (hasked : Assoc.find? operation o.asked = some (.evaluate frame text))
    (hframe : ⟨frame, thread, .frame content⟩ ∈ o.handouts) {error : String}
    (hreply : o.reply = some (.error (.remote error))) :
    Ends o s operation (.ok (.evaluation (s.evaluateKnown thread s.epoch (trimQuotes text) error).1))
      (s.evaluateKnown thread s.epoch (trimQuotes text) error).2 := by
  have hlines : ∀ shown, o.lines (.evaluate frame text) (.evaluation shown) = linesOf thread Evaluation.reference .value
      [shown] (known? o.handouts thread (trimQuotes text)).toList := by
    intro shown
    simp only [lines, hmirrors.find?_of_mem hframe, evaluated?, hreply]
  have hregistered := @Mirrors.registeredValue? _ s thread hmirrors (trimQuotes text)
  unfold State.evaluateKnown
  rw [if_neg (by simp)]
  split
  · next reference value hfound =>
    simp only [hfound] at hregistered
    obtain ⟨hmem, hknown⟩ := hregistered
    have hnote : (o.note (.ended operation (.ok (.evaluation
        { result := value.description, typeName := nonEmpty value.typeName, reference })))).handouts = o.handouts := by
      rw [note, hear_of_asked hasked, hlines, hknown]
      exact if_pos (.inr hmem)
    refine ⟨by rw [hnote]; exact hmirrors, rfl, fun answer heq r hr _ => ?_⟩
    cases heq
    rw [hnote]
    exact ⟨_, hmem, (List.mem_singleton.1 hr).symm⟩
  · next hfound =>
    simp only [hfound] at hregistered
    split
    · next value hbound =>
      have hlisted := (@display_shows thread).listed hmirrors [value]
      refine Ends.of_listed hasked ?_ rfl hlisted
      rw [hlines, hregistered, hbound]
      rfl
    · refine .of_zero hmirrors fun answer heq => ?_
      cases heq
      simp [Answer.references]

/-- A value that an expression came to is handed out. -/
theorem displayIn_ends {frame : Reference} {text : String} {thread : Int64} {content : Wire.Frame}
    (hmirrors : Mirrors o.handouts s) (hasked : Assoc.find? operation o.asked = some (.evaluate frame text))
    (hframe : ⟨frame, thread, .frame content⟩ ∈ o.handouts) {result : Option Wire.Value}
    (hreply : o.reply = some (.ok (.evaluate result))) :
    let shown := s.displayIn s.epoch thread (result.getD {})
    Ends o s operation (.ok (.evaluation
      { result := shown.1.value, typeName := shown.1.typeName, reference := shown.1.reference })) shown.2 := by
  unfold State.displayIn
  rw [if_pos rfl]
  cases result with
  | none =>
    -- What stands for a missing value has no children.
    refine .of_zero hmirrors fun answer heq => ?_
    cases heq
    simp [Answer.references, State.display, State.expandable]
  | some value =>
    have hlisted := (@display_shows thread).listed hmirrors [value]
    refine Ends.of_listed hasked ?_ rfl hlisted
    simp only [lines, hmirrors.find?_of_mem hframe, evaluated?, hreply]
    rfl

/-- Only the server says that an evaluation failed. -/
theorem eq_remote_of_bind_value {reply : Except CallError Wire.Event.Payload} {text : String}
    (hremote : reply.bind Reply.value = .error (.remote text)) : reply = .error (.remote text) := by
  cases reply with
  | error error =>
    cases hremote
    rfl
  | ok payload => cases payload <;> simp_all [Except.bind, Reply.value, Reply.unexpected]

/-- An operation ends with the server's reply. -/
theorem Fits.ends {waiting : Waiting} (hfits : o.Fits s.epoch operation waiting) (hmirrors : Mirrors o.handouts s)
    (files : FileTree) (root : Option String) {reply : Except CallError Wire.Event.Payload}
    (hreply : o.reply = some reply) :
    Ends o s operation (s.finish files root waiting reply).1 (s.finish files root waiting reply).2 := by
  rcases hfits with hlate | hexpects
  · rw [(State.finish_of_late files root hlate reply).1]
    exact .of_zero hmirrors fun answer => references_of_late hlate files root reply
  · cases waiting with
    | frames thread epoch =>
      obtain ⟨rfl, hasked⟩ := hexpects
      simp only [State.finish]
      split
      · exact .of_error hmirrors _
      · next frames hframes =>
        rw [if_neg (by simp)]
        refine .of_listed hasked ?_ rfl ((stackFrame_shows files root).listed hmirrors frames)
        simp only [lines, hreply, State.bind_frames_eq_ok hframes]
    | listing thread epoch =>
      obtain ⟨rfl, reference, value, hasked, hmem⟩ := hexpects
      simp only [State.finish]
      split
      · exact .of_error hmirrors _
      · next children hchildren =>
        rw [if_neg (by simp)]
        refine .of_listed hasked ?_ rfl (display_shows.listed hmirrors children)
        simp only [lines, hmirrors.find?_of_mem hmem, hreply, State.bind_children_eq_ok hchildren]
    | evaluation thread epoch expression =>
      obtain ⟨rfl, frame, text, content, hasked, rfl, hmem⟩ := hexpects
      simp only [State.finish]
      split
      · next value hvalue =>
        obtain ⟨result, rfl, rfl⟩ := State.bind_value_eq_ok hvalue
        exact displayIn_ends hmirrors hasked hmem hreply
      · next text hremote =>
        refine evaluateKnown_ends hmirrors hasked hmem ?_
        rw [hreply, eq_remote_of_bind_value hremote]
      · exact .of_error hmirrors _
    | _ => exact hexpects.elim

/-! ## How an operation begins -/

/-- How an operation begins: it ends at once, or waits for what it was asked to do, or ends the pause. -/
inductive Begins (o : Observer) (operation : Nat) (s : State) : Operation → Started × State → Prop
  | answered {what : Operation} {result : Except Error Answer} {s' : State}
      (goesOn : ∀ thread stepping, what ≠ .resume thread stepping)
      (ends : Ends (o.begin operation what) s operation result s') :
      Begins o operation s what (.answered result, s')
  | asks {what : Operation} {request : Wire.Request.Payload} {waiting : Waiting} {s' : State}
      (goesOn : ∀ thread stepping, what ≠ .resume thread stepping)
      (mirrors : Mirrors o.handouts s') (epoch : s'.epoch = s.epoch)
      (fits : (o.begin operation what).Fits s'.epoch operation waiting) :
      Begins o operation s what (.asks request waiting, s')
  | resumes (thread : Int64) (stepping : Wire.Stepping) {request : Wire.Request.Payload} {s' : State}
      (mirrors : Mirrors [] s') (epoch : s.epoch < s'.epoch) :
      Begins o operation s (.resume thread stepping) (.asks request .resumed, s')

theorem start_begins (hmirrors : Mirrors o.handouts s) (operation : Nat) (what : Operation) :
    Begins o operation s what (s.start what) := by
  have hasked : ∀ what, Assoc.find? operation (Assoc.insert operation what o.asked) = some what :=
    fun what => Assoc.find?_insert_self _ _ _
  have hasked' : ∀ what, Mirrors ({ o with asked := Assoc.insert operation what o.asked } : Observer).handouts s :=
    fun _ => hmirrors
  cases what with
  | setBreakpoints path breakpoints =>
    exact .asks (by simp) (hmirrors.congr rfl fun kind => by cases kind <;> rfl) rfl (.inl trivial)
  | stackTrace thread => exact .asks (by simp) hmirrors rfl (.inr ⟨rfl, hasked _⟩)
  | scopes frame =>
    simp only [State.start, hmirrors.scopes_eq]
    split
    · next thread content hfound =>
      refine .answered (by simp) (.of_listed (hasked _) ?_ rfl (addScope_shows.listed (hasked' _) _))
      simp only [lines, begin, hfound]
    · refine .answered (by simp) (.of_zero (hasked' _) fun answer heq => ?_)
      cases heq
      simp [Answer.references]
  | listVariables reference =>
    simp only [State.start, hmirrors.startVariables_eq]
    split
    · next thread scope hfound =>
      refine .answered (by simp) (.of_listed (hasked _) ?_ rfl (display_shows.listed (hasked' _) _))
      simp only [lines, begin, hfound]
    · next thread value hfound =>
      obtain ⟨hmem, rfl⟩ := Handout.mem_of_find? hfound
      exact .asks (by simp) hmirrors rfl (.inr ⟨rfl, _, value, hasked _, hmem⟩)
    · refine .answered (by simp) (.of_zero (hasked' _) fun answer heq => ?_)
      cases heq
      simp [Answer.references]
  | evaluate frame text =>
    rw [hmirrors.startEvaluate_eq]
    split
    · next thread content hfound =>
      obtain ⟨hmem, rfl⟩ := Handout.mem_of_find? hfound
      exact .asks (by simp) hmirrors rfl (.inr ⟨rfl, _, text, content, hasked _, rfl, hmem⟩)
    · exact .answered (by simp) (.of_error (hasked' _) _)
  | resume thread stepping =>
    exact .resumes thread stepping ((Mirrors.cleared s).congr rfl fun kind => by cases kind <;> rfl) (Nat.lt_succ_self _)
  | pause thread => exact .asks (by simp) hmirrors rfl (.inl trivial)
  | configurationDone => exact .asks (by simp) hmirrors rfl (.inl trivial)

/-- What was asked of other operations stays asked, or they are late. -/
theorem Begins.others {what : Operation} {begun : Started × State} (hbegins : Begins o operation s what begun)
    {other : Nat} (hne : other ≠ operation) {waiting : Waiting} (hfits : o.Fits s.epoch other waiting) :
    (o.begin operation what).Fits begun.2.epoch other waiting := by
  have hsame : ∀ what, (∀ thread stepping, what ≠ .resume thread stepping) →
      (o.begin operation what).Fits s.epoch other waiting := by
    intro what hgoesOn
    cases what with
    | setBreakpoints path breakpoints => exact hfits
    | resume thread stepping => exact absurd rfl (hgoesOn thread stepping)
    | _ => exact hfits.mono (Assoc.find?_insert_of_ne hne _ _) (List.Subset.refl _)
  cases hbegins with
  | answered hgoesOn ends => exact ends.epoch ▸ hsame what hgoesOn
  | asks hgoesOn mirrors epoch fits => exact epoch ▸ hsame what hgoesOn
  | resumes thread stepping mirrors epoch => exact .inl (hfits.late epoch)

end

end Observer

/-! ## Sessions -/

namespace Session

/-- The session does what its observer thinks. -/
structure Follows (s : Session) (o : Observer) : Prop where
  sorted : Assoc.Sorted s.running
  mirrors : Mirrors o.handouts s.state
  fits : ∀ operation running, (operation, running) ∈ s.running → o.Fits s.state.epoch operation running.waiting

/-- The same, whatever is remembered under one operation. -/
structure FollowsBut (s : Session) (o : Observer) (operation : Nat) : Prop where
  sorted : Assoc.Sorted s.running
  mirrors : Mirrors o.handouts s.state
  others : ∀ other running, (other, running) ∈ s.running → other ≠ operation →
    o.Fits s.state.epoch other running.waiting

/-- What a move comes to: the session goes on to follow, and every reference in an answer was noted. -/
structure Keeps (o : Observer) (result : Session × List SessionEffect) : Prop where
  follows : Follows result.1 (result.2.foldl Observer.note o)
  noted : ∀ operation answer, .ended operation (.ok answer) ∈ result.2 →
    ∀ reference ∈ answer.references, reference ≠ 0 →
      ∃ h ∈ (result.2.foldl Observer.note o).handouts, h.reference = reference

section

variable {s : Session} {o : Observer}

theorem Follows.but (hfollows : Follows s o) (operation : Nat) : FollowsBut s o operation :=
  ⟨hfollows.sorted, hfollows.mirrors, fun other running hmem _ => hfollows.fits other running hmem⟩

/-- Only the state and the operations under way matter. -/
theorem Follows.congr {s' : Session} (hfollows : Follows s o) (hstate : s'.state = s.state)
    (hrunning : s'.running = s.running) : Follows s' o :=
  ⟨by rw [hrunning]; exact hfollows.sorted, by rw [hstate]; exact hfollows.mirrors,
    by rw [hstate, hrunning]; exact hfollows.fits⟩

/-- Nothing has ended. -/
theorem Follows.keeps (hfollows : Follows s o) : Keeps o (s, []) :=
  ⟨hfollows, fun _ _ hmem => by cases hmem⟩

/-- Effects of the connection alone tell nothing. -/
theorem Keeps.cons {effect : SessionEffect} {result : Session × List SessionEffect} (hkeeps : Keeps o result)
    (hsilent : o.note effect = o) (hgoesOn : ∀ operation answer, effect ≠ .ended operation (.ok answer)) :
    Keeps o (result.1, effect :: result.2) := by
  have hnotes : (effect :: result.2).foldl Observer.note o = result.2.foldl Observer.note o := by
    rw [List.foldl_cons, hsilent]
  refine ⟨by rw [hnotes]; exact hkeeps.follows, fun operation answer hmem => ?_⟩
  rw [hnotes]
  rcases List.mem_cons.1 hmem with heq | hrest
  · exact absurd heq.symm (hgoesOn operation answer)
  · exact hkeeps.noted operation answer hrest

theorem Keeps.asked {result : Session × List SessionEffect} (hkeeps : Keeps o result) (operation : Nat)
    (request : Wire.Request.Payload) : Keeps o (result.1, .asked operation request :: result.2) :=
  hkeeps.cons rfl (by simp)

/-- One thing after another. -/
theorem Keeps.append {effects : List SessionEffect} {result : Session × List SessionEffect}
    (hfirst : Keeps o (s, effects)) (hnext : Keeps (effects.foldl Observer.note o) result) :
    Keeps o (result.1, effects ++ result.2) := by
  refine ⟨by rw [List.foldl_append]; exact hnext.follows, fun operation answer hmem reference hr hnonzero => ?_⟩
  rw [List.foldl_append]
  rcases List.mem_append.1 hmem with hold | hnew
  · obtain ⟨h, hh, hreference⟩ := hfirst.noted operation answer hold reference hr hnonzero
    exact ⟨h, (Observer.notes_grow result.2).2 hh, hreference⟩
  · exact hnext.noted operation answer hnew reference hr hnonzero

/-- An operation that ends takes its own entry away, and hands out what its answer lists. -/
theorem FollowsBut.ends {operation : Nat} (hbut : FollowsBut s o operation) {result : Except Error Answer}
    {state : State} (hends : o.Ends s.state operation result state) :
    Keeps o ({ s with state }.release operation, [.ended operation result]) := by
  obtain ⟨hasked, hsub⟩ := Observer.note_grows (o := o) (.ended operation result)
  refine ⟨⟨hbut.sorted.erase operation, hends.mirrors, fun other running hmem => ?_⟩, fun other answer hmem => ?_⟩
  · obtain ⟨hold, hne⟩ := Assoc.mem_erase.1 hmem
    show (o.note (.ended operation result)).Fits state.epoch other running.waiting
    rw [hends.epoch]
    exact (hbut.others other running hold hne).mono (by rw [hasked]) hsub
  · cases List.mem_singleton.1 hmem
    exact hends.noted answer rfl

theorem FollowsBut.finish {operation : Nat} (hbut : FollowsBut s o operation) {waiting : Waiting}
    (hfits : o.Fits s.state.epoch operation waiting) (reply : Except CallError Wire.Event.Payload) :
    Keeps o (s.finish operation waiting reply) := by
  -- The observer hears of the reply first.
  have hheard : FollowsBut s (o.note (.replied operation reply)) operation :=
    ⟨hbut.sorted, hbut.mirrors, fun other running hmem hne =>
      (hbut.others other running hmem hne).mono rfl (List.Subset.refl _)⟩
  have hfits' : (o.note (.replied operation reply)).Fits s.state.epoch operation waiting :=
    hfits.mono rfl (List.Subset.refl _)
  have hended := hheard.ends (hfits'.ends hbut.mirrors s.files s.root rfl)
  refine ⟨hended.follows, fun other answer hmem => hended.noted other answer ?_⟩
  exact (List.mem_cons.1 hmem).resolve_left (by simp)

/-! ## Replies -/

theorem Follows.absorb (hfollows : Follows s o) (effects : List Effect) : Keeps o (s.absorb effects) := by
  induction effects generalizing s o with
  | nil => exact hfollows.keeps
  | cons effect effects ih =>
    cases effect with
    | answered number reply =>
      cases howner : s.owner? number with
      | none =>
        simp only [Session.absorb, howner]
        exact (ih hfollows).cons rfl (by simp)
      | some owner =>
        obtain ⟨operation, running⟩ := owner
        simp only [Session.absorb, howner]
        have hfits := hfollows.fits operation running (mem_of_owner? howner)
        have hfinish := (hfollows.but operation).finish hfits reply
        exact hfinish.append (ih hfinish.follows)
    | _ =>
      simp only [Session.absorb]
      exact (ih hfollows).cons rfl (by simp)

theorem Follows.link (hfollows : Follows s o) (step : Connection → Connection × List Effect) :
    Keeps o (s.link step) :=
  (hfollows.congr rfl rfl : Follows { s with connection := (step s.connection).1 } o).absorb _

theorem Follows.submit (hfollows : Follows s o) (operation : Nat) : Keeps o (s.submit operation) := by
  unfold Session.submit
  split
  · exact hfollows.link _
  · exact hfollows.keeps

/-- The server's events change nothing that is registered. -/
theorem Follows.handleEvent (hfollows : Follows s o) (payload : Wire.Event.Payload) :
    Keeps o (s.handleEvent payload) := by
  have hheard : Follows { s with state := (s.state.handleEvent payload).2 } o := by
    rw [State.handleEvent_eq]
    exact ⟨hfollows.sorted, hfollows.mirrors.congr rfl fun kind => by cases kind <;> rfl, hfollows.fits⟩
  exact ⟨hheard, fun _ _ hmem => by cases List.mem_singleton.1 hmem⟩

/-! ## Beginnings -/

/-- An operation asks for what it was asked to do, whether its request goes out or not. -/
theorem Follows.prepare (hfollows : Follows s o) (operation : Nat) (what : Operation) :
    Keeps (o.begin operation what) (s.prepare operation what) := by
  have hbegins := Observer.start_begins hfollows.mirrors operation what
  have hothers : ∀ other running, (other, running) ∈ s.running → other ≠ operation →
      (o.begin operation what).Fits (s.state.start what).2.epoch other running.waiting :=
    fun other running hmem hne => hbegins.others hne (hfollows.fits other running hmem)
  -- Where the server is asked, it matters only what waits for its answer.
  have hasks : ∀ request waiting state, s.state.start what = (.asks request waiting, state) →
      Mirrors (o.begin operation what).handouts state →
      (o.begin operation what).Fits state.epoch operation waiting →
      Keeps (o.begin operation what) (s.prepare operation what) := by
    intro request waiting state hstart hmirrors hfits
    rw [hstart] at hothers
    have hbut : FollowsBut { s with state } (o.begin operation what) operation :=
      ⟨hfollows.sorted, hmirrors, hothers⟩
    simp only [Session.prepare, hstart]
    cases s.connection.issue request with
    | error error => exact (hbut.finish hfits (.error error)).asked operation request
    | ok issued =>
      obtain ⟨number, connection⟩ := issued
      have hentered : Follows { s with
          state, connection, running := Assoc.insert operation { number, waiting } s.running }
          (o.begin operation what) := by
        refine ⟨hfollows.sorted.insert _ _, hmirrors, fun other running hmem => ?_⟩
        rcases hfollows.sorted.mem_insert_of_ne hmem with heq | ⟨hold, hne⟩
        · cases heq
          exact hfits
        · exact hothers other running hold hne
      exact hentered.keeps.asked operation request
  cases hstart : s.state.start what with
  | mk begun state =>
    rw [hstart] at hbegins
    cases hbegins with
    | @answered _ result _ goesOn ends =>
      have hbut : FollowsBut s (o.begin operation what) operation := by
        refine ⟨hfollows.sorted, ?_, fun other running hmem hne => ?_⟩
        · cases what <;> first | exact hfollows.mirrors | exact absurd rfl (goesOn _ _)
        · have hfits := hothers other running hmem hne
          rw [hstart, ends.epoch] at hfits
          exact hfits
      unfold Session.prepare
      rw [hstart]
      exact hbut.ends ends
    | asks goesOn mirrors epoch fits =>
      refine hasks _ _ _ hstart ?_ fits
      cases what <;> first | exact mirrors | exact absurd rfl (goesOn _ _)
    | resumes thread stepping mirrors epoch => exact hasks _ _ _ hstart mirrors (.inl trivial)

/-- Whether a request goes to the writer at once makes no difference. -/
theorem Keeps.submits {moved result : Session × List SessionEffect} (hkeeps : Keeps o moved)
    (hsubmits : Submits moved result) : Keeps o result := by
  rcases hsubmits with rfl | ⟨operation, rfl⟩
  · exact hkeeps
  · exact hkeeps.append (hkeeps.follows.submit operation)

/-! ## Moves -/

theorem Follows.prepareMove (hfollows : Follows s o) (operation : Nat) (what : Operation) :
    Keeps (o.begin operation what) (s.move (.prepare operation what)) := by
  simp only [Session.move]
  split
  · next path breakpoints =>
    split
    · have hturn : Follows { s with syncing := some operation } o := hfollows.congr rfl rfl
      exact hturn.prepare operation (.setBreakpoints path breakpoints)
    · have hqueued : Follows { s with queue := s.queue ++ [{ operation, path, breakpoints }] } o :=
        hfollows.congr rfl rfl
      exact hqueued.keeps
  · exact hfollows.prepare operation what

theorem Follows.prepareTurn (hfollows : Follows s o) : Keeps o (s.move .prepareTurn) := by
  simp only [Session.move]
  split
  · next first queue _ _ =>
    have hturn : Follows { s with syncing := some first.operation, queue } o := hfollows.congr rfl rfl
    exact hturn.prepare first.operation (.setBreakpoints first.path first.breakpoints)
  · exact hfollows.keeps

theorem Follows.step (hfollows : Follows s o) (action : Action) : Keeps (o.beginMove (.step action)) (s.step action) := by
  cases action with
  | start operation what => exact (hfollows.prepareMove operation what).submits (s.start_submits operation what)
  | takeTurn => exact hfollows.prepareTurn.submits s.takeTurn_submits
  | collect operation =>
    simp only [Session.step, Session.collect]
    split
    · exact hfollows.link _
    · exact hfollows.keeps
  | expire operation =>
    simp only [Session.step, Session.expire]
    split
    · exact hfollows.link _
    · exact hfollows.keeps
  | drop operation =>
    refine Follows.keeps ⟨hfollows.sorted.erase operation, hfollows.mirrors, fun other running hmem => ?_⟩
    exact hfollows.fits other running (Assoc.mem_erase.1 hmem).1
  | handleEvent payload => exact hfollows.handleEvent payload
  | link action => exact hfollows.link (·.step action)

theorem Follows.move (hfollows : Follows s o) (m : Move) : Keeps (o.beginMove m) (s.move m) := by
  cases m with
  | step action => exact hfollows.step action
  | prepare operation what => exact hfollows.prepareMove operation what
  | prepareTurn => exact hfollows.prepareTurn

theorem Follows.moves (hfollows : Follows s o) (moves : List Move) :
    Follows (s.moves moves).1 (o.after s moves) := by
  induction moves generalizing s o with
  | nil => exact hfollows
  | cons m rest ih => exact ih (hfollows.move m).follows

theorem Follows.start (connection : Connection) (files : FileTree) (root : Option String) :
    Follows { connection, files, root } {} :=
  ⟨List.Pairwise.nil, .start, fun _ _ hmem => by cases hmem⟩

/-! ## What is asked about a reference -/

/-- Every reference that was handed out is positive, was handed out for one object and one thread, and resolves to
these: to the object, and to the thread in the table of the object's kind alone. -/
structure Resolves (handouts : List Handout) (s : Session) : Prop where
  positive : ∀ h ∈ handouts, 0 < h.reference
  unique : ∀ first ∈ handouts, ∀ second ∈ handouts, first.reference = second.reference → first = second
  object : ∀ h ∈ handouts, s.state.handles.get? h.reference = some h.object
  thread : ∀ h ∈ handouts, ∀ kind,
    Assoc.find? h.reference (s.state.threadsOf kind) = if kind = h.object.kind then some h.thread else none

/-- What is asked about a reference is answered from what it was handed out for, or asked of the server for its
thread. A reference of another kind, or one that was not handed out, has nothing in it, and is no frame to evaluate
in. -/
structure Serves (handouts : List Handout) (s : Session) : Prop where
  scopes : ∀ operation reference, ∃ shown,
    (s.start operation (.scopes reference)).2 = [.ended operation (.ok (.scopes shown))] ∧
    shown.map (·.name) = match Handout.find? handouts reference with
      | some ⟨_, _, .frame content⟩ => content.scopes.map (·.name)
      | _ => []
  listings : ∀ operation reference, match Handout.find? handouts reference with
    | some ⟨_, _, .scope scope⟩ => ∃ shown,
      (s.start operation (.listVariables reference)).2 = [.ended operation (.ok (.listing shown))] ∧
      shown.map (fun v => (v.name, v.value, v.typeName))
        = scope.bindings.map fun value => (value.label, value.description, nonEmpty value.typeName)
    | some ⟨_, thread, .value value⟩ =>
      (s.start operation (.listVariables reference)).2.head? = some (.asked operation (.getChildren thread value.id))
    | _ => (s.start operation (.listVariables reference)).2 = [.ended operation (.ok (.listing []))]
  evaluate : ∀ operation reference text, match Handout.find? handouts reference with
    | some ⟨_, thread, .frame _⟩ => (s.start operation (.evaluate reference text)).2.head?
        = some (.asked operation (.evaluate thread (trimQuotes text)))
    | _ => (s.start operation (.evaluate reference text)).2
        = [.ended operation (.error (.invalidRequest s!"unknown frameId {reference}"))]

theorem Follows.resolves (hfollows : Follows s o) : Resolves o.handouts s where
  positive h hmem := (hfollows.mirrors.bounds hmem).1
  unique first hfirst second hsecond hsame := hfollows.mirrors.unique hfirst hsecond hsame
  object h hmem := by rw [hfollows.mirrors.get?, hfollows.mirrors.find?_of_mem hmem, Option.map_some]
  thread h hmem kind := by
    rw [hfollows.mirrors.thread?, hfollows.mirrors.find?_of_mem hmem]
    by_cases hkind : kind = h.object.kind
    · simp [hkind, Option.filter]
    · simp [hkind, Ne.symm hkind, Option.filter]

/-- What is shown of each element, when it does not depend on the tables. -/
theorem forEach_map {α β γ : Type} {act : State → α → β × State} (shown : β → γ) (content : α → γ)
    (hact : ∀ state a, shown (act state a).1 = content a) (state : State) (list : List α) :
    (state.forEach act list).1.map shown = list.map content := by
  induction list generalizing state with
  | nil => rfl
  | cons a rest ih => exact congrArg₂ List.cons (hact state a) (ih _)

theorem Follows.serves (hfollows : Follows s o) : Serves o.handouts s where
  scopes operation reference := by
    simp only [Session.start, Session.enter, State.start, hfollows.mirrors.scopes_eq]
    refine ⟨_, rfl, ?_⟩
    split
    · exact forEach_map ScopeInfo.name Wire.Scope.name (fun _ _ => rfl) _ _
    · rfl
  listings operation reference := by
    simp only [Session.start, Session.enter, State.start, hfollows.mirrors.startVariables_eq]
    -- The server is asked for what is in a value only.
    rcases Handout.find? o.handouts reference with _ | ⟨_, _, frame | scope | value⟩
    · rfl
    · rfl
    · refine ⟨_, rfl, forEach_map _ _ (fun state value => ?_) _ _⟩
      unfold State.display
      cases State.expandable value <;> rfl
    · rfl
  evaluate operation reference text := by
    simp only [Session.start, Session.enter, hfollows.mirrors.startEvaluate_eq]
    rcases Handout.find? o.handouts reference with _ | ⟨_, _, frame | scope | value⟩ <;> rfl

end

/-- A move that resumes a thread. -/
def Move.Resumes : Move → Prop
  | .step (.start _ (.resume ..)) | .prepare _ (.resume ..) => True
  | _ => False

/-- What was handed out stays so until a resume. -/
theorem subset_after (s : Session) (o : Observer) {moves : List Move} (hpause : ∀ m ∈ moves, ¬ m.Resumes) :
    o.handouts ⊆ (o.after s moves).handouts := by
  induction moves generalizing s o with
  | nil => exact List.Subset.refl _
  | cons m rest ih =>
    have hbegin : (o.beginMove m).handouts = o.handouts := by
      have hm := hpause m List.mem_cons_self
      unfold Observer.beginMove
      split
      · next operation what =>
        cases what with
        | resume thread stepping => exact absurd trivial hm
        | _ => rfl
      · next operation what =>
        cases what with
        | resume thread stepping => exact absurd trivial hm
        | _ => rfl
      · rfl
    have hone := (Observer.notes_grow (o := o.beginMove m) (s.move m).2).2
    rw [hbegin] at hone
    exact List.Subset.trans hone (ih _ _ fun other hother => hpause other (List.mem_cons_of_mem _ hother))

/-- References keep their objects. Every reference in an answer was handed out for something, which the observer knows
of: the object that its line shows, and the thread that this was found in. From then on until the next resume, whatever
moves there are in between, it resolves to these, and what is asked about it is answered from them. -/
theorem references_keep_their_objects (connection : Connection) (files : FileTree) (root : Option String)
    (moves : List Move) :
    let start : Session := { connection, files, root }
    let s := (start.moves moves).1
    let o := Observer.after {} start moves
    (∀ m operation answer, .ended operation (.ok answer) ∈ (s.move m).2 →
      ∀ reference ∈ answer.references, reference ≠ 0 → ∃ h ∈ (o.after s [m]).handouts, h.reference = reference) ∧
    ∀ later, (∀ m ∈ later, ¬ m.Resumes) →
      o.handouts ⊆ (o.after s later).handouts ∧
      Resolves (o.after s later).handouts (s.moves later).1 ∧
      Serves (o.after s later).handouts (s.moves later).1 := by
  intro start s o
  have hfollows : Follows s o := (Follows.start connection files root).moves moves
  refine ⟨fun m => (hfollows.move m).noted, fun later hpause => ⟨subset_after s o hpause, ?_⟩⟩
  have hlater := hfollows.moves later
  exact ⟨hlater.resolves, hlater.serves⟩

/-- A frame of thread 7 and its scope are handed out, one after the other, and forgotten at a resume. -/
example :
    let scope : Wire.Scope := { name := "Locals" }
    let frame : Wire.Frame := { functionName := "f", scopes := [scope] }
    let listed : Wire.Event := { number := 1, payload := some (.listFrames [frame]) }
    let asked : List Action := [.link .dial, .link (.opened 0 0), .link (.attach 0), .start 1 (.stackTrace 7),
      .link (.arrive (Wire.putAll 100 [] [listed.encode]).1), .link .read, .collect 1, .start 2 (.scopes 1)]
    let handouts (actions : List Action) := (Observer.after {} { connection := {} } (actions.map .step)).handouts
    handouts asked = [⟨1, 7, .frame frame⟩, ⟨2, 7, .scope scope⟩] ∧
      handouts (asked ++ [.start 3 (.resume 7 .none)]) = [] := by
  decide +kernel

end Session

end DebugBridge.Debugger
