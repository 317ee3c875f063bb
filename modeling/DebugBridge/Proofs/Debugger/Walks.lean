import DebugBridge.Proofs.Debugger.Tables
import DebugBridge.Proofs.Debugger.Views

/-!
# Walks through what a server has to show

An editor that looks around in a pause asks for the frames of a thread, for the scopes of a frame, for the bindings of a
scope, for the children of a value, for their children, and so on, and goes by the references that it was shown. `Walk`
writes down what it was shown, and `Sees` says what it sees at the end of a path. The invariant `Charted` says that it
sees what the server has to show there, and why: each operation under way waits for the answer to a request that fits
what it is to do, and the answer to a request is what the server has to show for it. From that, by induction on the
path, `walks_show_what_there_is`.
-/

namespace DebugBridge.Debugger

/-! ## What an editor sees -/

/-- What can be written down of a pause: what its operations are to do, what each of them has asked of the server, and
what they have shown, the newest first. -/
structure Walk where
  begun : List (Nat × Operation) := []
  requests : List (Nat × Wire.Request.Payload) := []
  seen : List (Operation × List Line) := []

namespace Walk

/-- Takes notice of a beginning. A resume ends all walks. -/
def begin (w : Walk) (operation : Nat) : Operation → Walk
  | .setBreakpoints .. => w
  | .resume .. => {}
  | what => { w with begun := Assoc.insert operation what w.begun }

/-- What an operation shows as it ends, with what it was to do. -/
def shown? (w : Walk) (operation : Nat) : Except Error Answer → Option (Operation × List Line)
  | .ok answer => (Assoc.find? operation w.begun).bind fun what => (answer.view? what).map fun view => (what, view)
  | .error _ => none

/-- Takes notice of an effect. -/
def note (w : Walk) : SessionEffect → Walk
  | .asked operation request => { w with requests := Assoc.insert operation request w.requests }
  | .ended operation result => { w with seen := (w.shown? operation result).toList ++ w.seen }
  | _ => w

def account : Account Walk where
  begins := begin
  hears w _ := w
  note := note

end Walk

/-- What is seen of a thread at the end of a path: its frames, and then what is shown when a line is opened that was
seen before. -/
inductive Sees (thread : Int64) : List (Operation × List Line) → List Nat → List Line → Prop
  | frames {seen : List (Operation × List Line)} {view : List Line} :
      Sees thread ((.stackTrace thread, view) :: seen) [] view
  | inside {seen : List (Operation × List Line)} {path : List Nat} {around view : List Line} {step : Nat} {line : Line}
      (before : Sees thread seen path around) (found : around[step]? = some line) (opens : line.reference ≠ 0) :
      Sees thread ((line.opening, view) :: seen) (step :: path) view
  | later {seen : List (Operation × List Line)} {path : List Nat} {view : List Line} (entry : Operation × List Line)
      (before : Sees thread seen path view) : Sees thread (entry :: seen) path view

/-- A message that is read for an operation that has asked the server for something shows what there is to show for
that. -/
def TellsWhatThereIs (data : ServerData) (s : Session) (w : Walk) : Prop :=
  ∀ event ∈ s.connection.coming, ∀ entry ∈ s.running, entry.2.number = event.number →
    ∀ request ∈ Assoc.find? entry.1 w.requests, data.gives request event.payload = true

instance (data : ServerData) (s : Session) (w : Walk) : Decidable (TellsWhatThereIs data s w) :=
  inferInstanceAs (Decidable (∀ _ ∈ _, ∀ _ ∈ _, _ → ∀ _ ∈ _, _))

/-! ## What is listed -/

/-- What is asked to see what lies inside an object. -/
def Object.opening : Object → Reference → Operation
  | frame _, reference => .scopes reference
  | _, reference => .listVariables reference

theorem Line.Shows.opening_eq {handouts : List Handout} {thread : Int64} {line : Line} {object : Object}
    (hshows : line.Shows handouts thread object) : line.opening = object.opening line.reference := by
  unfold Line.opening
  rw [hshows.shown]
  cases object <;> rfl

/-- What an operation is to list of a thread: its frames, or what lies inside an object that was handed out. -/
inductive Lists (data : ServerData) (handouts : List Handout) (what : Operation) : Int64 → List Object → Prop
  | frames (thread : Int64) (asked : what = .stackTrace thread) :
      Lists data handouts what thread ((data.frames thread).map .frame)
  | inside {h : Handout} (handed : h ∈ handouts) (asked : what = h.object.opening h.reference) :
      Lists data handouts what h.thread (data.inside h.object)

/-- What an operation shows as it ends is what it is to list. -/
def EndsTruly (data : ServerData) (o : Observer) (w : Walk) (operation : Nat) (result : Except Error Answer) : Prop :=
  ∀ what view, w.shown? operation result = some (what, view) → ∀ thread objects,
    Lists data o.handouts what thread objects →
      Renders (o.note (.ended operation result)).handouts thread view objects

section

variable {data : ServerData} {o : Observer} {w : Walk} {s : State} {operation : Nat} {thread : Int64}

/-- A failure shows nothing. -/
theorem EndsTruly.of_error (error : Error) : EndsTruly data o w operation (.error error) := by
  intro what view hshown
  cases hshown

theorem shown?_of_begun {what : Operation} (hbegun : Assoc.find? operation w.begun = some what) (answer : Answer) :
    w.shown? operation (.ok answer) = (answer.view? what).map fun view => (what, view) := by
  simp only [Walk.shown?, hbegun, Option.bind_some]

/-- What is answered at once is what lies inside a frame or a scope. -/
theorem endsTruly_of_start (hmirrors : Mirrors o.handouts s) {what : Operation} {result : Except Error Answer}
    (hstart : (s.start what).1 = .answered result) (hasked : Assoc.find? operation o.asked = some what)
    (hbegun : Assoc.find? operation w.begun = some what) : EndsTruly data o w operation result := by
  intro what' view hshown owner objects hlists
  cases result with
  | error error => cases hshown
  | ok answer =>
    rw [shown?_of_begun hbegun, Option.map_eq_some_iff] at hshown
    obtain ⟨_, hview, heq⟩ := hshown
    cases heq
    rw [Observer.note, Observer.hear_of_asked hasked]
    cases hlists with
    | frames _ asked =>
      subst asked
      cases hstart
    | @inside h handed asked =>
      obtain ⟨reference, owner, object⟩ := h
      have hfound : Handout.find? o.handouts reference = some ⟨reference, owner, object⟩ :=
        hmirrors.find?_of_mem handed
      subst asked
      cases object with
      | frame content =>
        simp only [Object.opening, State.start, hmirrors.scopes_eq, hfound] at hstart hview ⊢
        cases hstart
        cases hview
        simp only [Observer.lines, hfound]
        exact addScope_displays.renders s content.scopes o.handouts owner
      | scope content =>
        simp only [Object.opening, State.start, hmirrors.startVariables_eq, hfound] at hstart hview ⊢
        cases hstart
        cases hview
        simp only [Observer.lines, hfound]
        exact display_displays.renders s content.bindings o.handouts owner
      | value content =>
        -- The server is asked, so nothing is answered yet.
        simp only [Object.opening, State.start, hmirrors.startVariables_eq, hfound] at hstart
        cases hstart

/-! ## Operations under way -/

/-- Whether a request is for something to list. -/
def asksToList : Wire.Request.Payload → Bool
  | .listFrames _ | .getChildren .. => true
  | _ => false

/-- Whether an operation waits for something to list. -/
def Waiting.lists : Waiting → Bool
  | .frames .. | .listing .. => true
  | _ => false

/-- What an operation under way waits for fits its request, and this fits what it is to do. One that began in an earlier
pause, or before the walk, has asked for nothing. -/
inductive Tied (w : Walk) (handouts : List Handout) (now operation : Nat) : Waiting → Prop
  | unasked {waiting : Waiting} (asked : Assoc.find? operation w.requests = none)
      (begun : Assoc.find? operation w.begun = none) : Tied w handouts now operation waiting
  | frames {thread : Int64} (asked : Assoc.find? operation w.requests = some (.listFrames thread))
      (begun : Assoc.find? operation w.begun = some (.stackTrace thread)) :
      Tied w handouts now operation (.frames thread now)
  | children {thread : Int64} {reference : Reference} {value : Wire.Value}
      (asked : Assoc.find? operation w.requests = some (.getChildren thread value.id))
      (begun : Assoc.find? operation w.begun = some (.listVariables reference))
      (handed : ⟨reference, thread, .value value⟩ ∈ handouts) : Tied w handouts now operation (.listing thread now)
  | other {request : Wire.Request.Payload} {waiting : Waiting}
      (asked : Assoc.find? operation w.requests = some request) (other : asksToList request = false)
      (blind : waiting.lists = false) : Tied w handouts now operation waiting

theorem Tied.mono {handouts more : List Handout} {now : Nat} {waiting : Waiting} {w' : Walk}
    (htied : Tied w handouts now operation waiting)
    (hrequests : Assoc.find? operation w'.requests = Assoc.find? operation w.requests)
    (hbegun : Assoc.find? operation w'.begun = Assoc.find? operation w.begun) (hsub : handouts ⊆ more) :
    Tied w' more now operation waiting := by
  cases htied with
  | unasked asked begun => exact .unasked (hrequests.trans asked) (hbegun.trans begun)
  | frames asked begun => exact .frames (hrequests.trans asked) (hbegun.trans begun)
  | children asked begun handed => exact .children (hrequests.trans asked) (hbegun.trans begun) (hsub handed)
  | other asked other blind => exact .other (hrequests.trans asked) other blind

section

variable {handouts : List Handout} {now : Nat} {waiting : Waiting}

/-- Who has asked for frames waits for them. -/
theorem Tied.frames_eq (htied : Tied w handouts now operation waiting)
    (hasked : Assoc.find? operation w.requests = some (.listFrames thread)) :
    waiting = .frames thread now ∧ Assoc.find? operation w.begun = some (.stackTrace thread) := by
  cases htied with
  | unasked asked begun =>
    rw [asked] at hasked
    cases hasked
  | frames asked begun =>
    rw [asked] at hasked
    cases hasked
    exact ⟨rfl, begun⟩
  | children asked begun handed =>
    rw [asked] at hasked
    cases hasked
  | other asked other blind =>
    rw [asked] at hasked
    cases hasked
    cases other

/-- Who has asked for children waits for them. -/
theorem Tied.children_eq {value : Int64} (htied : Tied w handouts now operation waiting)
    (hasked : Assoc.find? operation w.requests = some (.getChildren thread value)) :
    waiting = .listing thread now ∧ ∃ reference, Assoc.find? operation w.begun = some (.listVariables reference) := by
  cases htied with
  | unasked asked begun =>
    rw [asked] at hasked
    cases hasked
  | frames asked begun =>
    rw [asked] at hasked
    cases hasked
  | children asked begun handed =>
    rw [asked] at hasked
    cases hasked
    exact ⟨rfl, _, begun⟩
  | other asked other blind =>
    rw [asked] at hasked
    cases hasked
    cases other

end

/-- An operation that asks waits for what it asks for. -/
theorem tied_of_start (hmirrors : Mirrors o.handouts s) (w : Walk) (operation : Nat) {what : Operation}
    {request : Wire.Request.Payload} {waiting : Waiting} {state : State}
    (hstart : s.start what = (.asks request waiting, state)) :
    Tied ((w.begin operation what).note (.asked operation request)) (o.begin operation what).handouts state.epoch
      operation waiting := by
  have hasked : Assoc.find? operation ((w.begin operation what).note (.asked operation request)).requests
      = some request := Assoc.find?_insert_self _ _ _
  cases what with
  | stackTrace thread =>
    cases hstart
    exact .frames hasked (Assoc.find?_insert_self _ _ _)
  | scopes frame => cases hstart
  | listVariables reference =>
    simp only [State.start, hmirrors.startVariables_eq] at hstart
    split at hstart
    · cases hstart
    · next thread value hfound =>
      cases hstart
      obtain ⟨hmem, rfl⟩ := Handout.mem_of_find? hfound
      exact .children hasked (Assoc.find?_insert_self _ _ _) hmem
    · cases hstart
  | evaluate frame text =>
    rw [hmirrors.startEvaluate_eq] at hstart
    split at hstart
    · cases hstart
      exact .other hasked rfl rfl
    · cases hstart
  | _ =>
    cases hstart
    exact .other hasked rfl rfl

/-- An operation that waits for nothing to list does not show anything. -/
theorem view?_of_blind (s : State) (files : FileTree) (root : Option String) {waiting : Waiting}
    (hblind : waiting.lists = false) {reply : Except CallError Wire.Event.Payload} {answer : Answer}
    (hanswer : (s.finish files root waiting reply).1 = .ok answer) (what : Operation) : answer.view? what = none := by
  -- Apart from evaluations, what is left to answer does not depend on the reply.
  have hconst : ∀ {α : Type} {result : Except CallError α} {other : Answer}, (∀ what, other.view? what = none) →
      ((result.mapError Error.call).map fun _ => other) = .ok answer → answer.view? what = none := by
    intro α result other hnone heq
    cases result with
    | error error => cases heq
    | ok a =>
      cases heq
      exact hnone what
  have hevaluation : ∀ shown, (Answer.evaluation shown).view? what = none := by
    intro shown
    cases what <;> rfl
  cases waiting with
  | frames thread epoch => cases hblind
  | listing thread epoch => cases hblind
  | evaluation thread epoch expression =>
    simp only [State.finish] at hanswer
    split at hanswer
    · cases hanswer
      exact hevaluation _
    · cases hanswer
      exact hevaluation _
    · cases hanswer
  | breakpoints lines => exact hconst (fun what => by cases what <;> rfl) hanswer
  | _ => exact hconst (fun what => by cases what <;> rfl) hanswer

/-- What is answered with a reply is what lies inside a thread or a value. -/
theorem Tied.endsTruly {waiting : Waiting} (htied : Tied w o.handouts s.epoch operation waiting)
    (hmirrors : Mirrors o.handouts s)
    (hasked : ∀ what, Assoc.find? operation w.begun = some what → Assoc.find? operation o.asked = some what)
    {reply : Except CallError Wire.Event.Payload} (hreply : o.reply = some reply)
    (hgives : ∀ request payload, Assoc.find? operation w.requests = some request → reply = .ok payload →
      data.gives request (some payload) = true) (files : FileTree) (root : Option String) :
    EndsTruly data o w operation (s.finish files root waiting reply).1 := by
  cases htied with
  | unasked asked begun =>
    intro what view hshown
    cases hresult : (s.finish files root waiting reply).1 <;> simp [hresult, Walk.shown?, begun] at hshown
  | @frames thread asked begun =>
    simp only [State.finish]
    split
    · exact .of_error _
    · next frames hframes =>
      obtain rfl := State.bind_frames_eq_ok hframes
      obtain rfl : frames = data.frames thread := of_decide_eq_true (hgives _ _ asked rfl)
      -- It is still the pause in which this was asked.
      rw [if_neg (by simp)]
      intro what view hshown owner objects hlists
      rw [shown?_of_begun begun] at hshown
      cases hshown
      rw [Observer.note, Observer.hear_of_asked (hasked _ begun)]
      cases hlists with
      | frames _ same =>
        cases same
        simp only [Observer.lines, hreply]
        exact (stackFrame_displays files root).renders s (data.frames thread) o.handouts thread
      | @inside h _ same => cases hobject : h.object <;> simp [hobject, Object.opening] at same
  | @children thread reference value asked begun handed =>
    have hfound : Handout.find? o.handouts reference = some ⟨reference, thread, .value value⟩ :=
      hmirrors.find?_of_mem handed
    simp only [State.finish]
    split
    · exact .of_error _
    · next children hchildren =>
      obtain rfl := State.bind_children_eq_ok hchildren
      obtain rfl : children = data.children value.id := of_decide_eq_true (hgives _ _ asked rfl)
      rw [if_neg (by simp)]
      intro what view hshown owner objects hlists
      rw [shown?_of_begun begun] at hshown
      cases hshown
      rw [Observer.note, Observer.hear_of_asked (hasked _ begun)]
      cases hlists with
      | frames _ same => cases same
      | @inside h handed' same =>
        -- Only one object was handed out under the reference.
        have hreference : h.reference = reference := by
          cases hobject : h.object <;> simp [hobject, Object.opening] at same <;> exact same.symm
        obtain rfl := hmirrors.unique handed' handed hreference
        simp only [Observer.lines, hfound, hreply]
        exact display_displays.renders s (data.children value.id) o.handouts thread
  | other asked other blind =>
    intro what view hshown
    cases hresult : (s.finish files root waiting reply).1 with
    | error error =>
      rw [hresult] at hshown
      cases hshown
    | ok answer =>
      cases hbegun : Assoc.find? operation w.begun with
      | none => simp [hresult, Walk.shown?, hbegun] at hshown
      | some what' => simp [hresult, shown?_of_begun hbegun, view?_of_blind s files root blind hresult] at hshown

end

end DebugBridge.Debugger
