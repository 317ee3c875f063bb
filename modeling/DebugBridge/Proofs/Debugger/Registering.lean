import DebugBridge.Proofs.Debugger.Provenance

/-!
# What operations register

An operation that has not outlived its pause registers what its reply lists, or what lies inside something registered
before. One whose reply comes after a resume registers nothing. `Waiting.Current` and `Waiting.Late` tell the two apart
by what an operation remembers while it waits.
-/

namespace DebugBridge.Debugger

/-- What an operation remembers fits this pause and its own request. What it asks about is known. -/
def Waiting.Current (answers : Answers) (now : Nat) (request : Wire.Request.Payload) : Waiting → Prop
  | .frames thread epoch => epoch = now ∧ request = .listFrames thread
  | .listing thread epoch =>
    epoch = now ∧ ∃ parent, Known answers thread (.value parent) ∧ request = .getChildren thread parent.id
  | .evaluation thread epoch expression =>
    epoch = now ∧ (∃ frame, Known answers thread (.frame frame)) ∧ request = .evaluate thread expression
  | _ => True

/-- What an operation remembers is of an earlier pause. -/
def Waiting.Late (now : Nat) : Waiting → Prop
  | .frames _ epoch | .listing _ epoch | .evaluation _ epoch _ => epoch < now
  | _ => True

/-- The answer that a reply to a request adds. -/
def answerOf (request : Wire.Request.Payload) : Except CallError Wire.Event.Payload → Answers
  | .ok payload => [(request, payload)]
  | .error _ => []

theorem Waiting.Current.mono {answers more : Answers} {now : Nat} {request : Wire.Request.Payload} {waiting : Waiting}
    (hcurrent : waiting.Current answers now request) (hsub : answers ⊆ more) : waiting.Current more now request := by
  cases waiting with
  | listing thread epoch =>
    obtain ⟨hepoch, parent, hknown, hrequest⟩ := hcurrent
    exact ⟨hepoch, parent, hknown.mono hsub, hrequest⟩
  | evaluation thread epoch expression =>
    obtain ⟨hepoch, ⟨frame, hknown⟩, hrequest⟩ := hcurrent
    exact ⟨hepoch, ⟨frame, hknown.mono hsub⟩, hrequest⟩
  | _ => exact hcurrent

/-- When the pause ends, all that waits becomes late. -/
theorem Waiting.Current.late {answers : Answers} {now later : Nat} {request : Wire.Request.Payload} {waiting : Waiting}
    (hcurrent : waiting.Current answers now request) (hlater : now < later) : waiting.Late later := by
  cases waiting with
  | frames thread epoch => exact hcurrent.1 ▸ hlater
  | listing thread epoch => exact hcurrent.1 ▸ hlater
  | evaluation thread epoch expression => exact hcurrent.1 ▸ hlater
  | _ => trivial

theorem Waiting.Late.trans {now later : Nat} {waiting : Waiting} (hlate : waiting.Late now) (hlater : now < later) :
    waiting.Late later := by
  cases waiting with
  | frames thread epoch => exact Nat.lt_trans hlate hlater
  | listing thread epoch => exact Nat.lt_trans hlate hlater
  | evaluation thread epoch expression => exact Nat.lt_trans hlate hlater
  | _ => trivial

/-- What an operation that outlived its pause is answered: nothing is listed, and nothing can be asked for further. For
operations that only tell the server something there is nothing to say. -/
def Waiting.lateAnswer (waiting : Waiting) (reply : Except CallError Wire.Event.Payload) :
    Option (Except Error Answer) :=
  match waiting with
  | .frames .. => some ((reply.bind Reply.frames |>.mapError .call).map fun _ => .frames [])
  | .listing .. => some ((reply.bind Reply.children |>.mapError .call).map fun _ => .listing [])
  | .evaluation .. =>
    some (match reply.bind Reply.value with
      | .ok value =>
        .ok (.evaluation { result := value.description, typeName := nonEmpty value.typeName, reference := 0 })
      | .error (.remote text) => .ok (.evaluation { result := text, reference := 0 })
      | .error error => .error (.call error))
  | _ => none

namespace State

/-- A state of the same pause as another, in which all that is registered is known. -/
structure Stays (answers : Answers) (s s' : State) : Prop where
  grounded : Grounded answers s'
  epoch : s'.epoch = s.epoch

section

variable {answers : Answers} {s : State} {thread : Int64}

theorem Stays.refl (hgrounded : Grounded answers s) : Stays answers s s :=
  ⟨hgrounded, rfl⟩

theorem Stays.register {s' : State} (hstays : Stays answers s s') {object : Object}
    (hknown : Known answers thread object) : Stays answers s (s'.register thread object) :=
  ⟨hstays.grounded.register hknown, (register_epoch object).trans hstays.epoch⟩

/-- Doing something for each element stays in the pause when doing it for one element does. -/
theorem forEach_stays {α β : Type} {act : State → α → β × State} {list : List α} {s' : State}
    (hstays : Stays answers s s') (hact : ∀ s', ∀ a ∈ list, Stays answers s s' → Stays answers s (act s' a).2) :
    Stays answers s (s'.forEach act list).2 := by
  induction list generalizing s' with
  | nil => exact hstays
  | cons a rest ih =>
    exact ih (hact s' a List.mem_cons_self hstays) fun s' b hb => hact s' b (List.mem_cons_of_mem _ hb)

theorem display_stays {s' : State} (hstays : Stays answers s s') {value : Wire.Value}
    (hknown : Known answers thread (.value value)) : Stays answers s (s'.display thread value).2 := by
  unfold display
  cases hexpandable : expandable value with
  | true => exact hstays.register hknown
  | false => exact hstays

/-- An object found under a reference is registered under it. -/
theorem mem_of_get? {reference : Reference} {object : Object} (hfound : s.handles.get? reference = some object) :
    (reference, object) ∈ s.handles.entries := by
  obtain ⟨before, after, heq, -⟩ := List.lookup_eq_some_iff.1 hfound
  rw [heq]
  exact List.mem_append_right _ List.mem_cons_self

/-! ## First halves -/

theorem scopes_stays (hgrounded : Grounded answers s) (frame : Reference) : Stays answers s (s.scopes frame).2 := by
  unfold scopes
  split
  · next content hfound =>
    split
    · next owner howner =>
      have hframe : Known answers owner (.frame content) := hgrounded.known_of_find? (mem_of_get? hfound) howner
      exact forEach_stays (.refl hgrounded) fun s' scope hscope hstays => hstays.register (.scope hframe hscope)
    · exact .refl hgrounded
  · exact .refl hgrounded

/-- How an operation begins: it is answered in the same pause, or asks in the same pause for something that may be
asked, or ends the pause. -/
inductive Begins (answers : Answers) (s : State) : Started × State → Prop
  | answered (result : Except Error Answer) {s' : State} (stays : Stays answers s s') :
      Begins answers s (.answered result, s')
  | asks {request : Wire.Request.Payload} {waiting : Waiting} {s' : State} (stays : Stays answers s s')
      (halts : ∀ thread stepping, request ≠ .continueExecution thread stepping)
      (current : waiting.Current answers s.epoch request) : Begins answers s (.asks request waiting, s')
  | resumes (thread : Int64) (stepping : Int32) {s' : State} (cleared : Unregistered s') (epoch : s.epoch < s'.epoch) :
      Begins answers s (.asks (.continueExecution thread stepping) .resumed, s')

theorem startVariables_begins (hgrounded : Grounded answers s) (reference : Reference) :
    Begins answers s (s.startVariables reference) := by
  unfold startVariables
  split
  · next scope hfound =>
    split
    · next owner howner =>
      have hscope : Known answers owner (.scope scope) := hgrounded.known_of_find? (mem_of_get? hfound) howner
      exact .answered _ (forEach_stays (.refl hgrounded) fun s' value hvalue hstays =>
        display_stays hstays (.binding hscope hvalue))
    · exact .answered _ (.refl hgrounded)
  · next value hfound =>
    split
    · next owner howner =>
      have hvalue : Known answers owner (.value value) := hgrounded.known_of_find? (mem_of_get? hfound) howner
      exact .asks (.refl hgrounded) (by simp) ⟨rfl, value, hvalue, rfl⟩
    · exact .answered _ (.refl hgrounded)
  · exact .answered _ (.refl hgrounded)

theorem start_begins (hgrounded : Grounded answers s) (what : Operation) : Begins answers s (s.start what) := by
  cases what with
  | setBreakpoints path breakpoints =>
    exact .asks ⟨hgrounded.congr rfl fun kind => by cases kind <;> rfl, rfl⟩ (by simp) trivial
  | stackTrace thread => exact .asks (.refl hgrounded) (by simp) ⟨rfl, rfl⟩
  | scopes frame => exact .answered _ (scopes_stays hgrounded frame)
  | listVariables reference => exact startVariables_begins hgrounded reference
  | evaluate frame expression =>
    simp only [start]
    split
    · next thread howner =>
      -- The thread is looked up without the frame, but its table has entries for frames only.
      obtain ⟨object, hkind, -, hknown⟩ := hgrounded.objects .frame frame thread (Assoc.mem_of_find? howner)
      cases object with
      | frame content => exact .asks (.refl hgrounded) (by simp) ⟨rfl, ⟨content, hknown⟩, rfl⟩
      | scope scope => cases hkind
      | value value => cases hkind
    · exact .answered _ (.refl hgrounded)
  | resume thread stepping => exact .resumes thread _ ⟨rfl, rfl, rfl, rfl⟩ (Nat.lt_succ_self _)
  | pause thread => exact .asks (.refl hgrounded) (by simp) trivial
  | configurationDone => exact .asks (.refl hgrounded) (by simp) trivial

/-! ## Second halves -/

theorem bind_frames_eq_ok {reply : Except CallError Wire.Event.Payload} {frames : List Wire.Frame}
    (hframes : reply.bind Reply.frames = .ok frames) : reply = .ok (.listFrames frames) := by
  cases reply with
  | error error => cases hframes
  | ok payload => cases payload <;> simp_all [Except.bind, Reply.frames, Reply.unexpected]

theorem bind_children_eq_ok {reply : Except CallError Wire.Event.Payload} {children : List Wire.Value}
    (hchildren : reply.bind Reply.children = .ok children) : reply = .ok (.getChildren children) := by
  cases reply with
  | error error => cases hchildren
  | ok payload => cases payload <;> simp_all [Except.bind, Reply.children, Reply.unexpected]

theorem bind_value_eq_ok {reply : Except CallError Wire.Event.Payload} {value : Wire.Value}
    (hvalue : reply.bind Reply.value = .ok value) :
    ∃ result, reply = .ok (.evaluate result) ∧ value = result.getD {} := by
  cases reply with
  | error error => cases hvalue
  | ok payload => cases payload <;> simp_all [Except.bind, Reply.value, Reply.unexpected]

/-- A value that is known already and has the label looked for is one that was registered, or a binding. -/
theorem known_of_boundValue? (hgrounded : Grounded answers s) {label : String} {value : Wire.Value}
    (hfound : s.boundValue? thread label = some value) : Known answers thread (.value value) := by
  unfold boundValue? at hfound
  obtain ⟨⟨reference, object⟩, hentry, hobject⟩ := List.exists_of_findSome?_eq_some hfound
  cases object with
  | frame frame => cases hobject
  | scope scope =>
    simp only [Option.ite_none_right_eq_some] at hobject
    have hscope : Known answers thread (.scope scope) := hgrounded.known_of_find? hentry hobject.1
    exact .binding hscope (List.mem_of_find?_eq_some hobject.2)
  | value value => cases hobject

theorem displayIn_stays (hgrounded : Grounded answers s) {value : Wire.Value}
    (hknown : expandable value = true → Known answers thread (.value value)) :
    Stays answers s (s.displayIn s.epoch thread value).2 := by
  unfold displayIn
  rw [if_pos rfl]
  unfold display
  cases hexpandable : expandable value with
  | true => exact (Stays.refl hgrounded).register (hknown hexpandable)
  | false => exact .refl hgrounded

theorem evaluateKnown_stays (hgrounded : Grounded answers s) (epoch : Nat) (expression error : String) :
    Stays answers s (s.evaluateKnown thread epoch expression error).2 := by
  unfold evaluateKnown
  split
  · exact .refl hgrounded
  · split
    · exact .refl hgrounded
    · split
      · next value hfound => exact display_stays (.refl hgrounded) (known_of_boundValue? hgrounded hfound)
      · exact .refl hgrounded

/-- An operation that ends in its own pause registers what its reply makes known. -/
theorem finish_stays (hgrounded : Grounded answers s) (files : FileTree) (root : Option String) {waiting : Waiting}
    {request : Wire.Request.Payload} (hcurrent : waiting.Current answers s.epoch request)
    (reply : Except CallError Wire.Event.Payload) :
    Stays (answers ++ answerOf request reply) s (s.finish files root waiting reply).2 := by
  have hmore : Grounded (answers ++ answerOf request reply) s := hgrounded.mono (List.subset_append_left _ _)
  have hanswer : ∀ payload, reply = .ok payload → (request, payload) ∈ answers ++ answerOf request reply := by
    rintro payload rfl
    exact List.mem_append_right _ (List.mem_singleton_self _)
  cases waiting with
  | frames thread epoch =>
    obtain ⟨rfl, rfl⟩ := hcurrent
    simp only [finish]
    split
    · exact .refl hmore
    · next frames hframes =>
      rw [if_neg (by simp)]
      have hlisted := hanswer _ (bind_frames_eq_ok hframes)
      exact forEach_stays (.refl hmore) fun s' frame hframe hstays => hstays.register (.frame hlisted hframe)
  | listing thread epoch =>
    obtain ⟨rfl, parent, hparent, rfl⟩ := hcurrent
    simp only [finish]
    split
    · exact .refl hmore
    · next children hchildren =>
      rw [if_neg (by simp)]
      have hlisted := hanswer _ (bind_children_eq_ok hchildren)
      exact forEach_stays (.refl hmore) fun s' value hvalue hstays => display_stays hstays
        (.child (hparent.mono (List.subset_append_left _ _)) hlisted hvalue)
  | evaluation thread epoch expression =>
    obtain ⟨rfl, ⟨frame, hframe⟩, rfl⟩ := hcurrent
    simp only [finish]
    split
    · next value hvalue =>
      obtain ⟨result, hreply, hresult⟩ := bind_value_eq_ok hvalue
      refine displayIn_stays hmore fun hexpandable => ?_
      cases result with
      | none =>
        -- What stands for a missing value has no children.
        rw [hresult] at hexpandable
        cases hexpandable
      | some value' =>
        rw [hresult]
        exact .evaluated (hframe.mono (List.subset_append_left _ _)) (hanswer _ hreply)
    · exact evaluateKnown_stays hmore _ _ _
    · exact .refl hmore
  | _ => exact .refl hmore

/-- A reply that comes after the pause changes nothing. -/
theorem finish_of_late (files : FileTree) (root : Option String) {waiting : Waiting} (hlate : waiting.Late s.epoch)
    (reply : Except CallError Wire.Event.Payload) :
    (s.finish files root waiting reply).2 = s ∧
      ∀ answer, waiting.lateAnswer reply = some answer → (s.finish files root waiting reply).1 = answer := by
  cases waiting with
  | frames thread epoch =>
    have hne : s.epoch ≠ epoch := Nat.ne_of_gt hlate
    simp only [finish, Waiting.lateAnswer, Option.some.injEq, forall_eq']
    cases reply.bind Reply.frames with
    | error error => exact ⟨rfl, rfl⟩
    | ok frames =>
      simp only [if_pos hne]
      exact ⟨trivial, rfl⟩
  | listing thread epoch =>
    have hne : s.epoch ≠ epoch := Nat.ne_of_gt hlate
    simp only [finish, Waiting.lateAnswer, Option.some.injEq, forall_eq']
    cases reply.bind Reply.children with
    | error error => exact ⟨rfl, rfl⟩
    | ok children =>
      simp only [if_pos hne]
      exact ⟨trivial, rfl⟩
  | evaluation thread epoch expression =>
    have hne : s.epoch ≠ epoch := Nat.ne_of_gt hlate
    simp only [finish, Waiting.lateAnswer, Option.some.injEq, forall_eq', displayIn, evaluateKnown, if_pos hne,
      if_neg hne]
    cases reply.bind Reply.value with
    | ok value => exact ⟨rfl, rfl⟩
    | error error => cases error <;> exact ⟨rfl, rfl⟩
  | _ => exact ⟨rfl, by simp [Waiting.lateAnswer]⟩

end

end State

end DebugBridge.Debugger
