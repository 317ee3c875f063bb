import DebugBridge.Connection.Basic

/-!
# Histories of a connection

A run is told as a history: which calls began under which numbers, which messages were read off the stream, and what
was done to others, in the order in which it came about. What becomes of a call is then a matter of what follows its
beginning. `run_rule` lifts what every step keeps between a connection and its history to whole runs.
-/

namespace DebugBridge.Connection

/-- What happens in a step. -/
inductive Moment where
  /-- A call begins. -/
  | issued (number : UInt64) (payload : Wire.Request.Payload)
  /-- A message is taken off the stream. -/
  | received (event : Wire.Event)
  /-- A call is dropped by its caller. -/
  | dropped (number : UInt64)
  /-- Something is done to others. -/
  | did (effect : Effect)

/-- What a step takes in: a call that begins or is dropped, or a message. -/
def intake (c : Connection) : Action → List Moment
  | .issue payload =>
    match c.issue payload with
    | .ok (number, _) => [.issued number payload]
    | .error _ => []
  | .read =>
    match c.incoming with
    | none => []
    | some incoming =>
      match Wire.next c.setup.maxFrameBytes Wire.Event.decode incoming.unread with
      | .message event _ => [.received event]
      | _ => []
  | .dropCall number => [.dropped number]
  | _ => []

/-- What happens in a step, in order. -/
def moments (c : Connection) (action : Action) : List Moment :=
  c.intake action ++ (c.step action).2.map .did

/-- What is taken in: a call that begins, a message that is read, or the drop of a call. -/
theorem mem_intake {c : Connection} {action : Action} {m : Moment} (hmem : m ∈ c.intake action) :
    (∃ number payload, m = .issued number payload) ∨ (∃ event, m = .received event ∧ action = .read) ∨
      ∃ number, m = .dropped number ∧ action = .dropCall number := by
  cases action with
  | issue payload =>
    simp only [intake] at hmem
    split at hmem
    · exact .inl ⟨_, _, List.mem_singleton.1 hmem⟩
    · cases hmem
  | read =>
    simp only [intake] at hmem
    split at hmem
    · cases hmem
    · split at hmem
      · exact .inr (.inl ⟨_, List.mem_singleton.1 hmem, rfl⟩)
      · cases hmem
  | dropCall number => exact .inr (.inr ⟨number, List.mem_singleton.1 hmem, rfl⟩)
  | _ => cases hmem

/-- The message that is taken off the stream when the connection reads on. -/
def coming (c : Connection) : List Wire.Event :=
  (c.intake .read).filterMap fun
    | .received event => some event
    | _ => none

/-- Only reading on receives a message. -/
theorem received_mem_moments {c : Connection} {action : Action} {event : Wire.Event}
    (hreceived : .received event ∈ c.moments action) : action = .read ∧ event ∈ c.coming := by
  rcases List.mem_append.1 hreceived with hintake | hdid
  · rcases mem_intake hintake with ⟨_, _, heq⟩ | ⟨_, -, rfl⟩ | ⟨_, heq, -⟩
    · cases heq
    · exact ⟨rfl, List.mem_filterMap.2 ⟨_, hintake, rfl⟩⟩
    · cases heq
  · simp at hdid

/-- A message is received by reading on, which passes it on. -/
theorem step_of_received {c : Connection} {action : Action} {event : Wire.Event}
    (hreceived : .received event ∈ c.moments action) :
    ∃ incoming, c.step action = { c with incoming }.dispatch event := by
  rcases List.mem_append.1 hreceived with hintake | hdid
  · rcases mem_intake hintake with ⟨_, _, heq⟩ | ⟨_, -, rfl⟩ | ⟨_, heq, -⟩
    · cases heq
    · cases hincoming : c.incoming with
      | none => simp [intake, hincoming] at hintake
      | some incoming =>
        cases hnext : Wire.next c.setup.maxFrameBytes Wire.Event.decode incoming.unread with
        | message other rest =>
          simp only [intake, hincoming, hnext, List.mem_singleton, Moment.received.injEq] at hintake
          exact ⟨some { incoming with unread := rest }, by simp only [step, read, hincoming, hnext, hintake]⟩
        | refused error rest => simp [intake, hincoming, hnext] at hintake
        | wait => simp [intake, hincoming, hnext] at hintake
    · cases heq
  · simp at hdid

/-- What is done is what the step's effects are. -/
theorem did_mem_moments {c : Connection} {action : Action} {effect : Effect} :
    .did effect ∈ c.moments action ↔ effect ∈ (c.step action).2 := by
  unfold moments
  rw [List.mem_append]
  constructor
  · rintro (hintake | hdid)
    · rcases mem_intake hintake with ⟨_, _, heq⟩ | ⟨_, heq, -⟩ | ⟨_, heq, -⟩ <;> cases heq
    · obtain ⟨other, hother, heq⟩ := List.mem_map.1 hdid
      cases heq
      exact hother
  · exact fun heffect => .inr (List.mem_map_of_mem heffect)

theorem dropped_mem_moments {c : Connection} {action : Action} {number : UInt64}
    (hdropped : .dropped number ∈ c.moments action) : action = .dropCall number := by
  rcases List.mem_append.1 hdropped with hintake | hdid
  · rcases mem_intake hintake with ⟨_, _, heq⟩ | ⟨_, heq, -⟩ | ⟨_, heq, haction⟩ <;> cases heq
    exact haction
  · simp at hdid

/-- A step that does something, and of which nothing else is noticed, does just that. -/
theorem effects_eq_of_moments {c : Connection} {action : Action} {effect other : Effect}
    (hmoments : c.moments action = [.did effect]) (hmem : other ∈ (c.step action).2) :
    (c.step action).2 = [effect] := by
  have hlength := congrArg List.length hmoments
  simp only [moments, List.length_append, List.length_map, List.length_singleton] at hlength
  have hpos := List.length_pos_of_mem hmem
  have hintake : c.intake action = [] := List.eq_nil_of_length_eq_zero (by omega)
  rw [moments, hintake, List.nil_append] at hmoments
  obtain ⟨only, heffects⟩ := List.length_eq_one_iff.1 (show (c.step action).2.length = 1 by omega)
  rw [heffects] at hmoments ⊢
  simpa using hmoments

/-- What happens in a run, in order. -/
def history (c : Connection) : List Action → List Moment
  | [] => []
  | action :: actions => c.moments action ++ (c.step action).1.history actions

theorem dropped_mem_history {c : Connection} {actions : List Action} {number : UInt64}
    (hdropped : .dropped number ∈ c.history actions) : .dropCall number ∈ actions := by
  induction actions generalizing c with
  | nil => cases hdropped
  | cons action actions ih =>
    rcases List.mem_append.1 hdropped with hfirst | hrest
    · rw [dropped_mem_moments hfirst]
      exact List.mem_cons_self
    · exact List.mem_cons_of_mem _ (ih hrest)

theorem run_cons (c : Connection) (action : Action) (actions : List Action) :
    c.run (action :: actions)
      = (((c.step action).1.run actions).1, (c.step action).2 ++ ((c.step action).1.run actions).2) := rfl

theorem run_append (c : Connection) (first second : List Action) :
    c.run (first ++ second)
      = (((c.run first).1.run second).1, (c.run first).2 ++ ((c.run first).1.run second).2) := by
  induction first generalizing c with
  | nil => rfl
  | cons action first ih =>
    rw [List.cons_append, run_cons, run_cons, ih, List.append_assoc]

theorem history_append (c : Connection) (first second : List Action) :
    c.history (first ++ second) = c.history first ++ (c.run first).1.history second := by
  induction first generalizing c with
  | nil => rfl
  | cons action first ih =>
    rw [List.cons_append, history, history, ih, List.append_assoc]
    rfl

/-- What every step keeps, between a connection and all that has happened so far, every run keeps. -/
theorem run_rule {Inv : Connection → List Moment → Prop}
    (hstep : ∀ c h action, Inv c h → Inv (c.step action).1 (h ++ c.moments action))
    (c : Connection) (h : List Moment) (actions : List Action) (hinv : Inv c h) :
    Inv (c.run actions).1 (h ++ c.history actions) := by
  -- The history grows at its end while the run goes on from its head: what came before is generalised.
  induction actions generalizing c h with
  | nil =>
    rw [history, List.append_nil]
    exact hinv
  | cons action actions ih =>
    rw [history, ← List.append_assoc]
    exact ih _ _ (hstep c h action hinv)

/-! ## Calls in a history -/

/-- The numbers of the calls that began, in order. -/
def numbers (h : List Moment) : List UInt64 :=
  h.filterMap fun
    | .issued number _ => some number
    | _ => none

/-- What a call of this number asks for, and all that has happened since it began. -/
def since (number : UInt64) : List Moment → Option (Wire.Request.Payload × List Moment)
  | [] => none
  | .issued other payload :: rest => if other = number then some (payload, rest) else since number rest
  | _ :: rest => since number rest

/-- The first message with this number. -/
def reply? (number : UInt64) (h : List Moment) : Option Wire.Event :=
  h.findSome? fun
    | .received event => if event.number = number then some event else none
    | _ => none

/-- Whether a moment gives the call of this number its result: a message with the number, or the answer itself. -/
def Moment.settles (number : UInt64) : Moment → Prop
  | .received event => event.number = number
  | .did (.answered other _) => other = number
  | _ => False

/-- A call of this number has begun and has no result yet. -/
def Outstanding (h : List Moment) (number : UInt64) : Prop :=
  ∃ payload after, since number h = some (payload, after) ∧ ∀ m ∈ after, ¬ m.settles number

/-- What the caller of this number is told. -/
def answersTo (number : UInt64) (effects : List Effect) : List (Except CallError Wire.Event.Payload) :=
  effects.filterMap fun
    | .answered other result => if other = number then some result else none
    | _ => none

theorem mem_answersTo {number : UInt64} {effects : List Effect} {result : Except CallError Wire.Event.Payload} :
    result ∈ answersTo number effects ↔ .answered number result ∈ effects := by
  rw [answersTo, List.mem_filterMap]
  constructor
  · rintro ⟨effect, hmem, hresult⟩
    cases effect with
    | answered other answer =>
      obtain ⟨rfl, heq⟩ := Option.ite_none_right_eq_some.1 hresult
      rwa [← Option.some.inj heq]
    | _ => cases hresult
  · exact fun hmem => ⟨_, hmem, if_pos rfl⟩

/-! ## One moment more -/

@[simp] theorem numbers_append (h more : List Moment) : numbers (h ++ more) = numbers h ++ numbers more :=
  List.filterMap_append

@[simp] theorem numbers_did (effects : List Effect) : numbers (effects.map .did) = [] := by
  simp [numbers]

theorem mem_numbers {number : UInt64} {payload : Wire.Request.Payload} {h : List Moment}
    (hissued : .issued number payload ∈ h) : number ∈ numbers h :=
  List.mem_filterMap.2 ⟨_, hissued, rfl⟩

theorem since_isSome_iff {number : UInt64} {h : List Moment} : (since number h).isSome ↔ number ∈ numbers h := by
  induction h with
  | nil => simp [since, numbers]
  | cons m h ih =>
    unfold numbers at ih ⊢
    cases m with
    | issued other payload =>
      by_cases heq : other = number
      · simp [since, heq]
      · simp [since, heq, Ne.symm heq, ih]
    | received event => simpa [since] using ih
    | dropped other => simpa [since] using ih
    | did effect => simpa [since] using ih

theorem since_eq_none {number : UInt64} {h : List Moment} (hfresh : number ∉ numbers h) : since number h = none := by
  rw [← since_isSome_iff] at hfresh
  simpa using hfresh

/-- What `since` finds is in the history: that the call began, and all that came after. -/
theorem mem_of_since {number : UInt64} {h after : List Moment} {payload : Wire.Request.Payload}
    (hsince : since number h = some (payload, after)) : .issued number payload ∈ h ∧ after ⊆ h := by
  induction h with
  | nil => simp [since] at hsince
  | cons m h ih =>
    cases m with
    | issued other payload' =>
      rw [since] at hsince
      split at hsince
      · next heq =>
        simp only [Option.some.injEq, Prod.mk.injEq] at hsince
        rw [heq, hsince.1, hsince.2]
        exact ⟨List.mem_cons_self, List.subset_cons_self _ _⟩
      · exact ⟨List.mem_cons_of_mem _ (ih hsince).1, List.subset_cons_of_subset _ (ih hsince).2⟩
    | _ => exact ⟨List.mem_cons_of_mem _ (ih hsince).1, List.subset_cons_of_subset _ (ih hsince).2⟩

theorem since_append_of_some {number : UInt64} {h after : List Moment} {payload : Wire.Request.Payload}
    (hsince : since number h = some (payload, after)) (more : List Moment) :
    since number (h ++ more) = some (payload, after ++ more) := by
  induction h with
  | nil => simp [since] at hsince
  | cons m h ih =>
    cases m with
    | issued other payload' =>
      rw [List.cons_append, since]
      rw [since] at hsince
      split
      · next heq =>
        rw [if_pos heq] at hsince
        simp only [Option.some.injEq, Prod.mk.injEq] at hsince
        rw [hsince.1, hsince.2]
      · next hne =>
        rw [if_neg hne] at hsince
        exact ih hsince
    | _ => exact ih hsince

theorem since_append_of_none {number : UInt64} {h : List Moment} (hsince : since number h = none)
    (more : List Moment) : since number (h ++ more) = since number more := by
  induction h with
  | nil => rfl
  | cons m h ih =>
    cases m with
    | issued other payload =>
      rw [since] at hsince
      rw [List.cons_append, since]
      split at hsince
      · simp at hsince
      · next hne =>
        rw [if_neg hne]
        exact ih hsince
    | _ => exact ih hsince

theorem reply?_append (number : UInt64) (h more : List Moment) :
    reply? number (h ++ more) = (reply? number h).or (reply? number more) :=
  List.findSome?_append

theorem reply?_eq_none_of_not_settles {number : UInt64} {h : List Moment} (hnone : ∀ m ∈ h, ¬ m.settles number) :
    reply? number h = none := by
  unfold reply?
  rw [List.findSome?_eq_none_iff]
  intro m hm
  have hnot := hnone m hm
  cases m with
  | received event => simpa [Moment.settles] using hnot
  | _ => rfl

/-- The message that `reply?` finds is one of the history's and carries the number. -/
theorem mem_of_reply? {number : UInt64} {h : List Moment} {event : Wire.Event} (hreply : reply? number h = some event) :
    .received event ∈ h ∧ event.number = number := by
  unfold reply? at hreply
  obtain ⟨m, hm, hfound⟩ := List.exists_of_findSome?_eq_some hreply
  cases m with
  | received other =>
    simp only [Option.ite_none_right_eq_some, Option.some.injEq] at hfound
    obtain ⟨hnumber, rfl⟩ := hfound
    exact ⟨hm, hnumber⟩
  | _ => simp at hfound

theorem outstanding_iff {number : UInt64} {h after : List Moment} {payload : Wire.Request.Payload}
    (hsince : since number h = some (payload, after)) : Outstanding h number ↔ ∀ m ∈ after, ¬ m.settles number := by
  constructor
  · rintro ⟨payload', after', hsince', hall⟩
    rw [hsince] at hsince'
    cases hsince'
    exact hall
  · intro hall
    exact ⟨payload, after, hsince, hall⟩

theorem not_outstanding_of_none {number : UInt64} {h : List Moment} (hsince : since number h = none) :
    ¬ Outstanding h number := by
  rintro ⟨payload, after, hsince', -⟩
  rw [hsince] at hsince'
  cases hsince'

/-- Moments in which no call begins leave outstanding what they do not settle. -/
theorem outstanding_append {h more : List Moment} (hnone : numbers more = []) (number : UInt64) :
    Outstanding (h ++ more) number ↔ Outstanding h number ∧ ∀ m ∈ more, ¬ m.settles number := by
  cases hsince : since number h with
  | none =>
    have hmore : since number (h ++ more) = none := by
      rw [since_append_of_none hsince]
      exact since_eq_none (by simp [hnone])
    simp [not_outstanding_of_none hsince, not_outstanding_of_none hmore]
  | some found =>
    obtain ⟨payload, after⟩ := found
    rw [outstanding_iff hsince, outstanding_iff (since_append_of_some hsince more), List.forall_mem_append]

/-- A call that begins is outstanding, and no other one becomes so. -/
theorem outstanding_append_issued {h : List Moment} {number : UInt64} {payload : Wire.Request.Payload}
    (hfresh : number ∉ numbers h) (other : UInt64) :
    Outstanding (h ++ [.issued number payload]) other ↔ other = number ∨ Outstanding h other := by
  cases hsince : since other h with
  | none =>
    by_cases heq : number = other
    · have hbegun : since other (h ++ [.issued number payload]) = some (payload, []) := by
        rw [since_append_of_none hsince, since, if_pos heq]
      rw [outstanding_iff hbegun]
      simp [heq]
    · have hmore : since other (h ++ [.issued number payload]) = none := by
        rw [since_append_of_none hsince, since, if_neg heq, since]
      simp [not_outstanding_of_none hsince, not_outstanding_of_none hmore, Ne.symm heq]
  | some found =>
    obtain ⟨payload', after⟩ := found
    have hne : other ≠ number := by
      rintro rfl
      rw [since_eq_none hfresh] at hsince
      cases hsince
    rw [outstanding_iff hsince, outstanding_iff (since_append_of_some hsince _), List.forall_mem_append]
    simp [hne, Moment.settles]

end DebugBridge.Connection
