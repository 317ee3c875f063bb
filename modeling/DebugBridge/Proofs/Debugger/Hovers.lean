import DebugBridge.Proofs.Debugger.Fallbacks

/-!
# Hovering over a name

An editor evaluates the name under the cursor, again and again. Where the server does not know the name, the first
evaluation may register what it finds in a scope, and the ones after it then find that among the registered values.
They come to the same result and leave the state as it is. The invariant `Hovering` says that the state is the one from
before, or the one that the first evaluation left, and that once an evaluation has ended it is the latter.
-/

namespace DebugBridge.Debugger

namespace State

/-- Something is registered for the thread that has this label. -/
def Knows (s : State) (thread : Int64) (label : String) : Prop :=
  (∃ reference value, s.Owns thread reference (.value value) ∧ value.label = label) ∨
    ∃ reference scope, s.Owns thread reference (.scope scope) ∧ ∃ value ∈ scope.bindings, value.label = label

/-- States that differ only in which threads stand still. -/
def SameButPaused (s s' : State) : Prop :=
  s = { s' with pausedThreads := s.pausedThreads }

/-- The state after a failed evaluation of a name. -/
def hovered (s : State) (thread : Int64) (label : String) : State :=
  (s.evaluateKnown thread s.epoch label "").2

section

variable {s s' s'' : State} {thread : Int64} {label : String}

namespace SameButPaused

theorem refl (s : State) : SameButPaused s s :=
  rfl

theorem symm (hsame : SameButPaused s s') : SameButPaused s' s := by
  unfold SameButPaused at hsame ⊢
  rw [hsame]

theorem trans (hfirst : SameButPaused s s') (hsecond : SameButPaused s' s'') : SameButPaused s s'' := by
  unfold SameButPaused at hfirst hsecond ⊢
  rw [hfirst, hsecond]

theorem eq (hsame : SameButPaused s s') (hpaused : s.pausedThreads = s'.pausedThreads) : s = s' := by
  unfold SameButPaused at hsame
  rwa [hpaused] at hsame

theorem epoch (hsame : SameButPaused s s') : s.epoch = s'.epoch := by
  rw [hsame]

theorem frameThreads (hsame : SameButPaused s s') : s.frameThreads = s'.frameThreads := by
  rw [hsame]

theorem handles (hsame : SameButPaused s s') : s.handles = s'.handles := by
  rw [hsame]

theorem handleEvent (s : State) (payload : Wire.Event.Payload) : SameButPaused (s.handleEvent payload).2 s :=
  handleEvent_eq s payload

/-- What is known under a name does not depend on which threads stand still. -/
theorem evaluateKnown (hsame : SameButPaused s s') (thread : Int64) (epoch : Nat) (label error : String) :
    (s.evaluateKnown thread epoch label error).1 = (s'.evaluateKnown thread epoch label error).1 ∧
      SameButPaused (s.evaluateKnown thread epoch label error).2 (s'.evaluateKnown thread epoch label error).2 := by
  have hall : ∀ paused, (({ s' with pausedThreads := paused } : State).evaluateKnown thread epoch label error)
      = ((s'.evaluateKnown thread epoch label error).1,
          { (s'.evaluateKnown thread epoch label error).2 with pausedThreads := paused }) := by
    intro paused
    have hregistered : ({ s' with pausedThreads := paused } : State).registeredValue? thread label
        = s'.registeredValue? thread label := rfl
    have hbound : ({ s' with pausedThreads := paused } : State).boundValue? thread label
        = s'.boundValue? thread label := rfl
    unfold State.evaluateKnown
    rw [hregistered, hbound]
    split
    · rfl
    · cases s'.registeredValue? thread label with
      | some found => rfl
      | none =>
        cases s'.boundValue? thread label with
        | none => rfl
        | some value =>
          simp only [display]
          cases expandable value <;> rfl
  rw [hsame, hall]
  exact ⟨rfl, rfl⟩

end SameButPaused

/-! ## What is found the second time -/

/-- What is registered afterwards is what was before, and the new object. -/
theorem owns_register_iff (hfresh : ∀ entry ∈ s.handles.entries, entry.1 < (s.handles.last : Int) + 1) {object : Object}
    {owner : Int64} {reference : Reference} {other : Object} :
    (s.register thread object).Owns owner reference other ↔
      s.Owns owner reference other ∨ reference = (s.handles.last : Int) + 1 ∧ other = object ∧ owner = thread := by
  unfold Owns
  rw [register_entries, List.mem_append, List.mem_singleton, register_threadsOf]
  constructor
  · rintro ⟨hold | hnew, howner⟩
    · refine .inl ⟨hold, ?_⟩
      have hne : reference ≠ (s.handles.last : Int) + 1 := Int.ne_of_lt (hfresh _ hold)
      split at howner
      · rwa [Assoc.find?_insert_of_ne hne] at howner
      · exact howner
    · cases hnew
      rw [if_pos rfl, Assoc.find?_insert_self] at howner
      exact .inr ⟨rfl, rfl, (Option.some.inj howner).symm⟩
  · rintro (⟨hold, howner⟩ | ⟨rfl, rfl, rfl⟩)
    · refine ⟨.inl hold, ?_⟩
      have hne : reference ≠ (s.handles.last : Int) + 1 := Int.ne_of_lt (hfresh _ hold)
      split
      · rwa [Assoc.find?_insert_of_ne hne]
      · exact howner
    · exact ⟨.inr rfl, by rw [if_pos rfl, Assoc.find?_insert_self]⟩

theorem register_sorted (hsorted : Assoc.Sorted s.handles.entries)
    (hfresh : ∀ entry ∈ s.handles.entries, entry.1 < (s.handles.last : Int) + 1) (object : Object) :
    Assoc.Sorted (s.register thread object).handles.entries := by
  rw [register_entries]
  refine List.pairwise_append.2 ⟨hsorted, List.pairwise_singleton _ _, fun entry hentry other hother => ?_⟩
  rw [List.mem_singleton.1 hother]
  exact hfresh entry hentry

/-- A binding that was just registered is the one value that is registered under its label. -/
theorem registeredValue?_register (hsorted : Assoc.Sorted s.handles.entries)
    (hfresh : ∀ entry ∈ s.handles.entries, entry.1 < (s.handles.last : Int) + 1)
    (hnone : s.registeredValue? thread label = none) {value : Wire.Value} (hlabel : value.label = label) :
    (s.register thread (.value value)).registeredValue? thread label = some ((s.handles.last : Int) + 1, value) := by
  rw [registeredValue?_eq_some_iff (register_sorted hsorted hfresh _)]
  refine ⟨⟨(owns_register_iff hfresh).2 (.inr ⟨rfl, rfl, rfl⟩), hlabel⟩, fun other value' howns hlabel' => ?_⟩
  rcases (owns_register_iff hfresh).1 howns with hold | ⟨rfl, -, -⟩
  · exact absurd hlabel' (registeredValue?_eq_none_iff.1 hnone other value' hold)
  · exact Int.le_refl _

/-- A second failed evaluation of a name comes to what the first one would have come to with the second one's error, and
leaves the state as the first one left it. -/
theorem evaluateKnown_again (hsorted : Assoc.Sorted s.handles.entries)
    (hfresh : ∀ entry ∈ s.handles.entries, entry.1 < (s.handles.last : Int) + 1) (error : String) :
    (s.hovered thread label).evaluateKnown thread s.epoch label error
      = ((s.evaluateKnown thread s.epoch label error).1, s.hovered thread label) := by
  have hcurrent : ¬ s.epoch ≠ s.epoch := not_not_intro rfl
  cases hregistered : s.registeredValue? thread label with
  | some found => simp only [hovered, evaluateKnown, if_neg hcurrent, hregistered]
  | none =>
    cases hbound : s.boundValue? thread label with
    | none => simp only [hovered, evaluateKnown, if_neg hcurrent, hregistered, hbound]
    | some value =>
      cases hopens : expandable value with
      | false => simp [hovered, evaluateKnown, display, hregistered, hbound, hopens]
      | true =>
        -- The first time it is found in a scope, the second time among the values.
        obtain ⟨reference, scope, howns, hfirst, -⟩ := (boundValue?_eq_some_iff hsorted).1 hbound
        have hlabel : value.label = label := by simpa using List.find?_some hfirst
        have hleft : s.hovered thread label = s.register thread (.value value) := by
          simp only [hovered, evaluateKnown, if_neg hcurrent, hregistered, hbound, display, hopens, if_true]
          rfl
        have hsecond := registeredValue?_register hsorted hfresh hregistered hlabel
        have hepoch : ¬ (s.register thread (.value value)).epoch ≠ s.epoch := not_not_intro (register_epoch _)
        rw [hleft, evaluateKnown, if_neg hepoch, hsecond]
        simp only [evaluateKnown, if_neg hcurrent, hregistered, hbound, display, hopens, if_true]
        rfl

/-- Only where nothing is known does the error matter. -/
theorem evaluateKnown_of_knows (hknows : s.Knows thread label) (error error' : String) :
    (s.evaluateKnown thread s.epoch label error).1 = (s.evaluateKnown thread s.epoch label error').1 := by
  have hcurrent : ¬ s.epoch ≠ s.epoch := not_not_intro rfl
  cases hregistered : s.registeredValue? thread label with
  | some found => simp only [evaluateKnown, if_neg hcurrent, hregistered]
  | none =>
    cases hbound : s.boundValue? thread label with
    | some value => simp only [evaluateKnown, if_neg hcurrent, hregistered, hbound]
    | none =>
      rcases hknows with ⟨reference, value, howns, hlabel⟩ | ⟨reference, scope, howns, value, hmem, hlabel⟩
      · exact absurd hlabel (registeredValue?_eq_none_iff.1 hregistered reference value howns)
      · exact absurd hlabel (boundValue?_eq_none_iff.1 hbound reference scope howns value hmem)

/-- The error does not matter for the state at all. -/
theorem evaluateKnown_state (error : String) : (s.evaluateKnown thread s.epoch label error).2 = s.hovered thread label := by
  have hcurrent : ¬ s.epoch ≠ s.epoch := not_not_intro rfl
  unfold hovered evaluateKnown
  rw [if_neg hcurrent, if_neg hcurrent]
  cases s.registeredValue? thread label with
  | some found => rfl
  | none => cases s.boundValue? thread label <;> rfl

theorem hovered_epoch : (s.hovered thread label).epoch = s.epoch :=
  (evaluateKnown_adds s thread s.epoch label "").epoch

/-- A failed evaluation registers one value, or nothing. -/
theorem hovered_cases :
    s.hovered thread label = s ∨ ∃ value, s.hovered thread label = s.register thread (.value value) := by
  have hcurrent : ¬ s.epoch ≠ s.epoch := not_not_intro rfl
  unfold hovered evaluateKnown
  rw [if_neg hcurrent]
  cases s.registeredValue? thread label with
  | some found => exact .inl rfl
  | none =>
    cases s.boundValue? thread label with
    | none => exact .inl rfl
    | some value =>
      simp only [display]
      cases expandable value with
      | false => exact .inl rfl
      | true => exact .inr ⟨value, rfl⟩

theorem hovered_frameThreads : (s.hovered thread label).frameThreads = s.frameThreads := by
  rcases @hovered_cases s thread label with hsame | ⟨value, hvalue⟩
  · rw [hsame]
  · rw [hvalue]
    rfl

theorem hovered_size : (s.hovered thread label).handles.entries.length ≤ s.handles.entries.length + 1 := by
  rcases @hovered_cases s thread label with hsame | ⟨value, hvalue⟩
  · rw [hsame]
    exact Nat.le_succ _
  · rw [hvalue, register_entries, List.length_append]
    exact Nat.le_refl _

end

end State

/-! ## Sessions -/

namespace Session

/-- A move that begins nothing but this evaluation. -/
def Move.Hovers (frame : Reference) (text : String) : Move → Prop
  | .step (.start _ what) | .prepare _ what => what = .evaluate frame text
  | .step .takeTurn | .prepareTurn => False
  | _ => True

/-- What the server tells of its own accord. -/
def Move.IsNews : Move → Prop
  | .step (.handleEvent _) => True
  | _ => False

/-- Only operations that were not under way before get replies, and they all fail. -/
def AllFail (base : Session) (effects : List SessionEffect) : Prop :=
  ∀ operation reply, .replied operation reply ∈ effects →
    Assoc.find? operation base.running = none ∧ ∃ error, reply = .error error

/-- An evaluation has come to something. -/
def Evaluated (told : List SessionEffect) (evaluation : Evaluation) : Prop :=
  ∃ operation, .ended operation (.ok (.evaluation evaluation)) ∈ told

/-- A session in which nothing has happened since a moment but failed evaluations of one name. -/
structure Hovering (base : Session) (thread : Int64) (label : String) (s : Session) (told : List SessionEffect) :
    Prop where
  sorted : Assoc.Sorted s.running
  waits : ∀ operation running, (operation, running) ∈ s.running → Assoc.find? operation base.running = none →
    running.waiting = .evaluation thread base.state.epoch label
  /-- The state is as it was, or as the first one left it. -/
  state : s.state.SameButPaused base.state ∨ s.state.SameButPaused (base.state.hovered thread label)
  settled : (∃ evaluation, Evaluated told evaluation) → s.state.SameButPaused (base.state.hovered thread label)
  found : base.state.Knows thread label → ∀ evaluation, Evaluated told evaluation →
    evaluation = (base.state.evaluateKnown thread base.state.epoch label "").1

section

variable {handouts : List Handout} {base s : Session} {thread : Int64} {label : String} {told effects : List SessionEffect}

theorem AllFail.left {more : List SessionEffect} (hfail : AllFail base (effects ++ more)) : AllFail base effects :=
  fun operation reply hmem => hfail operation reply (List.mem_append_left _ hmem)

theorem AllFail.right {more : List SessionEffect} (hfail : AllFail base (effects ++ more)) : AllFail base more :=
  fun operation reply hmem => hfail operation reply (List.mem_append_right _ hmem)

theorem Evaluated.append {evaluation : Evaluation} (hevaluated : Evaluated (told ++ effects) evaluation) :
    Evaluated told evaluation ∨ Evaluated effects evaluation := by
  obtain ⟨operation, hmem⟩ := hevaluated
  rcases List.mem_append.1 hmem with hold | hnew
  · exact .inl ⟨operation, hold⟩
  · exact .inr ⟨operation, hnew⟩

theorem Evaluated.grow {evaluation : Evaluation} (hevaluated : Evaluated told evaluation) :
    Evaluated (told ++ effects) evaluation := by
  obtain ⟨operation, hmem⟩ := hevaluated
  exact ⟨operation, List.mem_append_left _ hmem⟩

theorem evaluated_of_ended {operation : Nat} {reply : Except CallError Wire.Event.Payload}
    {result : Except Error Answer} {evaluation : Evaluation}
    (hevaluated : Evaluated [.replied operation reply, .ended operation result] evaluation) :
    result = .ok (.evaluation evaluation) := by
  obtain ⟨other, hmem⟩ := hevaluated
  rcases List.mem_cons.1 hmem with heq | hmem
  · cases heq
  · cases List.mem_singleton.1 hmem
    rfl

namespace Hovering

theorem start (hsorted : Assoc.Sorted s.running) : Hovering s thread label s [] where
  sorted := hsorted
  waits operation running hmem hnone := by
    rw [hsorted.find?_of_mem hmem] at hnone
    cases hnone
  state := .inl (.refl _)
  settled := by
    rintro ⟨evaluation, operation, hmem⟩
    cases hmem
  found _ evaluation := by
    rintro ⟨operation, hmem⟩
    cases hmem

theorem epoch (hhovering : Hovering base thread label s told) : s.state.epoch = base.state.epoch := by
  rcases hhovering.state with hsame | hsame
  · exact hsame.epoch
  · exact hsame.epoch.trans State.hovered_epoch

theorem frameThreads (hhovering : Hovering base thread label s told) :
    s.state.frameThreads = base.state.frameThreads := by
  rcases hhovering.state with hsame | hsame
  · exact hsame.frameThreads
  · exact hsame.frameThreads.trans State.hovered_frameThreads

/-- Nothing has come to an end, and no operation has begun. -/
theorem goesOn (hhovering : Hovering base thread label s told) {s' : Session} (hsorted : Assoc.Sorted s'.running)
    (hsub : s'.running ⊆ s.running) (hsame : s'.state.SameButPaused s.state)
    (hnone : ∀ evaluation, ¬ Evaluated effects evaluation) : Hovering base thread label s' (told ++ effects) where
  sorted := hsorted
  waits operation running hmem := hhovering.waits operation running (hsub hmem)
  state := hhovering.state.imp hsame.trans hsame.trans
  settled := by
    rintro ⟨evaluation, hevaluated⟩
    exact hsame.trans (hhovering.settled ⟨evaluation, hevaluated.append.resolve_right (hnone evaluation)⟩)
  found hknows evaluation hevaluated :=
    hhovering.found hknows evaluation (hevaluated.append.resolve_right (hnone evaluation))

/-- A failed evaluation comes to what is known, and leaves the state as the first one does. -/
theorem evaluateKnown (hhovering : Hovering base thread label s told)
    (hmirrors : Mirrors handouts base.state) (error : String) :
    (s.state.evaluateKnown thread base.state.epoch label error).2.SameButPaused (base.state.hovered thread label) ∧
      (base.state.Knows thread label → (s.state.evaluateKnown thread base.state.epoch label error).1
        = (base.state.evaluateKnown thread base.state.epoch label "").1) := by
  rcases hhovering.state with hsame | hsame
  · obtain ⟨hresult, hstate⟩ := hsame.evaluateKnown thread base.state.epoch label error
    rw [State.evaluateKnown_state] at hstate
    exact ⟨hstate, fun hknows => hresult.trans (State.evaluateKnown_of_knows hknows error "")⟩
  · obtain ⟨hresult, hstate⟩ := hsame.evaluateKnown thread base.state.epoch label error
    rw [State.evaluateKnown_again hmirrors.entries_sorted hmirrors.entries_fresh] at hresult hstate
    exact ⟨hstate, fun hknows => hresult.trans (State.evaluateKnown_of_knows hknows error "")⟩

/-- An evaluation fails. -/
theorem finish (hhovering : Hovering base thread label s told) (hmirrors : Mirrors handouts base.state)
    (connection : Connection) (operation : Nat) (error : CallError) :
    Hovering base thread label
      ({ s with connection }.finish operation (.evaluation thread base.state.epoch label) (.error error)).1
      (told ++ ({ s with connection }.finish operation (.evaluation thread base.state.epoch label) (.error error)).2) := by
  have hreleased : Assoc.Sorted (s.release operation).running := hhovering.sorted.erase operation
  cases error with
  | remote text =>
    obtain ⟨hstate, hresult⟩ := hhovering.evaluateKnown hmirrors text
    refine ⟨hreleased, fun other running hmem => hhovering.waits other running (release_subset s operation hmem),
      .inr hstate, fun _ => hstate, fun hknows evaluation hevaluated => ?_⟩
    rcases hevaluated.append with hold | hnew
    · exact hhovering.found hknows evaluation hold
    · cases evaluated_of_ended hnew
      exact hresult hknows
  | _ =>
    refine hhovering.goesOn hreleased (release_subset s operation) (.refl _) fun evaluation hevaluated => ?_
    cases evaluated_of_ended hevaluated

/-! ## Moves -/

theorem link (hhovering : Hovering base thread label s told) (hmirrors : Mirrors handouts base.state)
    (action : Connection.Action) (hfail : AllFail base (s.link (·.step action)).2) :
    Hovering base thread label (s.link (·.step action)).1 (told ++ (s.link (·.step action)).2) := by
  rcases s.link_cases action with ⟨answer, operation, running, -, hmem, hlink⟩ | ⟨-, hlink⟩
  · rw [hlink] at hfail ⊢
    obtain ⟨hnew, error, rfl⟩ := hfail operation answer List.mem_cons_self
    rw [hhovering.waits operation running hmem hnew]
    exact hhovering.finish hmirrors _ operation error
  · rw [hlink]
    refine hhovering.goesOn hhovering.sorted (List.Subset.refl _) (.refl _) ?_
    rintro evaluation ⟨operation, hmem⟩
    obtain ⟨effect, -, heq⟩ := List.mem_map.1 hmem
    cases heq

theorem prepare (hhovering : Hovering base thread label s told) (hmirrors : Mirrors handouts base.state)
    (operation : Nat) {frame : Reference} {text : String} (hframe : Assoc.find? frame base.state.frameThreads = some thread)
    (hlabel : label = trimQuotes text) :
    Hovering base thread label (s.prepare operation (.evaluate frame text)).1
      (told ++ (s.prepare operation (.evaluate frame text)).2) := by
  have hstart : s.state.start (.evaluate frame text)
      = (.asks (.evaluate thread label) (.evaluation thread base.state.epoch label), s.state) := by
    simp only [State.start, hhovering.frameThreads, hframe, hhovering.epoch, hlabel]
  have hasked : Hovering base thread label s (told ++ [.asked operation (.evaluate thread label)]) := by
    refine hhovering.goesOn hhovering.sorted (List.Subset.refl _) (.refl _) ?_
    rintro evaluation ⟨other, hmem⟩
    cases List.mem_singleton.1 hmem
  cases hissue : s.connection.issue (.evaluate thread label) with
  | error error =>
    simp only [Session.prepare, hstart, hissue]
    have hfinish := hasked.finish hmirrors s.connection operation error
    rwa [List.append_assoc] at hfinish
  | ok issued =>
    simp only [Session.prepare, hstart, hissue]
    refine ⟨hhovering.sorted.insert _ _, fun other running hmem hnew => ?_, hasked.state, hasked.settled, hasked.found⟩
    rcases Assoc.mem_insert hmem with heq | hold
    · cases heq
      rfl
    · exact hhovering.waits other running hold hnew

/-- A step of the connection for some operation under way, or none. -/
theorem linkFor (hhovering : Hovering base thread label s told) (hmirrors : Mirrors handouts base.state)
    (running : Option Running) (action : UInt64 → Connection.Action) :
    let result := match running with
      | some running => s.link (·.step (action running.number))
      | none => (s, [])
    AllFail base result.2 → Hovering base thread label result.1 (told ++ result.2) := by
  cases running with
  | some running => exact hhovering.link hmirrors (action running.number)
  | none =>
    intro result _
    rwa [List.append_nil]

theorem move (hhovering : Hovering base thread label s told) (hmirrors : Mirrors handouts base.state)
    {frame : Reference} {text : String} (hframe : Assoc.find? frame base.state.frameThreads = some thread)
    (hlabel : label = trimQuotes text) {m : Move} (hhovers : m.Hovers frame text) (hfail : AllFail base (s.move m).2) :
    Hovering base thread label (s.move m).1 (told ++ (s.move m).2) := by
  cases m with
  | prepare operation what =>
    obtain rfl : what = .evaluate frame text := hhovers
    exact hhovering.prepare hmirrors operation hframe hlabel
  | prepareTurn => exact hhovers.elim
  | step action =>
    cases action with
    | start operation what =>
      obtain rfl : what = .evaluate frame text := hhovers
      have hprepared := hhovering.prepare hmirrors operation hframe hlabel
      have henter : s.move (.step (.start operation (.evaluate frame text))) = s.enter operation (.evaluate frame text) :=
        rfl
      rw [henter, enter_eq] at hfail ⊢
      rw [← List.append_assoc]
      exact hprepared.linkFor hmirrors (Assoc.find? operation _) .transmit hfail.right
    | takeTurn => exact hhovers.elim
    | collect operation => exact hhovering.linkFor hmirrors (Assoc.find? operation s.running) .collect hfail
    | expire operation => exact hhovering.linkFor hmirrors (Assoc.find? operation s.running) .expire hfail
    | drop operation =>
      exact hhovering.goesOn (hhovering.sorted.erase operation) (release_subset s operation) (.refl _)
        (by rintro evaluation ⟨other, hmem⟩; cases hmem)
    | handleEvent payload =>
      exact hhovering.goesOn hhovering.sorted (List.Subset.refl _) (.handleEvent s.state payload)
        (by rintro evaluation ⟨other, hmem⟩; cases List.mem_singleton.1 hmem)
    | link action => exact hhovering.link hmirrors action hfail

theorem moves (hhovering : Hovering base thread label s told) (hmirrors : Mirrors handouts base.state)
    {frame : Reference} {text : String} (hframe : Assoc.find? frame base.state.frameThreads = some thread)
    (hlabel : label = trimQuotes text) {moves : List Move} (hhovers : ∀ m ∈ moves, m.Hovers frame text)
    (hfail : AllFail base (s.moves moves).2) :
    Hovering base thread label (s.moves moves).1 (told ++ (s.moves moves).2) := by
  -- On the moves, from every session on.
  induction moves generalizing s told with
  | nil =>
    rw [Session.moves, List.append_nil]
    exact hhovering
  | cons m rest ih =>
    have hone := hhovering.move hmirrors hframe hlabel (hhovers m List.mem_cons_self) hfail.left
    have hrest := ih hone (fun other hother => hhovers other (List.mem_cons_of_mem _ hother)) hfail.right
    rwa [List.append_assoc] at hrest

end Hovering

theorem moves_append (s : Session) (first rest : List Move) :
    s.moves (first ++ rest)
      = (((s.moves first).1.moves rest).1, (s.moves first).2 ++ ((s.moves first).1.moves rest).2) := by
  induction first generalizing s with
  | nil => rfl
  | cons m first ih =>
    simp only [List.cons_append, Session.moves, ih, List.append_assoc]

/-- What hovers and is no news says nothing of threads. -/
theorem ofMove?_of_hovers {frame : Reference} {text : String} {m : Move} (hhovers : m.Hovers frame text)
    (hsilent : ¬ m.IsNews) : Sign.ofMove? m = none := by
  unfold Sign.ofMove?
  split
  · obtain rfl := hhovers
    rfl
  · obtain rfl := hhovers
    rfl
  · exact absurd trivial hsilent
  · rfl

end

/-- Hovering over a name that the server does not know is idempotent. From any moment on, let nothing begin but
evaluations of one expression in one frame that is known, and let whatever comes for operations be a failure of these.
Once one of them has come to something, the state stays exactly as it is then, apart from which threads the server says
stand still. If something is registered under the name, all of them come to the same, with the same reference. And at
most one object is registered by all of them together. -/
theorem hovering_is_idempotent (connection : Connection) (files : FileTree) (root : Option String)
    (before later : List Move) (frame : Reference) (text : String) (thread : Int64)
    (hframe : Assoc.find? frame (({ connection, files, root } : Session).moves before).1.state.frameThreads = some thread)
    (hhovers : ∀ m ∈ later, m.Hovers frame text)
    (hfail : AllFail (({ connection, files, root } : Session).moves before).1
      ((({ connection, files, root } : Session).moves before).1.moves later).2) :
    let s := (({ connection, files, root } : Session).moves before).1
    (∀ first rest, later = first ++ rest → (∃ evaluation, Evaluated (s.moves first).2 evaluation) →
      (s.moves later).1.state.SameButPaused (s.moves first).1.state ∧
        ((∀ m ∈ rest, ¬ m.IsNews) → (s.moves later).1.state = (s.moves first).1.state)) ∧
    (s.state.Knows thread (trimQuotes text) → ∀ evaluation other, Evaluated (s.moves later).2 evaluation →
      Evaluated (s.moves later).2 other → evaluation = other) ∧
    (s.moves later).1.state.handles.entries.length ≤ s.state.handles.entries.length + 1 := by
  intro s
  have hfollows : Follows s (Observer.after {} _ before) := (Follows.start connection files root).moves before
  have hmirrors := hfollows.mirrors
  have hhovering : ∀ moves, (∀ m ∈ moves, m.Hovers frame text) → AllFail s (s.moves moves).2 →
      Hovering s thread (trimQuotes text) (s.moves moves).1 (s.moves moves).2 := by
    intro moves hmoves hmovesFail
    have hstart : Hovering s thread (trimQuotes text) s [] := .start hfollows.sorted
    exact hstart.moves hmirrors hframe rfl hmoves hmovesFail
  have hafter := hhovering later hhovers hfail
  refine ⟨?_, ?_, ?_⟩
  · rintro first rest rfl ⟨evaluation, hevaluated⟩
    have hsplit := moves_append s first rest
    have hfirst := hhovering first (fun m hm => hhovers m (List.mem_append_left _ hm)) (by
      rw [hsplit] at hfail
      exact hfail.left)
    have hevaluated' : Evaluated (s.moves (first ++ rest)).2 evaluation := by
      rw [hsplit]
      exact hevaluated.grow
    have hsame := (hafter.settled ⟨evaluation, hevaluated'⟩).trans (hfirst.settled ⟨evaluation, hevaluated⟩).symm
    refine ⟨hsame, fun hsilent => hsame.eq ?_⟩
    rw [hsplit]
    exact paused_moves _ fun m hm => ofMove?_of_hovers (hhovers m (List.mem_append_right _ hm)) (hsilent m hm)
  · intro hknows evaluation other hevaluated hother
    rw [hafter.found hknows evaluation hevaluated, hafter.found hknows other hother]
  · rcases hafter.state with hsame | hsame
    · rw [hsame.handles]
      exact Nat.le_succ _
    · rw [hsame.handles]
      exact State.hovered_size

/-- Hovering twice over a name in a scope registers its value once. -/
theorem hovering_is_idempotent_over_binding :
    let value : Wire.Value := { label := "xs", description := "[...]", typeName := "list", hasChildren := true, id := 5 }
    let frame : Wire.Frame := { functionName := "f", scopes := [{ name := "Locals", bindings := [value] }] }
    let bytes (number : UInt64) (payload : Wire.Event.Payload) : Bytes :=
      (Wire.putAll 1000 [] [({ number, payload := some payload } : Wire.Event).encode]).1
    let before : List Action := [.link .dial, .link (.opened 0 0), .link (.attach 0), .start 1 (.stackTrace 7),
      .link (.arrive (bytes 1 (.listFrames [frame]))), .link .read, .collect 1, .start 2 (.scopes 1)]
    let hover (operation : Nat) (number : UInt64) (error : String) : List Action := [.start operation (.evaluate 1 "xs"),
      .link (.arrive (bytes number (.error error))), .link .read, .collect operation]
    let s := (({ connection := {} } : Session).moves (before.map .step)).1
    let once := s.moves ((hover 3 2 "not defined").map .step)
    let twice := s.moves ((hover 3 2 "not defined" ++ hover 4 3 "still not defined").map .step)
    endingsOf twice.2 = [(3, .ok (.evaluation { result := "[...]", typeName := some "list", reference := 3 })),
        (4, .ok (.evaluation { result := "[...]", typeName := some "list", reference := 3 }))] ∧
      twice.1.state = once.1.state ∧ twice.1.state.handles.entries.length ≤ s.state.handles.entries.length + 1 := by
  intro value frame bytes before hover s once twice
  have hreplies : ∀ entry ∈ repliesOf twice.2, Assoc.find? entry.1 s.running = none ∧
      ∃ text ∈ ["not defined", "still not defined"], entry.2 = .error (.remote text) := by
    decide +kernel
  have hended : (3, .ok (.evaluation { result := "[...]", typeName := some "list", reference := 3 }))
      ∈ endingsOf once.2 := by
    decide +kernel
  obtain ⟨hsettled, -, hsize⟩ := hovering_is_idempotent {} {} none (before.map .step)
    ((hover 3 2 "not defined" ++ hover 4 3 "still not defined").map .step) 1 "xs" 7 (by decide +kernel)
    (by simp [hover, Move.Hovers]) (by
      intro operation reply hmem
      obtain ⟨hnone, text, -, heq⟩ := hreplies _ (mem_repliesOf.2 hmem)
      exact ⟨hnone, _, heq⟩)
  have hafter := (hsettled _ _ List.map_append ⟨_, 3, mem_endingsOf.1 hended⟩).2 (by simp [hover, Move.IsNews])
  refine ⟨by decide +kernel, ?_, ?_⟩
  · simp only [twice, once, s]
    exact hafter
  · simp only [twice, s]
    exact hsize

end Session

end DebugBridge.Debugger
