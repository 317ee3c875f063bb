import DebugBridge.Debugger.Operation

/-!
# Where references come from

A reference is worth something only while the program stands still. `Known` says what may be known of a pause: what
the answers to its requests list, and what lies inside that. `Grounded` is the invariant: all that is registered is
known. It is kept by everything that registers, as long as what is registered is known.
-/

namespace DebugBridge.Debugger

/-- Requests that were answered, each with its answer. -/
abbrev Answers := List (Wire.Request.Payload × Wire.Event.Payload)

/-- What is known of a thread from the answers. -/
inductive Known (answers : Answers) (thread : Int64) : Object → Prop
  | frame {frames : List Wire.Frame} {frame : Wire.Frame}
      (answered : (.listFrames thread, .listFrames frames) ∈ answers) (listed : frame ∈ frames) :
      Known answers thread (.frame frame)
  /-- A scope of a frame. -/
  | scope {frame : Wire.Frame} {scope : Wire.Scope} (known : Known answers thread (.frame frame))
      (inside : scope ∈ frame.scopes) : Known answers thread (.scope scope)
  /-- A binding of a scope. -/
  | binding {scope : Wire.Scope} {value : Wire.Value} (known : Known answers thread (.scope scope))
      (inside : value ∈ scope.bindings) : Known answers thread (.value value)
  /-- A child of a value. -/
  | child {parent value : Wire.Value} {children : List Wire.Value} (known : Known answers thread (.value parent))
      (answered : (.getChildren thread parent.id, .getChildren children) ∈ answers) (listed : value ∈ children) :
      Known answers thread (.value value)
  /-- What an expression came to in a frame. -/
  | evaluated {frame : Wire.Frame} {expression : String} {value : Wire.Value}
      (known : Known answers thread (.frame frame))
      (answered : (.evaluate thread expression, .evaluate (some value)) ∈ answers) :
      Known answers thread (.value value)

section

variable {answers more : Answers} {thread : Int64} {object : Object}

/-- What is known stays known as more answers come. -/
theorem Known.mono (hknown : Known answers thread object) (hsub : answers ⊆ more) : Known more thread object := by
  induction hknown with
  | frame answered listed => exact .frame (hsub answered) listed
  | scope known inside ih => exact .scope ih inside
  | binding known inside ih => exact .binding ih inside
  | child known answered listed ih => exact .child ih (hsub answered) listed
  | evaluated known answered ih => exact .evaluated ih (hsub answered)

/-- Without answers nothing is known. -/
theorem not_known_nil : ¬ Known [] thread object := by
  intro hknown
  induction hknown with
  | frame answered listed => cases answered
  | scope known inside ih => exact ih
  | binding known inside ih => exact ih
  | child known answered listed ih => exact ih
  | evaluated known answered ih => exact ih

end

/-! ## What is registered -/

/-- The kinds of objects, each with a table of the threads that its objects belong to. -/
inductive Object.Kind where
  | frame
  | scope
  | value
  deriving DecidableEq

def Object.kind : Object → Kind
  | frame _ => .frame
  | scope _ => .scope
  | value _ => .value

namespace State

/-- The threads that the objects of a kind belong to. -/
def threadsOf (s : State) : Object.Kind → List (Reference × Int64)
  | .frame => s.frameThreads
  | .scope => s.scopeThreads
  | .value => s.valueThreads

/-- Registers an object of a thread. -/
def register (s : State) (thread : Int64) : Object → State
  | .frame frame => (s.addFrame thread frame).2
  | .scope scope => (s.addScope thread scope).2
  | .value value => (s.addValue thread value).2

/-- Nothing is registered. -/
def Unregistered (s : State) : Prop :=
  s.handles.entries = [] ∧ s.frameThreads = [] ∧ s.scopeThreads = [] ∧ s.valueThreads = []

/-- All that is registered is known: each object under the thread its table names, and each entry of those tables with
an object. -/
structure Grounded (answers : Answers) (s : State) : Prop where
  counted : ∀ entry ∈ s.handles.entries, entry.1 ≤ s.handles.last
  owned : ∀ reference object, (reference, object) ∈ s.handles.entries →
    ∃ thread, Assoc.find? reference (s.threadsOf object.kind) = some thread ∧ Known answers thread object
  objects : ∀ kind reference thread, (reference, thread) ∈ s.threadsOf kind →
    ∃ object, object.kind = kind ∧ (reference, object) ∈ s.handles.entries ∧ Known answers thread object

section

variable {answers more : Answers} {s : State} {thread : Int64}

theorem register_entries (object : Object) :
    (s.register thread object).handles.entries = s.handles.entries ++ [((s.handles.last : Int) + 1, object)] := by
  cases object <;> rfl

theorem register_last (object : Object) : (s.register thread object).handles.last = s.handles.last + 1 := by
  cases object <;> rfl

theorem register_threadsOf (object : Object) (kind : Object.Kind) :
    (s.register thread object).threadsOf kind
      = if kind = object.kind then Assoc.insert ((s.handles.last : Int) + 1) thread (s.threadsOf kind)
        else s.threadsOf kind := by
  cases object <;> cases kind <;> rfl

theorem register_epoch (object : Object) : (s.register thread object).epoch = s.epoch := by
  cases object <;> rfl

namespace Grounded

theorem mono (hgrounded : Grounded answers s) (hsub : answers ⊆ more) : Grounded more s where
  counted := hgrounded.counted
  owned reference object hmem := by
    obtain ⟨thread, hfound, hknown⟩ := hgrounded.owned reference object hmem
    exact ⟨thread, hfound, hknown.mono hsub⟩
  objects kind reference thread hmem := by
    obtain ⟨object, hkind, hentry, hknown⟩ := hgrounded.objects kind reference thread hmem
    exact ⟨object, hkind, hentry, hknown.mono hsub⟩

/-- A state in which nothing is registered is grounded in nothing. -/
theorem of_unregistered (hnone : Unregistered s) : Grounded answers s := by
  obtain ⟨hentries, hframes, hscopes, hvalues⟩ := hnone
  refine ⟨by simp [hentries], by simp [hentries], fun kind reference thread hmem => ?_⟩
  cases kind <;> simp [threadsOf, hframes, hscopes, hvalues] at hmem

/-- Where nothing was answered, nothing is registered. -/
theorem unregistered (hgrounded : Grounded [] s) : Unregistered s := by
  have hnone : ∀ kind, s.threadsOf kind = [] := by
    intro kind
    rw [List.eq_nil_iff_forall_not_mem]
    rintro ⟨reference, thread⟩ hmem
    obtain ⟨object, -, -, hknown⟩ := hgrounded.objects kind reference thread hmem
    exact not_known_nil hknown
  refine ⟨?_, hnone .frame, hnone .scope, hnone .value⟩
  rw [List.eq_nil_iff_forall_not_mem]
  rintro ⟨reference, object⟩ hmem
  obtain ⟨thread, -, hknown⟩ := hgrounded.owned reference object hmem
  exact not_known_nil hknown

theorem register (hgrounded : Grounded answers s) {object : Object} (hknown : Known answers thread object) :
    Grounded answers (s.register thread object) := by
  -- The new reference is greater than all that were given out.
  have hfresh : ∀ entry ∈ s.handles.entries, entry.1 ≠ (s.handles.last : Int) + 1 := by
    intro entry hentry
    exact Int.ne_of_lt (Int.lt_add_one_of_le (hgrounded.counted entry hentry))
  refine ⟨fun entry hentry => ?_, fun reference other hentry => ?_, fun kind reference owner hmem => ?_⟩
  · rw [register_entries, List.mem_append, List.mem_singleton] at hentry
    rw [register_last]
    rcases hentry with hold | rfl
    · exact Int.le_of_lt (Int.lt_add_one_of_le (hgrounded.counted entry hold))
    · exact Int.le_refl _
  · rw [register_entries, List.mem_append, List.mem_singleton] at hentry
    rw [register_threadsOf]
    rcases hentry with hold | hnew
    · obtain ⟨owner, hfound, hother⟩ := hgrounded.owned reference other hold
      refine ⟨owner, ?_, hother⟩
      split
      · rw [Assoc.find?_insert_of_ne (hfresh _ hold), hfound]
      · exact hfound
    · cases hnew
      exact ⟨thread, by rw [if_pos rfl, Assoc.find?_insert_self], hknown⟩
  · have hkept : (reference, owner) ∈ s.threadsOf kind → ∃ other : Object, other.kind = kind ∧
        (reference, other) ∈ (s.register thread object).handles.entries ∧ Known answers owner other := by
      intro hold
      obtain ⟨other, hkind, hentry, hother⟩ := hgrounded.objects kind reference owner hold
      exact ⟨other, hkind, by rw [register_entries]; exact List.mem_append_left _ hentry, hother⟩
    rw [register_threadsOf] at hmem
    split at hmem
    · next hkind =>
      rcases Assoc.mem_insert hmem with hnew | hold
      · cases hnew
        refine ⟨object, hkind.symm, ?_, hknown⟩
        rw [register_entries]
        exact List.mem_append_right _ (List.mem_singleton_self _)
      · exact hkept hold
    · exact hkept hmem

/-- What is found under a reference is known of the thread that the table of its kind names. -/
theorem known_of_find? (hgrounded : Grounded answers s) {reference : Reference} {object : Object}
    (hmem : (reference, object) ∈ s.handles.entries)
    (hfound : Assoc.find? reference (s.threadsOf object.kind) = some thread) : Known answers thread object := by
  obtain ⟨owner, howner, hknown⟩ := hgrounded.owned reference object hmem
  rw [hfound] at howner
  cases howner
  exact hknown

/-- Only what is registered matters. -/
theorem congr {s' : State} (hgrounded : Grounded answers s) (hhandles : s'.handles = s.handles)
    (hthreads : ∀ kind, s'.threadsOf kind = s.threadsOf kind) : Grounded answers s' where
  counted := by rw [hhandles]; exact hgrounded.counted
  owned := by simp only [hhandles, hthreads]; exact hgrounded.owned
  objects := by simp only [hhandles, hthreads]; exact hgrounded.objects

end Grounded

end

end State

end DebugBridge.Debugger
