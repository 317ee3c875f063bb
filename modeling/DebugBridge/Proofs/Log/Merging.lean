import DebugBridge.Log.Filter
import DebugBridge.Proofs.Text.Trimming

/-!
# The environment's directives on top of the configured ones

A list of directives is valid if each of its parts is, and lists that are joined by a comma give the directives of both. Of
two directives on one selector the later one is followed, so what comes after the configured directives is never lost and
overrules them. The filter in force is told by three questions: whether the environment says anything, whether that is
valid, and whether the configured level is: `environment_is_merged_on_top`.
-/

namespace DebugBridge.Log

/-! ## Lists of directives -/

namespace Filter

/-- What stands between the commas of a text, if anything does. -/
def parts (text : String) : List (List Char) :=
  (Text.split ',' text.toList).filter (!·.isEmpty)

theorem parts_join (first second : String) : parts (first ++ "," ++ second) = parts first ++ parts second := by
  have htext : (first ++ "," ++ second).toList = first.toList ++ ',' :: second.toList := by
    rw [String.append_assoc, String.toList_append, String.toList_append]
    rfl
  rw [parts, htext, Text.split_append, List.filter_append]
  rfl

theorem parse?_eq_mapM (text : String) : parse? text = (parts text).mapM Directive.parse? :=
  rfl

/-- A list of directives is valid if all its parts are. -/
theorem parse?_eq_none_iff (text : String) : parse? text = none ↔ ∃ part ∈ parts text, Directive.parse? part = none := by
  rw [parse?_eq_mapM]
  induction parts text with
  | nil => simp
  | cons part rest ih =>
    rw [List.mapM_cons]
    cases hpart : Directive.parse? part with
    | none => simp [hpart]
    | some directive =>
      cases hrest : rest.mapM Directive.parse? with
      | none => simpa [hpart, hrest] using ih
      | some directives => simpa [hpart, hrest] using ih

/-- Joined lists are valid if both are, and give the directives of both. -/
theorem parse?_join (first second : String) : parse? (first ++ "," ++ second)
    = (parse? first).bind fun earlier => (parse? second).map (earlier ++ ·) := by
  rw [parse?_eq_mapM, parts_join, List.mapM_append, ← parse?_eq_mapM, ← parse?_eq_mapM]
  cases parse? first with
  | none => rfl
  | some earlier => cases parse? second <;> rfl

theorem parse?_join_of_invalid (first : String) {second : String} (hinvalid : parse? second = none) :
    parse? (first ++ "," ++ second) = none := by
  rw [parse?_join, hinvalid]
  cases parse? first <;> rfl

theorem parse?_join_of_valid (first : String) {second : String} {later : Filter} (hvalid : parse? second = some later) :
    parse? (first ++ "," ++ second) = (parse? first).map (· ++ later) := by
  rw [parse?_join, hvalid]
  cases parse? first <;> rfl

/-! ## Which directive is followed -/

/-- The closest of two answers; of equally close ones the second. -/
def closer : Option (Nat × Threshold) → Option (Nat × Threshold) → Option (Nat × Threshold)
  | some (near, threshold), some (nearest, other) =>
    if nearest < near then some (near, threshold) else some (nearest, other)
  | some near, none => some near
  | none, other => other

theorem closest?_cons (target : List Char) (directive : Directive) (filter : Filter) :
    closest? target (directive :: filter)
      = closer ((directive.closeness? target).map (·, directive.threshold)) (closest? target filter) := by
  rw [closest?]
  cases directive.closeness? target <;> cases closest? target filter <;> rfl

/-- No directive is closer than the one that is followed. -/
theorem exists_closest {target : List Char} {filter : Filter} {directive : Directive} {near : Nat}
    (hmem : directive ∈ filter) (hnear : directive.closeness? target = some near) :
    ∃ nearest threshold, closest? target filter = some (nearest, threshold) ∧ near ≤ nearest := by
  induction filter with
  | nil => cases hmem
  | cons first rest ih =>
    rw [closest?_cons]
    rcases List.mem_cons.1 hmem with rfl | hlater
    · rw [hnear]
      cases closest? target rest with
      | none => exact ⟨near, _, rfl, Nat.le_refl near⟩
      | some later =>
        obtain ⟨nearest, threshold⟩ := later
        simp only [Option.map_some, closer]
        split
        · exact ⟨near, _, rfl, Nat.le_refl near⟩
        · next hnot => exact ⟨nearest, threshold, rfl, Nat.not_lt.1 hnot⟩
    · obtain ⟨nearest, threshold, hclosest, hle⟩ := ih hlater
      rw [hclosest]
      cases first.closeness? target with
      | none => exact ⟨nearest, threshold, rfl, hle⟩
      | some other =>
        simp only [Option.map_some, closer]
        split
        · next hlt => exact ⟨other, _, rfl, by omega⟩
        · exact ⟨nearest, threshold, rfl, hle⟩

/-- The directives whose selectors are not among those of another filter. -/
def without (filter other : Filter) : Filter :=
  filter.filter fun directive => !other.any (·.selector = directive.selector)

theorem without_cons (directive : Directive) (rest other : Filter) :
    without (directive :: rest) other
      = if other.any (·.selector = directive.selector) then without rest other
        else directive :: without rest other := by
  rw [without, List.filter_cons]
  cases other.any (·.selector = directive.selector) <;> rfl

/-- Directives that come before others on the same selectors are not followed. -/
theorem closest?_overruled (target : List Char) (earlier later : Filter) :
    closest? target (without earlier later ++ later) = closest? target (earlier ++ later) := by
  induction earlier with
  | nil => rfl
  | cons directive rest ih =>
    rw [List.cons_append, closest?_cons, ← ih, without_cons]
    cases hany : later.any (·.selector = directive.selector) with
    | false =>
      rw [if_neg Bool.false_ne_true, List.cons_append, closest?_cons]
    | true =>
      rw [if_pos rfl]
      obtain ⟨ruling, hmem, hselector⟩ := List.any_eq_true.1 hany
      cases hnear : directive.closeness? target with
      | none => rfl
      | some near =>
        -- The later directive is as close, so the earlier one is no closer than what is followed.
        have hruling : ruling.closeness? target = some near := by
          rw [Directive.closeness?, of_decide_eq_true hselector]
          exact hnear
        obtain ⟨nearest, threshold, hclosest, hle⟩ :=
          exists_closest (List.mem_append_right (without rest later) hmem) hruling
        rw [hclosest]
        exact (if_neg (Nat.not_lt.2 hle)).symm

theorem threshold_overruled (earlier later : Filter) (target : String) :
    threshold (earlier ++ later) target = threshold (without earlier later ++ later) target := by
  rw [threshold, threshold, closest?_overruled]

end Filter

/-! ## Normal forms of a level -/

/-- A level as it is looked up among the plain names. -/
def lookedUp (level : String) : String :=
  String.ofList (lower (Text.trim level).toList)

theorem lookup_plainNames {name plain : String} (hmem : (name, plain) ∈ plainNames) :
    plainNames.lookup name = some plain := by
  have hall : ∀ entry ∈ plainNames, plainNames.lookup entry.1 = some entry.2 := by decide +kernel
  exact hall (name, plain) hmem

theorem normalLevel_of_blank {level : String} (hblank : Text.trim level = "") : normalLevel level = "info" := by
  rw [normalLevel, hblank]
  rfl

theorem normalLevel_of_name {level plain : String} (hname : (lookedUp level, plain) ∈ plainNames) :
    normalLevel level = plain := by
  have hsome : ¬ (Text.trim level).isEmpty = true := by
    intro hempty
    have hnot : ∀ entry ∈ plainNames, entry.1 ≠ "" := by decide +kernel
    apply hnot _ hname
    rw [lookedUp, String.isEmpty_iff.1 hempty]
    rfl
  have hlookup := lookup_plainNames hname
  unfold lookedUp at hlookup
  simp only [normalLevel, if_neg hsome, hlookup, Option.getD_some]

theorem normalLevel_of_directives {level : String} (hsome : Text.trim level ≠ "")
    (hname : ∀ plain, (lookedUp level, plain) ∉ plainNames) : normalLevel level = Text.trim level := by
  have hlookup : plainNames.lookup (lookedUp level) = none := by
    rw [List.lookup_eq_none_iff]
    intro entry hmem
    rw [bne_iff_ne]
    intro heq
    apply hname entry.2
    rw [heq]
    exact hmem
  unfold lookedUp at hlookup
  have hnot : ¬ (Text.trim level).isEmpty = true := fun hempty => hsome (String.isEmpty_iff.1 hempty)
  simp only [normalLevel, if_neg hnot, hlookup, Option.getD_none]

/-- Only what stands between the blanks matters. -/
theorem normalLevel_of_trim_eq {level other : String} (hsame : Text.trim level = Text.trim other) :
    normalLevel level = normalLevel other := by
  rw [normalLevel, normalLevel, hsame]

/-- A normal form is its own normal form. -/
theorem normalLevel_normalLevel (level : String) : normalLevel (normalLevel level) = normalLevel level := by
  by_cases hblank : Text.trim level = ""
  · rw [normalLevel_of_blank hblank]
    decide +kernel
  · by_cases hname : ∃ plain, (lookedUp level, plain) ∈ plainNames
    · obtain ⟨plain, hmem⟩ := hname
      have hplain : ∀ entry ∈ plainNames, normalLevel entry.2 = entry.2 := by decide +kernel
      have hlevel := normalLevel_of_name hmem
      calc normalLevel (normalLevel level)
        _ = normalLevel plain := congrArg normalLevel hlevel
        _ = plain := hplain (lookedUp level, plain) hmem
        _ = normalLevel level := hlevel.symm
    · have hlevel := normalLevel_of_directives hblank fun plain hmem => hname ⟨plain, hmem⟩
      calc normalLevel (normalLevel level)
        _ = normalLevel (Text.trim level) := congrArg normalLevel hlevel
        _ = normalLevel level := normalLevel_of_trim_eq (Text.trim_trim level)

/-! ## The filter in force -/

section

variable {level environment : String}

theorem filter_of_blank (hblank : Text.trim environment = "") : filter level (some environment) = levelFilter level := by
  rw [filter, Option.map_some, hblank]
  rfl

theorem filter_of_said (hsaid : Text.trim environment ≠ "") : filter level (some environment)
    = ((Filter.parse? (normalLevel level ++ "," ++ Text.trim environment)).or
        (Filter.parse? (Text.trim environment))).getD (levelFilter level) := by
  have hkept : (!(Text.trim environment).isEmpty) = true := by
    rw [Bool.not_eq_true', ← Bool.not_eq_true, String.isEmpty_iff]
    exact hsaid
  rw [filter, Option.map_some, Option.filter_some, if_pos hkept]

theorem filter_of_invalid (hinvalid : Filter.parse? (Text.trim environment) = none) :
    filter level (some environment) = levelFilter level := by
  by_cases hblank : Text.trim environment = ""
  · exact filter_of_blank hblank
  · rw [filter_of_said hblank, Filter.parse?_join_of_invalid _ hinvalid, hinvalid, Option.or_none, Option.getD_none]

theorem filter_of_valid (hsaid : Text.trim environment ≠ "") {given : Filter}
    (hvalid : Filter.parse? (Text.trim environment) = some given) :
    filter level (some environment) = ((Filter.parse? (normalLevel level)).getD []) ++ given := by
  rw [filter_of_said hsaid, Filter.parse?_join_of_valid _ hvalid, hvalid]
  cases Filter.parse? (normalLevel level) <;> rfl

end

/-- For every level and whatever the environment says:

* An environment that says nothing, only blanks, or anything invalid leaves the filter of the level alone, which is the one
  that logs down to `info` if the level is invalid. A list is invalid exactly if one of its parts is.
* Otherwise the filter has the level's directives, if they are valid, and after them all of the environment's.
* So where both have directives on one selector, it is as if those of the level were not there.
* The filter depends on the level's normal form only. It is `info` for no level, the one name of a plain level in whatever
  case and under whichever of its names, and else the level as it is written, each time without the blanks around it. The
  normal form of a normal form is the same. -/
theorem environment_is_merged_on_top (level : String) :
    (filter level none = levelFilter level ∧
      (∀ environment, Text.trim environment = "" ∨
          (∃ part ∈ Filter.parts (Text.trim environment), Directive.parse? part = none) →
        filter level (some environment) = levelFilter level) ∧
      (∀ configured, Filter.parse? (normalLevel level) = some configured → levelFilter level = configured) ∧
      ((∃ part ∈ Filter.parts (normalLevel level), Directive.parse? part = none) →
        levelFilter level = [⟨.everything, some .info⟩])) ∧
    (∀ environment, Text.trim environment ≠ "" →
      (¬ ∃ part ∈ Filter.parts (Text.trim environment), Directive.parse? part = none) →
      ∃ given, Filter.parse? (Text.trim environment) = some given ∧
        (∀ configured, Filter.parse? (normalLevel level) = some configured →
          filter level (some environment) = configured ++ given) ∧
        ((∃ part ∈ Filter.parts (normalLevel level), Directive.parse? part = none) →
          filter level (some environment) = given)) ∧
    (∀ (configured given : Filter) (target : String),
      (configured ++ given).threshold target = (configured.without given ++ given).threshold target) ∧
    (∀ other, normalLevel other = normalLevel level →
      ∀ environment, filter other environment = filter level environment) ∧
    ((Text.trim level = "" → normalLevel level = "info") ∧
      (∀ plain, (lookedUp level, plain) ∈ plainNames → normalLevel level = plain) ∧
      (Text.trim level ≠ "" → (∀ plain, (lookedUp level, plain) ∉ plainNames) → normalLevel level = Text.trim level)) ∧
    (∀ before after : String, (∀ c ∈ before.toList, Text.isBlank c = true) →
      (∀ c ∈ after.toList, Text.isBlank c = true) → normalLevel (before ++ level ++ after) = normalLevel level) ∧
    normalLevel (normalLevel level) = normalLevel level := by
  refine ⟨⟨rfl, ?_, ?_, ?_⟩, ?_, Filter.threshold_overruled, ?_,
    ⟨normalLevel_of_blank, fun _ => normalLevel_of_name, normalLevel_of_directives⟩, ?_, normalLevel_normalLevel level⟩
  · rintro environment (hblank | hinvalid)
    · exact filter_of_blank hblank
    · exact filter_of_invalid ((Filter.parse?_eq_none_iff _).2 hinvalid)
  · intro configured hconfigured
    rw [levelFilter, hconfigured, Option.getD_some]
  · intro hinvalid
    rw [levelFilter, (Filter.parse?_eq_none_iff _).2 hinvalid]
    rfl
  · intro environment hsaid hvalid
    obtain ⟨given, hgiven⟩ := Option.ne_none_iff_exists'.1 fun hnone => hvalid ((Filter.parse?_eq_none_iff _).1 hnone)
    refine ⟨given, hgiven, ?_, ?_⟩
    · intro configured hconfigured
      rw [filter_of_valid hsaid hgiven, hconfigured, Option.getD_some]
    · intro hinvalid
      rw [filter_of_valid hsaid hgiven, (Filter.parse?_eq_none_iff _).2 hinvalid]
      rfl
  · intro other hsame environment
    unfold filter levelFilter
    rw [hsame]
  · intro before after hbefore hafter
    exact normalLevel_of_trim_eq (Text.trim_of_blanks hbefore hafter level)

example : filter " WARNING " (some "wire=trace ") = [⟨.everything, some .warn⟩, ⟨.target "wire".toList, some .trace⟩] := by
  decide +kernel

end DebugBridge.Log
