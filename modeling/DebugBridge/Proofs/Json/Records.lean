import DebugBridge.Json.Schema
import Mathlib.Data.List.Forall2

/-!
# What is read into a record

The members of an object are read one after the other, each by the field of its name, into a record that starts with the
defaults. When no field looks at what was read before, the order of the members does not matter: `Plain.read_ok_iff` says
when an object can be read, and `Portion.read` what each part of the record then is.
-/

namespace DebugBridge.Schema

theorem map_eq_ok {ε α β : Type} {result : Except ε α} {f : α → β} {b : β} :
    result.map f = .ok b ↔ ∃ a, result = .ok a ∧ f a = b := by
  cases result <;> simp [Except.map]

theorem bind_eq_ok {ε α β : Type} {result : Except ε α} {next : α → Except ε β} {b : β} :
    result >>= next = .ok b ↔ ∃ a, result = .ok a ∧ next a = .ok b := by
  cases result <;> simp [bind, Except.bind]

/-! ## Plain values -/

section

variable {format : Format} {json : Json}

theorem text_eq_ok {expected written : String} : text expected format json = .ok written ↔ json = .string written := by
  cases json <;> simp [text]

theorem bool_eq_ok {value : Bool} : Schema.bool format json = .ok value ↔ json = .bool value := by
  cases json <;> simp [Schema.bool]

theorem integer_eq_ok {expected : String} {low high n : Int} :
    integer expected low high format json = .ok n ↔ json = .int n ∧ low ≤ n ∧ n ≤ high := by
  cases json with
  | int m =>
    rw [integer, Json.int.injEq]
    split
    · next hrange =>
      rw [Except.ok.injEq]
      refine ⟨?_, And.left⟩
      rintro rfl
      exact ⟨rfl, hrange⟩
    · next hrange =>
      refine ⟨by rintro ⟨⟩, ?_⟩
      rintro ⟨rfl, hwithin⟩
      exact absurd hwithin hrange
  | _ => simp [integer]

/-- Numbers from zero up to a bound are read as what they are, where they can be made and told again. -/
theorem natural_eq_ok {α : Type} (expected : String) (high : Nat) {make : Nat → α} {toNat : α → Nat}
    (hmake : ∀ n, n ≤ high → toNat (make n) = n) (hwithin : ∀ a, toNat a ≤ high) (hback : ∀ a, make (toNat a) = a)
    {a : α} :
    (integer expected 0 high format json).map (fun n => make n.toNat) = .ok a ↔ json = .int (toNat a) := by
  rw [map_eq_ok]
  simp only [integer_eq_ok]
  constructor
  · rintro ⟨n, ⟨rfl, hlow, hhigh⟩, rfl⟩
    rw [hmake n.toNat (by omega), Int.toNat_of_nonneg hlow]
  · rintro rfl
    have := hwithin a
    exact ⟨_, ⟨rfl, by omega, by omega⟩, by rw [Int.toNat_natCast, hback]⟩

theorem natural_accepts {α : Type} (expected : String) (high : Nat) {make : Int → α} :
    (∃ a, (integer expected 0 high format json).map make = .ok a) ↔ ∃ n : Nat, json = .int n ∧ n ≤ high := by
  simp only [map_eq_ok, integer_eq_ok]
  constructor
  · rintro ⟨_, n, ⟨rfl, hlow, hhigh⟩, -⟩
    exact ⟨n.toNat, by rw [Int.toNat_of_nonneg hlow], by omega⟩
  · rintro ⟨n, rfl, hhigh⟩
    exact ⟨_, n, ⟨rfl, by omega, by omega⟩, rfl⟩

theorem uint16_eq_ok {n : UInt16} : uint16 format json = .ok n ↔ json = .int n.toNat :=
  natural_eq_ok "u16" 65535 (fun _ hm => UInt16.toNat_ofNat_of_lt' (Nat.lt_succ_of_le hm))
    (fun m => Nat.le_of_lt_succ m.toNat_lt) fun _ => UInt16.ofNat_toNat

theorem uint32_eq_ok {n : UInt32} : uint32 format json = .ok n ↔ json = .int n.toNat :=
  natural_eq_ok "u32" 4294967295 (fun _ hm => UInt32.toNat_ofNat_of_lt' (Nat.lt_succ_of_le hm))
    (fun m => Nat.le_of_lt_succ m.toNat_lt) fun _ => UInt32.ofNat_toNat

theorem uint64_eq_ok {n : UInt64} : uint64 format json = .ok n ↔ json = .int n.toNat :=
  natural_eq_ok "u64" 18446744073709551615 (fun _ hm => UInt64.toNat_ofNat_of_lt' (Nat.lt_succ_of_le hm))
    (fun m => Nat.le_of_lt_succ m.toNat_lt) fun _ => UInt64.ofNat_toNat

/-- A null aside, an optional value is read like the value. -/
theorem optional_eq_ok {reader : Reader α} (hnull : json ≠ .null) {value : Option α} :
    optional reader format json = .ok value ↔ ∃ a, reader format json = .ok a ∧ some a = value := by
  cases json with
  | null => exact absurd rfl hnull
  | _ => exact map_eq_ok

end

/-! ## Fields -/

/-- Into some record the field can be read from the value. -/
def Field.Accepts (field : Field α) (format : Format) (json : Json) : Prop :=
  ∃ before after, field.read format json before = .ok after

/-- Whether the field can be read does not depend on what was read before. -/
def Field.Steady (field : Field α) : Prop :=
  ∀ ⦃format json⦄, field.Accepts format json → ∀ before, ∃ after, field.read format json before = .ok after

section

variable {name : String} {absence : Absence} {reader : Reader β} {set : α → β → α}

@[simp] theorem name_of : (Field.of name absence reader set).name = name := rfl

theorem read_of {format : Format} {json : Json} {before after : α} :
    (Field.of name absence reader set).read format json before = .ok after ↔
      ∃ part, reader format json = .ok part ∧ set before part = after :=
  map_eq_ok

theorem steady_of : (Field.of name absence reader set).Steady := by
  rintro format json ⟨before, after, hread⟩ other
  obtain ⟨part, hpart, -⟩ := read_of.1 hread
  exact ⟨_, read_of.2 ⟨part, hpart, rfl⟩⟩

theorem accepts_of (before : α) {format : Format} {json : Json} :
    (Field.of name absence reader set).Accepts format json ↔ ∃ part, reader format json = .ok part := by
  constructor
  · rintro ⟨_, after, hread⟩
    obtain ⟨part, hpart, -⟩ := read_of.1 hread
    exact ⟨part, hpart⟩
  · rintro ⟨part, hpart⟩
    exact ⟨before, _, read_of.2 ⟨part, hpart, rfl⟩⟩

end

/-- The field reads a part of the record if it has the name, and leaves it alone if not. -/
def Field.Minds (field : Field α) (name : String) (reader : Reader β) (get : α → β) : Prop :=
  ∀ ⦃format json before after⦄, field.read format json before = .ok after →
    if field.name = name then reader format json = .ok (get after) else get after = get before

theorem minds_own {name : String} {absence : Absence} {reader : Reader β} {set : α → β → α} {get : α → β}
    (hget : ∀ before part, get (set before part) = part) : (Field.of name absence reader set).Minds name reader get := by
  intro format json before after hread
  obtain ⟨part, hpart, rfl⟩ := read_of.1 hread
  rw [name_of, if_pos rfl, hpart, hget]

theorem minds_other {name other : String} {absence : Absence} {reader : Reader β} {elsewhere : Reader γ} {set : α → γ → α}
    {get : α → β} (hother : other ≠ name) (hget : ∀ before part, get (set before part) = get before) :
    (Field.of other absence elsewhere set).Minds name reader get := by
  intro format json before after hread
  obtain ⟨part, hpart, rfl⟩ := read_of.1 hread
  rw [name_of, if_neg hother, hget]

/-- Nothing but the fields may be there, none of them must, and none looks at another. -/
structure Plain (record : Record α) : Prop where
  closed : record.closed = true
  allowed : ∀ field ∈ record.fields, field.absence ≠ .refused
  steady : ∀ field ∈ record.fields, field.Steady

section

variable {record : Record α} {format : Format} {members : List (String × Json)}

/-- An object is read member by member. -/
theorem Plain.read_object (hplain : Plain record) (members : List (String × Json)) :
    record.read format (.object members) = record.readMembers format record.start members := by
  have hnone : record.missing? members = none := by
    rw [Record.missing?, Option.map_eq_none_iff, List.find?_eq_none]
    intro field hmem
    simp [hplain.allowed field hmem]
  rw [Record.read]
  cases record.readMembers format record.start members with
  | error fault => rfl
  | ok value =>
    simp only [bind, Except.bind, hnone]
    rfl

/-! ## Whether the members can be read -/

theorem Plain.readMembers_ok_iff (hplain : Plain record) (before : α) :
    (∃ after, record.readMembers format before members = .ok after) ↔
      ∀ member ∈ members, ∃ field, record.fields.find? (·.name == member.1) = some field ∧
        field.Accepts format member.2 := by
  induction members generalizing before with
  | nil => simp [Record.readMembers]
  | cons member rest ih =>
    obtain ⟨name, json⟩ := member
    rw [List.forall_mem_cons, Record.readMembers]
    cases hfield : record.fields.find? (·.name == name) with
    | none => simp [hplain.closed]
    | some field =>
      constructor
      · rintro ⟨after, hread⟩
        obtain ⟨next, hnext, hrest⟩ := bind_eq_ok.1 hread
        exact ⟨⟨field, rfl, before, next, hnext⟩, (ih next).1 ⟨after, hrest⟩⟩
      · rintro ⟨⟨_, hsame, haccepts⟩, hrest⟩
        cases hsame
        -- What was read before is not what the field was found to accept the value over.
        obtain ⟨next, hnext⟩ := hplain.steady field (List.mem_of_find?_eq_some hfield) haccepts before
        obtain ⟨after, hafter⟩ := (ih next).2 hrest
        exact ⟨after, bind_eq_ok.2 ⟨next, hnext, hafter⟩⟩

/-- A table of names says, in the record's order, which of the values that stand among the members a field accepts. -/
def Tabulates (record : Record α) (format : Format) (members : List (String × Json)) (keys : List (String × κ))
    (takes : κ → Json → Prop) : Prop :=
  List.Forall₂
    (fun field key =>
      field.name = key.1 ∧ ∀ json, (key.1, json) ∈ members → (field.Accepts format json ↔ takes key.2 json))
    record.fields keys

theorem accepts_iff_takes {keys : List (String × κ)} {takes : κ → Json → Prop}
    (htable : Tabulates record format members keys takes) {name : String} {json : Json}
    (hmem : (name, json) ∈ members) :
    (∃ field, record.fields.find? (·.name == name) = some field ∧ field.Accepts format json) ↔
      ∃ key, keys.lookup name = some key ∧ takes key json := by
  unfold Tabulates at htable
  generalize record.fields = fields at htable ⊢
  induction htable with
  | nil => simp
  | @cons field key fields keys hhead htail ih =>
    obtain ⟨other, kind⟩ := key
    obtain ⟨hname, haccepts⟩ := hhead
    by_cases hsame : name = other
    · subst hsame
      simp [hname, haccepts json hmem]
    · rw [List.find?_cons_of_neg (by simpa [hname] using Ne.symm hsame), List.lookup_cons, beq_false_of_ne hsame]
      exact ih

/-- An object can be read exactly when each of its members has a name of the table's and a value that goes with it. -/
theorem Plain.read_ok_iff (hplain : Plain record) (hdistinct : (members.map (·.1)).Nodup) {keys : List (String × κ)}
    {takes : κ → Json → Prop} (htable : Tabulates record format members keys takes) :
    (∃ value, record.read format (.object members) = .ok value) ↔
      ∀ name json, members.lookup name = some json → ∃ key, keys.lookup name = some key ∧ takes key json := by
  rw [hplain.read_object, hplain.readMembers_ok_iff]
  constructor
  · intro hall name json hfound
    have hmem := (Assoc.lookup_eq_some_iff hdistinct).1 hfound
    exact (accepts_iff_takes htable hmem).1 (hall _ hmem)
  · rintro hall ⟨name, json⟩ hmem
    exact (accepts_iff_takes htable hmem).2 (hall name json ((Assoc.lookup_eq_some_iff hdistinct).2 hmem))

/-! ## What is read -/

/-- A part of a record that the field of one name reads and no other touches. -/
def Portion (record : Record α) (name : String) (reader : Reader β) (get : α → β) : Prop :=
  ∀ field ∈ record.fields, field.Minds name reader get

theorem Portion.readMembers {name : String} {reader : Reader β} {get : α → β} (hpart : Portion record name reader get)
    (hclosed : record.closed = true) (hdistinct : (members.map (·.1)).Nodup) {before after : α}
    (hread : record.readMembers format before members = .ok after) :
    (members.lookup name).elim (get after = get before) fun json => reader format json = .ok (get after) := by
  induction members generalizing before with
  | nil =>
    cases hread
    rfl
  | cons member rest ih =>
    obtain ⟨other, json⟩ := member
    rw [List.map_cons, List.nodup_cons] at hdistinct
    rw [Record.readMembers] at hread
    split at hread
    · next field hfound =>
      have hmem := List.mem_of_find?_eq_some hfound
      have hname : field.name = other := by simpa using List.find?_some hfound
      obtain ⟨next, hnext, hrest⟩ := bind_eq_ok.1 hread
      have hlater := ih hdistinct.2 hrest
      rw [List.lookup_cons]
      by_cases hsame : name = other
      · subst hsame
        -- No later member has the name again.
        rw [Assoc.lookup_eq_none_iff.2 hdistinct.1] at hlater
        rw [beq_self_eq_true]
        have hown := hpart field hmem hnext
        rw [if_pos hname] at hown
        exact hown.trans (congrArg _ hlater.symm)
      · rw [beq_false_of_ne hsame]
        have hkept := hpart field hmem hnext
        rw [if_neg fun h => hsame (h.symm.trans hname)] at hkept
        rw [hkept] at hlater
        exact hlater
    · rw [if_pos hclosed] at hread
      cases hread

/-- A part is what is read from the member of its name, or what it is at the start when there is none. -/
theorem Portion.read {name : String} {reader : Reader β} {get : α → β} (hpart : Portion record name reader get)
    (hplain : Plain record) (hdistinct : (members.map (·.1)).Nodup) {value : α}
    (hread : record.read format (.object members) = .ok value) :
    (members.lookup name).elim (get value = get record.start) fun json => reader format json = .ok (get value) := by
  rw [hplain.read_object] at hread
  exact hpart.readMembers hplain.closed hdistinct hread

end

end DebugBridge.Schema
