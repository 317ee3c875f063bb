import DebugBridge.Proofs.Wire.Message
import DebugBridge.Proofs.Wire.Verdicts

/-!
# Fields that are not declared

A newer server may put fields into its messages that are not known here. `Grown layout bytes grown` says that `grown`
is `bytes` with such fields put in anywhere between the declared ones, or before or behind them, and likewise in the
messages that these hold, whose lengths are adjusted. They are skipped by their wire type, and a reader comes to the same
value: `Grown.reads`. To skip a field takes one level of nesting, so the reader must have one more than the message needs.
-/

namespace DebugBridge.Wire

/-! ## Whole fields -/

/-- The bytes of a key whose tag is one that a message may declare. -/
structure IsKey (bytes : Bytes) (key : Key) : Prop where
  spells : Spells bytes (key.tag * 8 + key.type.code)
  positive : 0 < key.tag
  small : key.tag < 536870912

/-- The contents of a field of a wire type. There are none for groups, which have fields of their own. -/
inductive IsContents : WireType → Bytes → Prop
  | varint {bytes : Bytes} {n : Nat} (spells : Spells bytes n) : IsContents .varint bytes
  | sixtyFourBit {bytes : Bytes} (eight : bytes.length = 8) : IsContents .sixtyFourBit bytes
  | lengthDelimited {spelling body : Bytes} (spells : Spells spelling body.length) :
      IsContents .lengthDelimited (spelling ++ body)
  | thirtyTwoBit {bytes : Bytes} (four : bytes.length = 4) : IsContents .thirtyTwoBit bytes

/-- A whole field: its key and its contents. -/
def IsField (key : Key) (bytes : Bytes) : Prop :=
  ∃ head contents, bytes = head ++ contents ∧ IsKey head key ∧ IsContents key.type contents

/-- A field that holds a number or a text. -/
inductive Field.IsPlain {α : Type} : Field α → Prop
  | varint (label : Label) (set : α → UInt64 → α) : IsPlain (.varint label set)
  | string (label : Label) (set : α → String → α) : IsPlain (.string label set)

/-- A field that holds messages of a layout, one of them or a list. -/
inductive Field.Holds {α β : Type} (inner : Layout β) : Field α → Prop
  | message (label : Label) (get : α → Option β) (set : α → β → α) : Holds inner (.message label inner get set)
  | repeated (label : Label) (get : α → List β) (set : α → List β → α) : Holds inner (.repeated label inner get set)

/-- Some fields of a layout, and the same ones with others put in that the layout does not declare. -/
inductive Grown : {α : Type} → Layout α → Bytes → Bytes → Prop
  | nil {α : Type} {layout : Layout α} : Grown layout [] []
  | inserted {α : Type} {layout : Layout α} {key : Key} {field bytes grown : Bytes}
      (undeclared : layout.field key.tag = none) (isField : IsField key field) (later : Grown layout bytes grown) :
      Grown layout bytes (field ++ grown)
  | kept {α : Type} {layout : Layout α} {key : Key} {declared : Field α} {field bytes grown : Bytes}
      (found : layout.field key.tag = some declared) (plain : declared.IsPlain) (isField : IsField key field)
      (later : Grown layout bytes grown) : Grown layout (field ++ bytes) (field ++ grown)
  | within {α β : Type} {layout : Layout α} {inner : Layout β} {tag : Nat} {declared : Field α}
      {body body' bytes grown : Bytes} (found : layout.field tag = some declared) (holds : declared.Holds inner)
      (valid : 0 < tag ∧ tag < 536870912) (inside : Grown inner body body') (fits : body'.length < UInt64.size)
      (later : Grown layout bytes grown) :
      Grown layout (writeDelimited tag body ++ bytes) (writeDelimited tag body' ++ grown)

variable {α β : Type} {layout : Layout α} {inner : Layout β} {budget : Nat}

/-! ## Reading one field -/

namespace IsKey

variable {head : Bytes} {key : Key}

theorem ne_nil (hkey : IsKey head key) : head ≠ [] :=
  List.length_pos_iff.1 hkey.spells.isSpelling.length_pos

theorem read_eq (hkey : IsKey head key) (rest : Bytes) : Key.read (head ++ rest) = .ok (key, rest) :=
  Key.read_of_readVarint (hkey.spells.readVarint_eq rest) hkey.positive hkey.small

theorem mergeField_undeclared (hkey : IsKey head key) (hundeclared : layout.field key.tag = none) (value : α)
    (rest : Bytes) :
    layout.mergeField budget value (head ++ rest) = (skip budget key rest).map fun rest => (value, rest) := by
  rw [Layout.mergeField, hkey.read_eq]
  simp only [bind, Except.bind, hundeclared]
  cases skip budget key rest <;> rfl

theorem mergeField_declared (hkey : IsKey head key) {declared : Field α} (hfound : layout.field key.tag = some declared)
    (value : α) (rest : Bytes) :
    layout.mergeField budget value (head ++ rest)
      = (declared.read key.type budget value rest).mapError (·.within declared.label) := by
  rw [Layout.mergeField, hkey.read_eq]
  simp only [bind, Except.bind, hfound]

end IsKey

theorem isKey_write {key : Key} (hvalid : 0 < key.tag ∧ key.tag < 536870912) : IsKey key.write key := by
  have hcode := key.type.code_lt
  have hspells := spells_write (UInt64.ofNat (key.tag * 8 + key.type.code))
  rw [UInt64.toNat_ofNat_of_lt' (by simp only [UInt64.size]; omega)] at hspells
  exact ⟨hspells, hvalid.1, hvalid.2⟩

theorem spells_length {body : Bytes} (hfits : body.length < UInt64.size) :
    Spells (Varint.write (UInt64.ofNat body.length)) body.length := by
  have hspells := spells_write (UInt64.ofNat body.length)
  rwa [UInt64.toNat_ofNat_of_lt' hfits] at hspells

/-- Contents are skipped as a whole, whatever they are. -/
theorem IsContents.skip_eq {key : Key} {contents : Bytes} (hcontents : IsContents key.type contents) (rest : Bytes) :
    skip (budget + 1) key (contents ++ rest) = .ok rest := by
  obtain ⟨tag, type⟩ := key
  unfold skip
  cases hcontents with
  | varint spells =>
    simp only [spells.readVarint_eq]
    rfl
  | sixtyFourBit eight =>
    simp only [← eight, split_append]
    rfl
  | lengthDelimited spells =>
    simp only [List.append_assoc, spells.readVarint_eq, bind, Except.bind, UInt64.toNat_ofNat_of_lt' spells.fits,
      split_append]
    rfl
  | thirtyTwoBit four =>
    simp only [← four, split_append]
    rfl

/-- What comes of a number or a text depends on its own bytes alone. -/
theorem Field.IsPlain.read_eq {declared : Field α} (hplain : declared.IsPlain) {type : WireType} {contents : Bytes}
    (hcontents : IsContents type contents) (value : α) : ∃ outcome : Except DecodeError α, ∀ budget rest,
      declared.read type budget value (contents ++ rest) = outcome.map fun value => (value, rest) := by
  cases hplain with
  | varint label set =>
    by_cases htype : type = .varint
    · subst htype
      cases hcontents with
      | @varint bytes n spells =>
        refine ⟨.ok (set value (UInt64.ofNat n)), ?_⟩
        intro budget rest
        simp only [Field.varint, expect, if_pos, bind, Except.bind, spells.readVarint_eq]
        rfl
    · -- Contents of another wire type are refused before they are looked at.
      refine ⟨.error { fault := .wrongWireType type .varint }, ?_⟩
      intro budget rest
      simp only [Field.varint, expect, if_neg htype, bind, Except.bind]
      rfl
  | string label set =>
    -- A text that is not valid is refused too, and again that is settled by its own bytes.
    by_cases htype : type = .lengthDelimited
    · subst htype
      cases hcontents with
      | @lengthDelimited spelling body spells =>
        refine ⟨(Utf8.decode? body).elim (.error { fault := .notUtf8 }) fun text => .ok (set value text), ?_⟩
        intro budget rest
        simp only [Field.string, expect, if_pos, bind, Except.bind, List.append_assoc, spells.readVarint_eq,
          UInt64.toNat_ofNat_of_lt' spells.fits, split_append]
        cases Utf8.decode? body <;> rfl
    · refine ⟨.error { fault := .wrongWireType type .lengthDelimited }, ?_⟩
      intro budget rest
      simp only [Field.string, expect, if_neg htype, bind, Except.bind]
      rfl

/-- A field that holds a message reads it into a start that the value so far tells, and puts in what comes of it. -/
theorem Field.Holds.read_eq {declared : Field α} (hholds : declared.Holds inner) (value : α) :
    ∃ (start : β) (finish : β → α), ∀ type budget bytes, declared.read type budget value bytes
      = (inner.mergeDelimited type budget start bytes).map fun (x, rest) => (finish x, rest) := by
  cases hholds with
  | message label get set =>
    refine ⟨(get value).getD inner.empty, set value, ?_⟩
    intro type budget bytes
    simp only [Field.message, bind, Except.bind]
    cases inner.mergeDelimited type budget ((get value).getD inner.empty) bytes <;> rfl
  | repeated label get set =>
    refine ⟨inner.empty, fun x => set value (get value ++ [x]), ?_⟩
    intro type budget bytes
    simp only [Field.repeated, bind, Except.bind]
    cases inner.mergeDelimited type budget inner.empty bytes <;> rfl

/-- An inner message is read if its fields end where its length says. -/
theorem mergeDelimited_eq_ok_iff {spelling body : Bytes} (hspells : Spells spelling body.length) {start x : β}
    {rest left : Bytes} :
    inner.mergeDelimited .lengthDelimited budget start (spelling ++ (body ++ rest)) = .ok (x, left) ↔
      ∃ fewer, budget = fewer + 1 ∧ left.length = rest.length ∧
        inner.mergeUntil fewer rest.length (body ++ rest).length start (body ++ rest) = .ok (x, left) := by
  cases budget with
  | zero =>
    -- Too deep: nothing is read.
    constructor
    · intro hread
      cases hread
    · rintro ⟨fewer, hbudget, -⟩
      cases hbudget
  | succ fewer =>
    have hlength := UInt64.toNat_ofNat_of_lt' hspells.fits
    have hlong : ¬ (body ++ rest).length < body.length := by simp
    have hstop : (body ++ rest).length - body.length = rest.length := by simp
    simp only [Layout.mergeDelimited, expect, if_pos, bind, Except.bind, hspells.readVarint_eq, hlength, if_neg hlong,
      hstop, Layout.merge, Nat.add_right_cancel_iff, exists_eq_left']
    generalize inner.mergeUntil fewer rest.length (body ++ rest).length start (body ++ rest) = read
    cases read with
    | error error =>
      constructor
      · intro hread
        cases hread
      · rintro ⟨-, hread⟩
        cases hread
    | ok read =>
      obtain ⟨y, left'⟩ := read
      dsimp only
      by_cases hend : left'.length = rest.length
      · rw [if_neg (not_not_intro hend)]
        constructor
        · intro hread
          cases hread
          exact ⟨hend, rfl⟩
        · exact And.right
      · -- The last field went past the end.
        rw [if_pos hend]
        constructor
        · intro hread
          cases hread
        · rintro ⟨hlength, hread⟩
          cases hread
          exact absurd hlength hend

/-! ## Reading on -/

theorem mergeUntil_of_end (most : Nat) (value : α) (rest : Bytes) :
    layout.mergeUntil budget rest.length most value rest = .ok (value, rest) := by
  cases most with
  | zero => rfl
  | succ most => rw [Layout.mergeUntil, if_pos (Nat.le_refl _)]

/-- A field that is read is followed by others, of which there may be as many as there are bytes. -/
theorem mergeUntil_field {field bytes rest left : Bytes} {most : Nat} {value result : α} (hne : field ≠ [])
    (hmost : (field ++ bytes).length ≤ most)
    (hread : layout.mergeUntil budget rest.length most value (field ++ bytes ++ rest) = .ok (result, left)) :
    ∃ value' left' fewer, bytes.length ≤ fewer ∧
      layout.mergeField budget value (field ++ (bytes ++ rest)) = .ok (value', left') ∧
      layout.mergeUntil budget rest.length fewer value' left' = .ok (result, left) := by
  have hpos := List.length_pos_iff.2 hne
  have hmore : ¬ (field ++ bytes ++ rest).length ≤ rest.length := by
    simp only [List.length_append]
    omega
  rw [List.length_append] at hmost
  obtain ⟨fewer, rfl⟩ : ∃ fewer, most = fewer + 1 := ⟨most - 1, by omega⟩
  rw [Layout.mergeUntil, if_neg hmore, List.append_assoc] at hread
  cases hfield : layout.mergeField budget value (field ++ (bytes ++ rest)) with
  | error error =>
    rw [hfield] at hread
    cases hread
  | ok read =>
    obtain ⟨value', left'⟩ := read
    rw [hfield] at hread
    exact ⟨value', left', fewer, by omega, rfl, hread⟩

theorem writeDelimited_ne_nil (tag : Nat) (contents : Bytes) : writeDelimited tag contents ≠ [] := by
  rw [writeDelimited, List.append_assoc]
  intro hnil
  exact Reads.key_write_ne_nil _ (List.append_eq_nil_iff.1 hnil).1

theorem IsField.ne_nil {key : Key} {field : Bytes} (hfield : IsField key field) : field ≠ [] := by
  obtain ⟨head, contents, rfl, hkey, -⟩ := hfield
  intro hnil
  exact hkey.ne_nil (List.append_eq_nil_iff.1 hnil).1

/-- A field that is not declared changes nothing. -/
theorem IsField.reads_undeclared {key : Key} {field : Bytes} (hfield : IsField key field)
    (hundeclared : layout.field key.tag = none) (value : α) : Reads layout (budget + 1) value field value := by
  apply Reads.of_mergeField hfield.ne_nil
  intro _ rest
  obtain ⟨head, contents, rfl, hkey, hcontents⟩ := hfield
  rw [List.append_assoc, hkey.mergeField_undeclared hundeclared, hcontents.skip_eq]
  rfl

/-- What a number or a text makes of a value it makes of it in any place. -/
theorem IsField.reads_plain {key : Key} {field : Bytes} (hfield : IsField key field) {declared : Field α}
    (hfound : layout.field key.tag = some declared) (hplain : declared.IsPlain) {value value' : α} {rest left : Bytes}
    (hread : layout.mergeField budget value (field ++ rest) = .ok (value', left)) :
    left = rest ∧ ∀ budget, Reads layout budget value field value' := by
  have hne := hfield.ne_nil
  obtain ⟨head, contents, rfl, hkey, hcontents⟩ := hfield
  obtain ⟨outcome, houtcome⟩ := hplain.read_eq hcontents value
  rw [List.append_assoc, hkey.mergeField_declared hfound, houtcome] at hread
  cases outcome with
  | error error => cases hread
  | ok value'' =>
    cases hread
    refine ⟨rfl, ?_⟩
    intro budget
    apply Reads.of_mergeField hne
    intro _ rest
    rw [List.append_assoc, hkey.mergeField_declared hfound, houtcome]
    rfl

/-- What a message makes of a value is made of it by any other bytes that read as the message does. -/
theorem Field.Holds.reads {tag : Nat} {declared : Field α} (hholds : declared.Holds inner)
    (hfound : layout.field tag = some declared) (hvalid : 0 < tag ∧ tag < 536870912) {body : Bytes}
    (hfits : body.length < UInt64.size) {value value' : α} {rest left : Bytes}
    (hread : layout.mergeField budget value (writeDelimited tag body ++ rest) = .ok (value', left)) :
    ∃ fewer start x, budget = fewer + 1 ∧ left.length = rest.length ∧
      inner.mergeUntil fewer rest.length (body ++ rest).length start (body ++ rest) = .ok (x, left) ∧
      ∀ {body' : Bytes}, body'.length < UInt64.size → Reads inner (fewer + 1) start body' x →
        Reads layout (budget + 1) value (writeDelimited tag body') value' := by
  obtain ⟨start, finish, hfield⟩ := hholds.read_eq value
  have hmerge : ∀ budget body rest, layout.mergeField budget value (writeDelimited tag body ++ rest)
      = ((inner.mergeDelimited .lengthDelimited budget start
          (Varint.write (UInt64.ofNat body.length) ++ (body ++ rest))).map fun (x, rest) => (finish x, rest)).mapError
        (·.within declared.label) := by
    intro budget body rest
    rw [writeDelimited, List.append_assoc, List.append_assoc, (isKey_write hvalid).mergeField_declared hfound, hfield]
  rw [hmerge] at hread
  cases hinner : inner.mergeDelimited .lengthDelimited budget start
      (Varint.write (UInt64.ofNat body.length) ++ (body ++ rest)) with
  | error error =>
    rw [hinner] at hread
    cases hread
  | ok read =>
    obtain ⟨x, left'⟩ := read
    rw [hinner] at hread
    cases hread
    obtain ⟨fewer, rfl, hlength, hbody⟩ := (mergeDelimited_eq_ok_iff (spells_length hfits)).1 hinner
    refine ⟨fewer, start, x, rfl, hlength, hbody, ?_⟩
    intro body' hfits' hbody'
    apply Reads.of_mergeField (writeDelimited_ne_nil tag body')
    intro _ rest
    have hmost : body'.length ≤ (body' ++ rest).length := by simp
    have hinner' := (mergeDelimited_eq_ok_iff (spells_length hfits')).2
      ⟨fewer + 1, rfl, rfl, hbody'.mergeUntil_eq hfits' rest hmost⟩
    rw [hmerge, hinner']
    rfl

/-- Nothing gets shorter when fields are put in. -/
theorem Grown.length_le {layout : Layout α} {bytes grown : Bytes} (hgrown : Grown layout bytes grown) :
    bytes.length ≤ grown.length := by
  induction hgrown with
  | nil => exact Nat.le_refl _
  | inserted undeclared isField later ih =>
    rw [List.length_append]
    exact Nat.le_add_left_of_le ih
  | kept found plain isField later ih =>
    rw [List.length_append, List.length_append]
    exact Nat.add_le_add_left ih _
  | @within α β layout inner tag declared body body' bytes grown found holds valid inside fits later ihinside ih =>
    -- A longer body has a length that takes no fewer bytes.
    have hlengths : UInt64.ofNat body.length ≤ UInt64.ofNat body'.length := by
      rw [UInt64.le_iff_toNat_le, UInt64.toNat_ofNat_of_lt' (Nat.lt_of_le_of_lt ihinside fits),
        UInt64.toNat_ofNat_of_lt' fits]
      exact ihinside
    have hmono := Varint.length_write_mono hlengths
    simp only [writeDelimited, List.length_append]
    omega

/-- What is read from some fields is read as well after others were put in, by a reader who may nest a level deeper. -/
theorem Grown.reads {layout : Layout α} {bytes grown : Bytes} (hgrown : Grown layout bytes grown) {budget most : Nat}
    {value result : α} {rest left : Bytes} (hmost : bytes.length ≤ most) (hend : left.length = rest.length)
    (hread : layout.mergeUntil budget rest.length most value (bytes ++ rest) = .ok (result, left)) :
    left = rest ∧ Reads layout (budget + 1) value grown result := by
  -- By induction on how the fields were put in. The value so far, and what is left of the message around, vary.
  induction hgrown generalizing budget most rest left with
  | nil =>
    rw [List.nil_append, mergeUntil_of_end] at hread
    cases hread
    exact ⟨rfl, .nil⟩
  | inserted undeclared isField later ih =>
    obtain ⟨hleft, hlater⟩ := ih hmost hend hread
    exact ⟨hleft, (isField.reads_undeclared undeclared value).append hlater⟩
  | kept found plain isField later ih =>
    obtain ⟨value', left', fewer, hfewer, hfield, hrest⟩ := mergeUntil_field isField.ne_nil hmost hread
    obtain ⟨rfl, hkept⟩ := isField.reads_plain found plain hfield
    obtain ⟨hleft, hlater⟩ := ih hfewer hend hrest
    exact ⟨hleft, (hkept (budget + 1)).append hlater⟩
  | @within α β layout inner tag declared body body' bytes grown found holds valid inside fits later ihinside ih =>
    -- The body is read up to the end that its length tells, and its fields end there before and after.
    have hfits := Nat.lt_of_le_of_lt inside.length_le fits
    obtain ⟨value', left', fewer, hfewer, hfield, hrest⟩ :=
      mergeUntil_field (writeDelimited_ne_nil tag body) hmost hread
    obtain ⟨nested, start, x, rfl, hlength, hbody, hreads⟩ := holds.reads found valid hfits hfield
    obtain ⟨rfl, hbody'⟩ := ihinside (by simp) hlength hbody
    obtain ⟨hleft, hlater⟩ := ih hfewer hend hrest
    exact ⟨hleft, (hreads fits hbody').append hlater⟩

/-! ## Where fields can be put in

Every message is written as whole fields of its layout, so others can be put in between any two of them. -/

/-- Some bytes are whole fields of a layout, which can be kept as they are. -/
def Whole (layout : Layout α) (bytes : Bytes) : Prop :=
  bytes.length < UInt64.size → Grown layout bytes bytes

theorem Grown.append {layout : Layout α} {first first' second second' : Bytes} (hfirst : Grown layout first first')
    (hsecond : Grown layout second second') : Grown layout (first ++ second) (first' ++ second') := by
  induction hfirst with
  | nil => exact hsecond
  | inserted undeclared isField later ih =>
    rw [List.append_assoc]
    exact .inserted undeclared isField (ih hsecond)
  | kept found plain isField later ih =>
    rw [List.append_assoc, List.append_assoc]
    exact .kept found plain isField (ih hsecond)
  | within found holds valid inside fits later ihinside ih =>
    rw [List.append_assoc, List.append_assoc]
    exact .within found holds valid inside fits (ih hsecond)

namespace Whole

variable {tag : Nat} {declared : Field α}

theorem nil : Whole layout [] := fun _ => .nil

theorem append {first second : Bytes} (hfirst : Whole layout first) (hsecond : Whole layout second) :
    Whole layout (first ++ second) := by
  intro hfits
  rw [List.length_append] at hfits
  exact (hfirst (by omega)).append (hsecond (by omega))

theorem of_plain {key : Key} {field : Bytes} (hfound : layout.field key.tag = some declared)
    (hplain : declared.IsPlain) (hfield : IsField key field) : Whole layout field := by
  intro _
  have hkept : Grown layout (field ++ []) (field ++ []) := .kept hfound hplain hfield .nil
  rwa [List.append_nil] at hkept

theorem number {n : UInt64} (hfound : layout.field tag = some declared) (hplain : declared.IsPlain)
    (hvalid : 0 < tag ∧ tag < 536870912) : Whole layout (writeUInt64 tag n) := by
  unfold writeUInt64
  split
  · exact nil
  · exact @of_plain _ _ _ ⟨tag, .varint⟩ _ hfound hplain ⟨_, _, rfl, isKey_write hvalid, .varint (spells_write n)⟩

theorem text {text : String} (hfound : layout.field tag = some declared) (hplain : declared.IsPlain)
    (hvalid : 0 < tag ∧ tag < 536870912) : Whole layout (writeString tag text) := by
  unfold writeString writeDelimited
  split
  · exact nil
  · intro hfits
    have hbody : (Utf8.encode text).length < UInt64.size := by
      simp only [List.length_append] at hfits
      omega
    refine @of_plain _ _ _ ⟨tag, .lengthDelimited⟩ _ hfound hplain ?_ hfits
    exact ⟨_, _, List.append_assoc _ _ _, isKey_write hvalid, .lengthDelimited (spells_length hbody)⟩

theorem message {body : Bytes} (hfound : layout.field tag = some declared) (hholds : declared.Holds inner)
    (hvalid : 0 < tag ∧ tag < 536870912) (hbody : Whole inner body) : Whole layout (writeDelimited tag body) := by
  intro hfits
  have hfits' : body.length < UInt64.size := by
    simp only [writeDelimited, List.length_append] at hfits
    omega
  have hwithin : Grown layout (writeDelimited tag body ++ []) (writeDelimited tag body ++ []) :=
    .within hfound hholds hvalid (hbody hfits') hfits' .nil
  rwa [List.append_nil] at hwithin

theorem optional {encode : β → Bytes} {x : Option β} (hfound : layout.field tag = some declared)
    (hholds : declared.Holds inner) (hvalid : 0 < tag ∧ tag < 536870912) (hbody : ∀ y, Whole inner (encode y)) :
    Whole layout (writeOptional tag encode x) := by
  cases x with
  | none => exact nil
  | some y => exact message hfound hholds hvalid (hbody y)

theorem repeated {encode : β → Bytes} {xs : List β} (hfound : layout.field tag = some declared)
    (hholds : declared.Holds inner) (hvalid : 0 < tag ∧ tag < 536870912) (hbody : ∀ y, Whole inner (encode y)) :
    Whole layout (writeRepeated tag encode xs) := by
  induction xs with
  | nil => exact nil
  | cons x xs ih => exact (message hfound hholds hvalid (hbody x)).append ih

end Whole

theorem Location.whole (l : Location) : Whole Location.layout l.encode := by
  have line : Whole Location.layout (writeInt32 1 l.line) := .number rfl (.varint _ _) (by decide)
  have path : Whole Location.layout (writeString 2 l.path) := .text rfl (.string _ _) (by decide)
  have column : Whole Location.layout (writeInt32 3 l.column) := .number rfl (.varint _ _) (by decide)
  exact (line.append path).append column

theorem Value.whole (v : Value) : Whole Value.layout v.encode := by
  have label : Whole Value.layout (writeString 1 v.label) := .text rfl (.string _ _) (by decide)
  have description : Whole Value.layout (writeString 2 v.description) := .text rfl (.string _ _) (by decide)
  have typeName : Whole Value.layout (writeString 3 v.typeName) := .text rfl (.string _ _) (by decide)
  have hasChildren : Whole Value.layout (writeBool 4 v.hasChildren) := .number rfl (.varint _ _) (by decide)
  have id : Whole Value.layout (writeInt64 5 v.id) := .number rfl (.varint _ _) (by decide)
  exact (((label.append description).append typeName).append hasChildren).append id

theorem Scope.whole (s : Scope) : Whole Scope.layout s.encode := by
  have name : Whole Scope.layout (writeString 1 s.name) := .text rfl (.string _ _) (by decide)
  have bindings : Whole Scope.layout (writeRepeated 2 Value.encode s.bindings) :=
    .repeated rfl (.repeated _ _ _) (by decide) Value.whole
  exact name.append bindings

theorem Frame.whole (f : Frame) : Whole Frame.layout f.encode := by
  have functionName : Whole Frame.layout (writeString 1 f.functionName) := .text rfl (.string _ _) (by decide)
  have scopes : Whole Frame.layout (writeRepeated 2 Scope.encode f.scopes) :=
    .repeated rfl (.repeated _ _ _) (by decide) Scope.whole
  have location : Whole Frame.layout (writeOptional 3 Location.encode f.location) :=
    .optional rfl (.message _ _ _) (by decide) Location.whole
  exact (functionName.append scopes).append location

theorem ErrorText.whole (message : String) : Whole ErrorText.layout (ErrorText.encode message) :=
  .text rfl (.string _ _) (by decide)

theorem PausedThread.whole (t : PausedThread) : Whole PausedThread.layout t.encode := by
  have id : Whole PausedThread.layout (writeInt64 1 t.id) := .number rfl (.varint _ _) (by decide)
  have name : Whole PausedThread.layout (writeString 2 t.name) := .text rfl (.string _ _) (by decide)
  have reason : Whole PausedThread.layout (writeInt32 3 t.reason) := .number rfl (.varint _ _) (by decide)
  have location : Whole PausedThread.layout (writeOptional 4 Location.encode t.location) :=
    .optional rfl (.message _ _ _) (by decide) Location.whole
  have conditionError : Whole PausedThread.layout (writeOptional 5 ErrorText.encode t.conditionError) :=
    .optional rfl (.message _ _ _) (by decide) ErrorText.whole
  exact (((id.append name).append reason).append location).append conditionError

namespace Event

theorem Payload.whole (payload : Payload) : Whole Event.layout payload.encode := by
  have hvalid := payload.tag_declared
  cases payload with
  | error message => exact .message rfl (.message _ _ _) hvalid (ErrorText.whole message)
  | listFrames frames =>
    have hframes : Whole framesLayout (writeRepeated 1 Frame.encode frames) :=
      .repeated rfl (.repeated _ _ _) (by decide) Frame.whole
    exact .message rfl (.message _ _ _) hvalid hframes
  | startDebugging => exact .message rfl (.message _ _ _) hvalid .nil
  | pauseThread => exact .message rfl (.message _ _ _) hvalid .nil
  | continueExecution => exact .message rfl (.message _ _ _) hvalid .nil
  | evaluate result =>
    have hresult : Whole resultLayout (writeOptional 1 Value.encode result) :=
      .optional rfl (.message _ _ _) (by decide) Value.whole
    exact .message rfl (.message _ _ _) hvalid hresult
  | setBreakpoints => exact .message rfl (.message _ _ _) hvalid .nil
  | getChildren children =>
    have hchildren : Whole childrenLayout (writeRepeated 1 Value.encode children) :=
      .repeated rfl (.repeated _ _ _) (by decide) Value.whole
    exact .message rfl (.message _ _ _) hvalid hchildren
  | threadPaused thread =>
    have hthread : Whole pausedLayout (writeOptional 1 PausedThread.encode thread) :=
      .optional rfl (.message _ _ _) (by decide) PausedThread.whole
    exact .message rfl (.message _ _ _) hvalid hthread
  | threadContinued thread =>
    have hthread : Whole continuedLayout (writeInt64 1 thread) := .number rfl (.varint _ _) (by decide)
    exact .message rfl (.message _ _ _) hvalid hthread

theorem whole (e : Event) : Whole Event.layout e.encode := by
  obtain ⟨number, payload⟩ := e
  have hnumber : Whole Event.layout (writeUInt64 1 number) := .number rfl (.varint _ _) (by decide)
  cases payload with
  | none => exact hnumber.append .nil
  | some payload => exact hnumber.append payload.whole

end Event

/-- An event whose only payload is not declared is one without payload that has grown. -/
theorem Event.grown_of_undeclared (number : UInt64) {key : Key} {field : Bytes}
    (hundeclared : Event.layout.field key.tag = none) (hfield : IsField key field) :
    Grown Event.layout ({ number } : Event).encode (writeUInt64 1 number ++ field) := by
  have hfits : (writeUInt64 1 number).length < UInt64.size := by
    have hkey := (@isKey_write ⟨1, .varint⟩ (by decide)).spells.short
    have hnumber := (spells_write number).short
    simp only [Varint.maxLength] at hkey hnumber
    unfold writeUInt64
    split
    · decide
    · simp only [List.length_append, UInt64.size]
      omega
  have hwhole : Whole Event.layout (writeUInt64 1 number) := .number rfl (.varint _ _) (by decide)
  have hinserted : Grown Event.layout [] (field ++ []) := .inserted hundeclared hfield .nil
  rw [List.append_nil] at hinserted
  exact (hwhole hfits).append hinserted

/-- An event is decoded to the same one after fields were put in. -/
theorem Event.decode_grown {e : Event} {body : Bytes} (hgrown : Grown Event.layout e.encode body)
    (hfits : body.length < UInt64.size) : Event.decode body = .ok e := by
  -- An event needs four levels, and a reader has a hundred.
  have hencode := (@Event.reads 95 e).mergeUntil_eq (Nat.lt_of_le_of_lt hgrown.length_le hfits) [] (Nat.le_refl _)
  exact (hgrown.reads (Nat.le_refl _) rfl hencode).2.decode_eq hfits

theorem Event.next_grown {e : Event} {limit : Nat} {frame body : Bytes} (hgrown : Grown Event.layout e.encode body)
    (hcarries : Carries limit frame body) (rest : Bytes) :
    next limit Event.decode (frame ++ rest) = .message e rest := by
  apply message_iff.2
  refine ⟨frame, body, rfl, hcarries, ?_⟩
  obtain ⟨spelling, -, hspells, -⟩ := hcarries
  exact Event.decode_grown hgrown hspells.fits

end DebugBridge.Wire
