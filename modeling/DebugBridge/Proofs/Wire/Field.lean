import DebugBridge.Proofs.Wire.Varint

/-!
# Fields read back

`Reads layout budget value bytes value'` says that a reader who stands at `value` and finds `bytes` in front of
anything else comes to `value'` behind them. It composes along concatenation, so a message is read back once each
of its fields is. The rules below give it for every kind of field; a field that was left out, being at its
default, is read back because the reader still has that default.
-/

namespace DebugBridge.Wire

variable {α β : Type}

/-! ## Keys and contents -/

theorem readVarint_write (n : UInt64) (rest : Bytes) : readVarint (Varint.write n ++ rest) = .ok (n, rest) := by
  rw [readVarint, Varint.read?_write]

theorem split_append (contents rest : Bytes) : split contents.length (contents ++ rest) = .ok (contents, rest) := by
  simp [split]

theorem WireType.code_lt (type : WireType) : type.code < 8 := by
  cases type <;> decide

/-- A key is read where its number is, when its tag is one that a message may declare. -/
theorem Key.read_of_readVarint {key : Key} {bytes rest : Bytes}
    (hread : readVarint bytes = .ok (UInt64.ofNat (key.tag * 8 + key.type.code), rest)) (hpos : 0 < key.tag)
    (hmax : key.tag < 536870912) : Key.read bytes = .ok (key, rest) := by
  have hcode := key.type.code_lt
  have hnum : (UInt64.ofNat (key.tag * 8 + key.type.code)).toNat = key.tag * 8 + key.type.code :=
    UInt64.toNat_ofNat_of_lt' (by simp only [UInt64.size]; omega)
  have hfits : ¬ (4294967295 : UInt64) < UInt64.ofNat (key.tag * 8 + key.type.code) := by
    have hmax32 : (4294967295 : UInt64).toNat = 4294967295 := rfl
    rw [UInt64.lt_iff_toNat_lt, hnum, hmax32]
    omega
  have htype : (key.tag * 8 + key.type.code) % 8 = key.type.code := by omega
  have htag : (key.tag * 8 + key.type.code) / 8 = key.tag := by omega
  have hne : ¬ key.tag = 0 := by omega
  unfold Key.read
  rw [hread]
  simp only [bind, Except.bind, if_neg hfits, hnum, htype, htag, WireType.ofCode?_code, if_neg hne]
  rfl

theorem Key.read_write (key : Key) (rest : Bytes) (hpos : 0 < key.tag) (hmax : key.tag < 536870912) :
    Key.read (key.write ++ rest) = .ok (key, rest) :=
  Key.read_of_readVarint (readVarint_write _ rest) hpos hmax

/-! ## Reading on -/

/-- Read in front of anything, `bytes` take a reader from `value` to `value'`. No field takes less than a byte, so
a reader who may take as many fields as there are bytes may still do so behind them. -/
def Reads (layout : Layout α) (budget : Nat) (value : α) (bytes : Bytes) (value' : α) : Prop :=
  bytes.length < UInt64.size → ∀ (stop : Nat) (rest : Bytes) (most : Nat),
    stop ≤ rest.length → bytes.length ≤ most →
      ∃ most', most ≤ most' + bytes.length ∧
        layout.mergeUntil budget stop most value (bytes ++ rest) = layout.mergeUntil budget stop most' value' rest

namespace Reads

variable {layout : Layout α} {inner : Layout β} {budget tag : Nat} {value value' value'' : α} {label : Label}

theorem nil : Reads layout budget value [] value := by
  intro _ stop rest most _ _
  exact ⟨most, by simp, rfl⟩

theorem append {first second : Bytes} (hfirst : Reads layout budget value first value')
    (hsecond : Reads layout budget value' second value'') :
    Reads layout budget value (first ++ second) value'' := by
  intro hsize stop rest most hstop hmost
  rw [List.length_append] at hsize hmost
  have hstop' : stop ≤ (second ++ rest).length := by
    rw [List.length_append]
    omega
  obtain ⟨most₁, hmost₁, heq₁⟩ := hfirst (by omega) stop (second ++ rest) most hstop' (by omega)
  obtain ⟨most₂, hmost₂, heq₂⟩ := hsecond (by omega) stop rest most₁ hstop (by omega)
  refine ⟨most₂, ?_, ?_⟩
  · rw [List.length_append]
    omega
  · rw [List.append_assoc, heq₁, heq₂]

/-- A reader that may take as many fields as there are bytes ends at the value, with the rest left over. -/
theorem mergeUntil_eq {bytes : Bytes} (h : Reads layout budget value bytes value') (hsize : bytes.length < UInt64.size)
    (rest : Bytes) {most : Nat} (hmost : bytes.length ≤ most) :
    layout.mergeUntil budget rest.length most value (bytes ++ rest) = .ok (value', rest) := by
  obtain ⟨most', _, heq⟩ := h hsize rest.length rest most (Nat.le_refl _) hmost
  rw [heq]
  cases most' with
  | zero => rfl
  | succ most' => simp [Layout.mergeUntil]

/-- Bytes that are all of a message decode to the value they read as. -/
theorem decode_eq {bytes : Bytes} (h : Reads layout Layout.maxDepth layout.empty bytes value')
    (hsize : bytes.length < UInt64.size) : layout.decode bytes = .ok value' := by
  have hmerge := h.mergeUntil_eq hsize [] (Nat.le_refl _)
  rw [List.append_nil, List.length_nil] at hmerge
  rw [Layout.decode, Layout.merge, hmerge]
  rfl

/-! ## One field -/

theorem of_mergeField {bytes : Bytes} (hne : bytes ≠ [])
    (h : bytes.length < UInt64.size → ∀ rest, layout.mergeField budget value (bytes ++ rest) = .ok (value', rest)) :
    Reads layout budget value bytes value' := by
  intro hsize stop rest most hstop hmost
  have hpos : 0 < bytes.length := List.length_pos_iff.2 hne
  obtain ⟨most', rfl⟩ : ∃ most', most = most' + 1 := ⟨most - 1, by omega⟩
  have hmore : ¬ (bytes ++ rest).length ≤ stop := by
    rw [List.length_append]
    omega
  refine ⟨most', by omega, ?_⟩
  rw [Layout.mergeUntil, if_neg hmore, h hsize rest]
  rfl

/-- A declared field is left to what reads its contents. -/
theorem mergeField_write {field : Field α} {type : WireType} (hfield : layout.field tag = some field)
    (htag : 0 < tag ∧ tag < 536870912) (bytes : Bytes) :
    layout.mergeField budget value (Key.write ⟨tag, type⟩ ++ bytes)
      = (field.read type budget value bytes).mapError (·.within field.label) := by
  rw [Layout.mergeField, Key.read_write _ _ htag.1 htag.2]
  simp only [bind, Except.bind, hfield]

theorem key_write_ne_nil (key : Key) : key.write ≠ [] :=
  Varint.write_ne_nil _

theorem of_read {field : Field α} {type : WireType} {contents : Bytes} (hfield : layout.field tag = some field)
    (htag : 0 < tag ∧ tag < 536870912)
    (hread : contents.length < UInt64.size → ∀ rest,
      field.read type budget value (contents ++ rest) = .ok (value', rest)) :
    Reads layout budget value (Key.write ⟨tag, type⟩ ++ contents) value' := by
  apply of_mergeField
  · intro hnil
    exact key_write_ne_nil _ (List.append_eq_nil_iff.1 hnil).1
  · intro hsize rest
    rw [List.length_append] at hsize
    rw [List.append_assoc, mergeField_write hfield htag, hread (by omega)]
    rfl

/-! ## Numbers and texts

`hdefault` says that the reader is at the default, which is what a field that is left out relies on. -/

theorem varint {set : α → UInt64 → α} {n : UInt64} (hfield : layout.field tag = some (.varint label set))
    (htag : 0 < tag ∧ tag < 536870912) (hdefault : set value 0 = value) (hset : set value n = value') :
    Reads layout budget value (writeUInt64 tag n) value' := by
  unfold writeUInt64
  split
  · next hzero =>
    rw [← hset, hzero, hdefault]
    exact nil
  · apply of_read hfield htag
    intro _ rest
    simp only [Field.varint, expect, if_pos, bind, Except.bind, readVarint_write, hset]
    rfl

theorem uint64 {set : α → UInt64 → α} {n : UInt64} (hfield : layout.field tag = some (.uint64 label set))
    (htag : 0 < tag ∧ tag < 536870912) (hdefault : set value 0 = value) (hset : set value n = value') :
    Reads layout budget value (writeUInt64 tag n) value' :=
  varint hfield htag hdefault hset

theorem int64 {set : α → Int64 → α} {n : Int64} (hfield : layout.field tag = some (.int64 label set))
    (htag : 0 < tag ∧ tag < 536870912) (hdefault : set value 0 = value) (hset : set value n = value') :
    Reads layout budget value (writeInt64 tag n) value' := by
  apply varint hfield htag hdefault
  rw [Int64.toInt64_toUInt64, hset]

/-- Widening with the sign and cutting back to 32 bits gives the number itself. -/
theorem toInt32_of_widened (n : Int32) : n.toInt64.toUInt64.toUInt32.toInt32 = n := by
  apply Int32.toBitVec_inj.1
  simp only [UInt32.toBitVec_toInt32, UInt64.toBitVec_toUInt32, Int64.toBitVec_toUInt64, Int32.toBitVec_toInt64]
  apply BitVec.eq_of_getLsbD_eq
  intro i hi
  simp [BitVec.getLsbD_signExtend, hi]
  omega

theorem int32 {set : α → Int32 → α} {n : Int32} (hfield : layout.field tag = some (.int32 label set))
    (htag : 0 < tag ∧ tag < 536870912) (hdefault : set value 0 = value) (hset : set value n = value') :
    Reads layout budget value (writeInt32 tag n) value' := by
  apply varint hfield htag hdefault
  rw [toInt32_of_widened, hset]

theorem bool {set : α → Bool → α} {b : Bool} (hfield : layout.field tag = some (.bool label set))
    (htag : 0 < tag ∧ tag < 536870912) (hdefault : set value false = value) (hset : set value b = value') :
    Reads layout budget value (writeBool tag b) value' := by
  apply varint hfield htag hdefault
  have hbit : ((if b then 1 else 0 : UInt64) != 0) = b := by cases b <;> rfl
  rw [hbit, hset]

theorem string {set : α → String → α} {text : String} (hfield : layout.field tag = some (.string label set))
    (htag : 0 < tag ∧ tag < 536870912) (hdefault : set value "" = value) (hset : set value text = value') :
    Reads layout budget value (writeString tag text) value' := by
  unfold writeString writeDelimited
  split
  · next hempty =>
    rw [← hset, hempty, hdefault]
    exact nil
  · rw [List.append_assoc]
    apply of_read hfield htag
    intro hsize rest
    rw [List.length_append] at hsize
    simp only [Field.string, expect, if_pos, bind, Except.bind, List.append_assoc, readVarint_write,
      UInt64.toNat_ofNat_of_lt' (show (Utf8.encode text).length < UInt64.size by omega), split_append,
      Utf8.decode?_encode, hset]
    rfl

/-! ## Inner messages -/

/-- An inner message behind its length is read back; entering it takes one from the budget. -/
theorem mergeDelimited_write {start result : β} {contents : Bytes} (h : Reads inner budget start contents result)
    (hsize : contents.length < UInt64.size) (rest : Bytes) :
    inner.mergeDelimited .lengthDelimited (budget + 1) start
      (Varint.write (UInt64.ofNat contents.length) ++ contents ++ rest) = .ok (result, rest) := by
  have hlength := UInt64.toNat_ofNat_of_lt' hsize
  have hmerge := h.mergeUntil_eq hsize rest (show contents.length ≤ (contents ++ rest).length by simp)
  have hfits : ¬ (contents ++ rest).length < contents.length := by simp
  have hstop : (contents ++ rest).length - contents.length = rest.length := by simp
  simp only [Layout.mergeDelimited, expect, if_pos, bind, Except.bind, List.append_assoc, readVarint_write,
    hlength, if_neg hfits, hstop, Layout.merge, hmerge, ne_eq, not_true_eq_false, if_false]
  rfl

theorem message {get : α → Option β} {set : α → β → α} {contents : Bytes} {x : β}
    (hfield : layout.field tag = some (.message label inner get set)) (htag : 0 < tag ∧ tag < 536870912)
    (hget : get value = none) (h : Reads inner budget inner.empty contents x) (hset : set value x = value') :
    Reads layout (budget + 1) value (writeDelimited tag contents) value' := by
  unfold writeDelimited
  rw [List.append_assoc]
  apply of_read hfield htag
  intro hsize rest
  rw [List.length_append] at hsize
  simp only [Field.message, hget, Option.getD_none, bind, Except.bind,
    mergeDelimited_write h (show contents.length < UInt64.size by omega), hset]
  rfl

/-- An inner message that may be absent: then nothing was written, and nothing is read. -/
theorem optional {get : α → Option β} {set : α → β → α} {encode : β → Bytes} {x : Option β} (result : Option β → α)
    (hfield : layout.field tag = some (.message label inner get set)) (htag : 0 < tag ∧ tag < 536870912)
    (hget : get value = none) (h : ∀ y, Reads inner budget inner.empty (encode y) y)
    (hnone : result none = value) (hsome : ∀ y, set value y = result (some y)) :
    Reads layout (budget + 1) value (writeOptional tag encode x) (result x) := by
  cases x with
  | none =>
    rw [hnone]
    exact nil
  | some y => exact message hfield htag hget (h y) (hsome y)

/-- A list of inner messages is read back element by element, each behind those that were read before it. -/
theorem repeated {get : α → List β} {set : α → List β → α} {encode : β → Bytes} {xs : List β} (result : List β → α)
    (hfield : layout.field tag = some (.repeated label inner get set)) (htag : 0 < tag ∧ tag < 536870912)
    (h : ∀ y, Reads inner budget inner.empty (encode y) y) (hget : ∀ ys, get (result ys) = ys)
    (hset : ∀ ys zs, set (result ys) zs = result zs) :
    Reads layout (budget + 1) (result []) (writeRepeated tag encode xs) (result xs) := by
  suffices hall : ∀ done, Reads layout (budget + 1) (result done) (writeRepeated tag encode xs) (result (done ++ xs)) by
    exact hall []
  induction xs with
  | nil =>
    intro done
    rw [List.append_nil]
    exact nil
  | cons x xs ih =>
    intro done
    have hone : Reads layout (budget + 1) (result done) (writeDelimited tag (encode x)) (result (done ++ [x])) := by
      unfold writeDelimited
      rw [List.append_assoc]
      apply of_read hfield htag
      intro hsize rest
      rw [List.length_append] at hsize
      simp only [Field.repeated, bind, Except.bind, hget, hset,
        mergeDelimited_write (h x) (show (encode x).length < UInt64.size by omega)]
      rfl
    have hrest := ih (done ++ [x])
    rw [List.append_assoc, List.singleton_append] at hrest
    exact hone.append hrest

end Reads

end DebugBridge.Wire
