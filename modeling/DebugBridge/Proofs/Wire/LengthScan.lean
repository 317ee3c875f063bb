import Mathlib.Logic.Function.Iterate
import DebugBridge.Proofs.Wire.Spelling

/-!
# Where a length ends

The scan for the end of a length looks at the high bits of the first ten bytes. The reader of numbers then goes through
the bytes it is handed on its own account: it stops where they run out, at the tenth at the latest, and refuses a tenth byte
that holds more than one bit. `Reading` tells how such a reading ends and is proved to be what the reader does. For every
buffer the scan and the reader end at the same byte: `lengths_end_where_their_reading_does`.
-/

namespace DebugBridge.Wire

namespace Varint

/-! ## How a reading ends -/

/-- How the reading of a number ends. -/
inductive Reading where
  /-- The bytes run out before the number has ended. -/
  | exhausted
  /-- The last byte that may be read continues. -/
  | endless
  /-- The last byte that may be read ends the number, but holds more than the one bit that is left. -/
  | overflow
  /-- A number, and the bytes that follow it. -/
  | number (n : Nat) (rest : Bytes)
  deriving DecidableEq, Repr

/-- The number that was read, if there is one. -/
def Reading.number? : Reading → Option (Nat × Bytes)
  | number n rest => some (n, rest)
  | _ => none

/-- A reading with a byte in front that continues. -/
def Reading.after (byte : UInt8) : Reading → Reading
  | number high rest => number (byte.toNat - 128 + 128 * high) rest
  | other => other

/-- Reads a number of at most `left` bytes, one after another. -/
def reading : Nat → Bytes → Reading
  | 0, _ => .endless
  | _ + 1, [] => .exhausted
  | left + 1, byte :: rest =>
    if continues byte then (reading left rest).after byte
    else if left = 0 ∧ 1 < byte then .overflow
    else .number byte.toNat rest

theorem Reading.number?_after (byte : UInt8) (reading : Reading) :
    (reading.after byte).number?
      = reading.number?.map fun (high, rest) => (byte.toNat - 128 + 128 * high, rest) := by
  cases reading <;> rfl

/-- The reader gives the number if its reading ends with one. -/
theorem readGroups_eq_number? (left : Nat) (bytes : Bytes) : readGroups left bytes = (reading left bytes).number? := by
  induction left generalizing bytes with
  | zero => rfl
  | succ left ih =>
    cases bytes with
    | nil => rfl
    | cons byte bytes =>
      rw [readGroups, reading]
      split
      · rw [ih, Reading.number?_after]
      · split <;> rfl

/-- Whether a spelling takes all the bytes that it may, and the last of them holds more than one bit. -/
def Overfull (most : Nat) (spelling : Bytes) : Prop :=
  spelling.length = most ∧ ∃ byte, spelling.getLast? = some byte ∧ 1 < byte

theorem overfull_singleton {most : Nat} {byte : UInt8} : Overfull (most + 1) [byte] ↔ most = 0 ∧ 1 < byte := by
  unfold Overfull
  rw [List.length_singleton, List.getLast?_singleton]
  constructor
  · rintro ⟨hlength, last, hlast, hlarge⟩
    exact ⟨by omega, Option.some.inj hlast ▸ hlarge⟩
  · rintro ⟨rfl, hlarge⟩
    exact ⟨rfl, byte, rfl, hlarge⟩

theorem overfull_cons {most : Nat} {byte : UInt8} {bytes : Bytes} (hne : bytes ≠ []) :
    Overfull (most + 1) (byte :: bytes) ↔ Overfull most bytes := by
  unfold Overfull
  rw [List.length_cons, Nat.add_right_cancel_iff, List.getLast?_cons_of_ne_nil hne]

/-- A spelling is read to its end and no further, and it is told whether its last byte holds too much. -/
theorem IsSpelling.reading_eq {spelling : Bytes} (hspelling : IsSpelling spelling) {most : Nat}
    (hshort : spelling.length ≤ most) (rest : Bytes) :
    (Overfull most spelling → reading most (spelling ++ rest) = .overflow) ∧
      (¬ Overfull most spelling → reading most (spelling ++ rest) = .number (value spelling) rest) := by
  obtain ⟨left, rfl⟩ : ∃ left, most = left + 1 := by
    have hpos := hspelling.length_pos
    exact ⟨most - 1, by omega⟩
  induction hspelling generalizing left with
  | @last byte ends =>
    have hvalue : value [byte] = byte.toNat := by
      have hsmall := not_continues_iff.1 ends
      rw [value, value, Nat.mod_eq_of_lt hsmall]
      rfl
    rw [overfull_singleton, List.singleton_append, reading, ends, if_neg Bool.false_ne_true, hvalue]
    exact ⟨fun hlarge => if_pos hlarge, fun hsmall => if_neg hsmall⟩
  | @more byte bytes goesOn later ih =>
    have hpos := later.length_pos
    rw [List.length_cons] at hshort
    obtain ⟨fewer, rfl⟩ : ∃ fewer, left = fewer + 1 := ⟨left - 1, by omega⟩
    have hlow : byte.toNat % 128 = byte.toNat - 128 := by
      have hlarge := continues_iff.1 goesOn
      have hmax := byte.toNat_lt
      omega
    obtain ⟨hoverflow, hnumber⟩ := ih fewer (by omega)
    rw [overfull_cons (List.length_pos_iff.1 hpos), List.cons_append, reading, if_pos goesOn]
    constructor
    · intro hlarge
      rw [hoverflow hlarge]
      rfl
    · intro hsmall
      rw [hnumber hsmall, value, hlow]
      rfl

/-- Bytes that all continue are read as far as they go, or as far as a number may. -/
theorem reading_of_goes_on {most : Nat} {bytes : Bytes} (hgoesOn : ∀ byte ∈ bytes.take most, continues byte = true) :
    reading most bytes = if bytes.length < most then .exhausted else .endless := by
  induction most generalizing bytes with
  | zero => rfl
  | succ left ih =>
    cases bytes with
    | nil => rfl
    | cons byte bytes =>
      rw [List.take_succ_cons, List.forall_mem_cons] at hgoesOn
      rw [reading, if_pos hgoesOn.1, ih hgoesOn.2, List.length_cons]
      by_cases hshort : bytes.length < left
      · rw [if_pos hshort, if_pos (Nat.succ_lt_succ hshort)]
        rfl
      · rw [if_neg hshort, if_neg (by omega)]
        rfl

/-- A spelling tells a number of 64 bits unless its tenth byte holds too much. -/
theorem IsSpelling.value_lt_iff {spelling : Bytes} (hspelling : IsSpelling spelling)
    (hshort : spelling.length ≤ maxLength) : value spelling < 2 ^ 64 ↔ ¬ Overfull maxLength spelling := by
  -- Both are what decides whether the reader gives a number.
  have hread : readGroups maxLength (spelling ++ []) = if value spelling < 2 ^ 64 then some (value spelling, []) else none :=
    hspelling.readGroups_eq 9 hshort []
  obtain ⟨hoverflow, hnumber⟩ := hspelling.reading_eq hshort []
  rw [readGroups_eq_number?] at hread
  constructor
  · intro hfits hlarge
    rw [hoverflow hlarge, if_pos hfits] at hread
    cases hread
  · intro hsmall
    apply Decidable.byContradiction
    intro hlarge
    rw [hnumber hsmall, if_neg hlarge] at hread
    cases hread

/-! ## Zero groups at the end -/

/-- The same number with one zero group more. -/
def pad : Bytes → Bytes
  | [] => []
  | [byte] => [byte + 128, 0]
  | byte :: bytes => byte :: pad bytes

theorem pad_cons {byte : UInt8} {bytes : Bytes} (hne : bytes ≠ []) : pad (byte :: bytes) = byte :: pad bytes := by
  cases bytes with
  | nil => exact absurd rfl hne
  | cons next bytes => rfl

/-- A number has the longer spelling as well. -/
theorem IsSpelling.pad {spelling : Bytes} (hspelling : IsSpelling spelling) :
    IsSpelling (pad spelling) ∧ value (Varint.pad spelling) = value spelling ∧
      (Varint.pad spelling).length = spelling.length + 1 := by
  induction hspelling with
  | @last byte ends =>
    have hsmall := not_continues_iff.1 ends
    have hsum : (byte + 128).toNat = byte.toNat + 128 := by
      rw [UInt8.toNat_add, show (128 : UInt8).toNat = 128 from rfl]
      exact Nat.mod_eq_of_lt (by omega)
    refine ⟨?_, ?_, rfl⟩
    · apply IsSpelling.more
      · rw [continues_iff, hsum]
        omega
      · exact IsSpelling.last rfl
    · simp only [Varint.pad, value, hsum, UInt8.toNat_zero]
      omega
  | @more byte bytes goesOn later ih =>
    obtain ⟨hspelling, hvalue, hlength⟩ := ih
    rw [pad_cons (List.length_pos_iff.1 later.length_pos)]
    refine ⟨.more goesOn hspelling, ?_, congrArg (· + 1) hlength⟩
    rw [value, value, hvalue]

/-- A spelling with some zero groups more. -/
theorem IsSpelling.padded {spelling : Bytes} (hspelling : IsSpelling spelling) (zeros : Nat) :
    IsSpelling (Varint.pad^[zeros] spelling) ∧ value (Varint.pad^[zeros] spelling) = value spelling ∧
      (Varint.pad^[zeros] spelling).length = spelling.length + zeros := by
  induction zeros with
  | zero => exact ⟨hspelling, rfl, rfl⟩
  | succ zeros ih =>
    obtain ⟨hpadded, hvalue, hlength⟩ := ih
    obtain ⟨hmore, hsame, hlonger⟩ := hpadded.pad
    rw [Function.iterate_succ_apply']
    exact ⟨hmore, hsame.trans hvalue, by omega⟩

end Varint

open Varint (IsSpelling)

/-- A number that is padded up to ten bytes at most is spelled still. -/
theorem Spells.padded {spelling : Bytes} {n : Nat} (hspells : Spells spelling n) {zeros : Nat}
    (hshort : spelling.length + zeros ≤ Varint.maxLength) : Spells (Varint.pad^[zeros] spelling) n := by
  obtain ⟨hpadded, hvalue, hlength⟩ := hspells.isSpelling.padded zeros
  exact ⟨hpadded, hlength ▸ hshort, hvalue.trans hspells.value, hspells.fits⟩

/-! ## The scan and the reader -/

/-- What the front of a buffer tells of a length is told by the reading of all the buffer. -/
theorem peekLength_eq_of_reading (buffer : Bytes) :
    peekLength buffer = match Varint.reading Varint.maxLength buffer with
      | .exhausted => .ok none
      | .endless => .error .prefixTooLong
      | .overflow => .error (.invalidPrefix { fault := .invalidVarint })
      | .number n rest => .ok (some (n, buffer.length - rest.length)) := by
  have hahead := ahead_peekLength buffer
  generalize peekLength buffer = told at hahead
  cases hahead with
  | waits short goesOn =>
    rw [Varint.reading_of_goes_on fun byte hmem => goesOn byte (List.mem_of_mem_take hmem), if_pos short]
  | @endless start more ten goesOn =>
    have htake : (start ++ more).take Varint.maxLength = start := by
      rw [← ten]
      exact List.take_left
    have hlong : ¬ (start ++ more).length < Varint.maxLength := by
      rw [List.length_append]
      omega
    rw [Varint.reading_of_goes_on (htake.symm ▸ goesOn), if_neg hlong]
  | @large spelling more isSpelling short large =>
    have hover : Varint.Overfull Varint.maxLength spelling :=
      Classical.byContradiction fun hsmall => Nat.not_lt.2 large ((isSpelling.value_lt_iff short).2 hsmall)
    rw [(isSpelling.reading_eq short more).1 hover]
  | @told spelling more length spells =>
    have hsmall := (spells.isSpelling.value_lt_iff spells.short).1 (spells.value.symm ▸ spells.fits)
    have hwidth : (spelling ++ more).length - more.length = spelling.length := by
      rw [List.length_append, Nat.add_sub_cancel]
    simp only [(spells.isSpelling.reading_eq spells.short more).2 hsmall, spells.value, hwidth]

/-- A spelling of at most ten bytes at the front of a buffer is what the reader is handed, and its verdict is passed on. -/
theorem peekLength_of_spelling {spelling : Bytes} (hspelling : IsSpelling spelling)
    (hshort : spelling.length ≤ Varint.maxLength) (more : Bytes) :
    peekLength (spelling ++ more) = match readVarint spelling with
      | .ok (length, _) => .ok (some (length.toNat, spelling.length))
      | .error error => .error (.invalidPrefix error) := by
  have hwidth : spelling.length - 1 + 1 = spelling.length := Nat.sub_add_cancel hspelling.length_pos
  cases hread : readVarint spelling with
  | error error => simp only [peekLength, hspelling.lastOfPrefix?_eq hshort, hwidth, List.take_left, hread]
  | ok told => simp only [peekLength, hspelling.lastOfPrefix?_eq hshort, hwidth, List.take_left, hread]

theorem peekLength_eq_wait_iff {buffer : Bytes} : peekLength buffer = .ok none ↔
    buffer.length < Varint.maxLength ∧ ∀ byte ∈ buffer, Varint.continues byte = true := by
  constructor
  · intro hwait
    have hahead := ahead_peekLength buffer
    rw [hwait] at hahead
    cases hahead with
    | waits short goesOn => exact ⟨short, goesOn⟩
  · rintro ⟨short, goesOn⟩
    exact (Ahead.waits short goesOn).peekLength_eq

theorem peekLength_eq_tooLong_iff {buffer : Bytes} : peekLength buffer = .error .prefixTooLong ↔
    Varint.maxLength ≤ buffer.length ∧ ∀ byte ∈ buffer.take Varint.maxLength, Varint.continues byte = true := by
  constructor
  · intro htooLong
    have hahead := ahead_peekLength buffer
    rw [htooLong] at hahead
    cases hahead with
    | @endless start more ten goesOn =>
      rw [← ten, List.take_left, List.length_append]
      exact ⟨Nat.le_add_right _ _, goesOn⟩
  · rintro ⟨hlong, goesOn⟩
    rw [← List.take_append_drop Varint.maxLength buffer]
    exact (Ahead.endless (List.length_take_of_le hlong) goesOn).peekLength_eq

/-- Where the scan neither waits nor finds the length too long, it has found a number's last byte. -/
theorem exists_spelling {buffer : Bytes} (hends : peekLength buffer ≠ .ok none)
    (hshort : peekLength buffer ≠ .error .prefixTooLong) :
    ∃ spelling more, buffer = spelling ++ more ∧ IsSpelling spelling ∧ spelling.length ≤ Varint.maxLength := by
  have hahead := ahead_peekLength buffer
  generalize peekLength buffer = told at hahead hends hshort
  cases hahead with
  | waits short goesOn => exact absurd rfl hends
  | endless ten goesOn => exact absurd rfl hshort
  | large isSpelling short large => exact ⟨_, _, rfl, isSpelling, short⟩
  | told spells => exact ⟨_, _, rfl, spells.isSpelling, spells.short⟩

/-- For every buffer:

* The scan waits exactly if there are fewer than ten bytes and all continue, and finds the length too long exactly if the
  first ten continue.
* Otherwise the buffer begins with the bytes of a number, up to the first that does not continue. These bytes are what the
  reader is handed. It never runs out of them, takes them all, and refuses them exactly if there are ten and the last is
  greater than 1. If it does not, the length is their value in base 128, zero groups included, and their number is told.
* The reader would have come to the same end in the whole buffer.
* A length of 64 bits that was written, with any zero groups that there is room for, is told in front of the buffer. -/
theorem lengths_end_where_their_reading_does (buffer : Bytes) :
    ((peekLength buffer = .ok none ↔
        buffer.length < Varint.maxLength ∧ ∀ byte ∈ buffer, Varint.continues byte = true) ∧
      (peekLength buffer = .error .prefixTooLong ↔
        Varint.maxLength ≤ buffer.length ∧ ∀ byte ∈ buffer.take Varint.maxLength, Varint.continues byte = true)) ∧
    (peekLength buffer ≠ .ok none → peekLength buffer ≠ .error .prefixTooLong →
      ∃ spelling more, buffer = spelling ++ more ∧ IsSpelling spelling ∧ spelling.length ≤ Varint.maxLength ∧
        (peekLength buffer = match readVarint spelling with
          | .ok (length, _) => .ok (some (length.toNat, spelling.length))
          | .error error => .error (.invalidPrefix error)) ∧
        (Varint.Overfull Varint.maxLength spelling →
          Varint.reading Varint.maxLength spelling = .overflow ∧
          readVarint spelling = .error { fault := .invalidVarint }) ∧
        (¬ Varint.Overfull Varint.maxLength spelling →
          Varint.reading Varint.maxLength spelling = .number (Varint.value spelling) [] ∧
          readVarint spelling = .ok (UInt64.ofNat (Varint.value spelling), []) ∧
          peekLength buffer = .ok (some (Varint.value spelling, spelling.length)))) ∧
    ((∀ bytes, Varint.readGroups Varint.maxLength bytes = (Varint.reading Varint.maxLength bytes).number?) ∧
      peekLength buffer = match Varint.reading Varint.maxLength buffer with
        | .exhausted => .ok none
        | .endless => .error .prefixTooLong
        | .overflow => .error (.invalidPrefix { fault := .invalidVarint })
        | .number n rest => .ok (some (n, buffer.length - rest.length))) ∧
    ∀ n : UInt64, (Varint.write n).length ≤ Varint.maxLength ∧
      ∀ zeros, (Varint.write n).length + zeros ≤ Varint.maxLength →
        peekLength (Varint.pad^[zeros] (Varint.write n) ++ buffer)
          = .ok (some (n.toNat, (Varint.write n).length + zeros)) := by
  refine ⟨⟨peekLength_eq_wait_iff, peekLength_eq_tooLong_iff⟩, ?_,
    ⟨Varint.readGroups_eq_number? Varint.maxLength, peekLength_eq_of_reading buffer⟩, ?_⟩
  · intro hends hnotLong
    obtain ⟨spelling, more, rfl, hspelling, hshort⟩ := exists_spelling hends hnotLong
    have hhanded := peekLength_of_spelling hspelling hshort more
    have hfits := hspelling.value_lt_iff hshort
    have hread := readVarint_spelling hspelling hshort []
    have hreading := hspelling.reading_eq hshort []
    rw [List.append_nil] at hread hreading
    refine ⟨spelling, more, rfl, hspelling, hshort, hhanded, ?_, ?_⟩
    · intro hlarge
      rw [if_neg fun hsmall => hfits.1 hsmall hlarge] at hread
      exact ⟨hreading.1 hlarge, hread⟩
    · intro hsmall
      rw [if_pos (hfits.2 hsmall)] at hread
      have htold : Ahead (spelling ++ more) (.ok (some (Varint.value spelling, spelling.length))) :=
        .told ⟨hspelling, hshort, rfl, hfits.2 hsmall⟩
      exact ⟨hreading.2 hsmall, hread, htold.peekLength_eq⟩
  · intro n
    have hwritten := spells_write n
    refine ⟨hwritten.short, ?_⟩
    intro zeros hroom
    rw [(Ahead.told (hwritten.padded hroom)).peekLength_eq, (hwritten.isSpelling.padded zeros).2.2]

example : peekLength [0x81, 0x80, 0x00, 0xff] = .ok (some (1, 3)) := by rfl

end DebugBridge.Wire
