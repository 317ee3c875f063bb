import DebugBridge.Proofs.Wire.Varint
import DebugBridge.Proofs.Wire.Chunking

/-!
# Spellings of a number

A number is spelled by bytes of which all but the last continue, and its value is told by the low seven bits of each.
What is read is this value, unless it needs more than 64 bits. The scan for the end of a length looks for such a spelling
among the first ten bytes: it finds the only one that a buffer can begin with, needs more bytes, or sees that there is
none. `Ahead` says which of these holds of a buffer, and `peekLength` gives it.
-/

namespace DebugBridge.Wire

namespace Varint

/-- The bytes of a number: all but the last continue. -/
inductive IsSpelling : Bytes → Prop
  | last {byte : UInt8} (ends : continues byte = false) : IsSpelling [byte]
  | more {byte : UInt8} {bytes : Bytes} (goesOn : continues byte = true) (later : IsSpelling bytes) :
      IsSpelling (byte :: bytes)

/-- The number that some bytes tell in groups of seven bits, low groups first. -/
def value : Bytes → Nat
  | [] => 0
  | byte :: bytes => byte.toNat % 128 + 128 * value bytes

theorem continues_iff {byte : UInt8} : continues byte = true ↔ 128 ≤ byte.toNat := by
  rw [continues, decide_eq_true_iff, UInt8.le_iff_toNat_le]
  exact Iff.rfl

theorem not_continues_iff {byte : UInt8} : continues byte = false ↔ byte.toNat < 128 := by
  rw [← Bool.not_eq_true, continues_iff, Nat.not_le]

namespace IsSpelling

variable {bytes : Bytes}

theorem length_pos (hspelling : IsSpelling bytes) : 0 < bytes.length := by
  cases hspelling <;> exact Nat.succ_pos _

/-- A number in `more + 1` bytes, of which the last may hold a single bit, is read if it is below the bound that this
sets. Whatever follows is left. -/
theorem readGroups_eq (hspelling : IsSpelling bytes) (more : Nat) (hshort : bytes.length ≤ more + 1) (rest : Bytes) :
    readGroups (more + 1) (bytes ++ rest)
      = if value bytes < 2 * 128 ^ more then some (value bytes, rest) else none := by
  induction hspelling generalizing more with
  | @last byte ends =>
    have hsmall := not_continues_iff.1 ends
    have hvalue : value [byte] = byte.toNat := by
      rw [value, value, Nat.mod_eq_of_lt hsmall]
      rfl
    rw [List.singleton_append, readGroups, ends, if_neg Bool.false_ne_true, hvalue]
    cases more with
    | zero =>
      have hbit : 1 < byte ↔ ¬ byte.toNat < 2 * 128 ^ 0 := by
        rw [UInt8.lt_iff_toNat_lt, Nat.not_lt]
        exact Iff.rfl
      by_cases hfits : byte.toNat < 2 * 128 ^ 0
      · rw [if_neg fun hlarge => hbit.1 hlarge.2 hfits, if_pos hfits]
      · rw [if_pos ⟨rfl, hbit.2 hfits⟩, if_neg hfits]
    | succ more =>
      have hfits : byte.toNat < 2 * 128 ^ (more + 1) := by
        have hpos := Nat.pow_pos (n := more) (show 0 < 128 by decide)
        rw [Nat.pow_succ]
        omega
      rw [if_neg (by omega), if_pos hfits]
  | @more byte bytes goesOn later ih =>
    obtain ⟨fewer, rfl⟩ : ∃ fewer, more = fewer + 1 := by
      have hpos := later.length_pos
      rw [List.length_cons] at hshort
      exact ⟨more - 1, by omega⟩
    have hlow : byte.toNat % 128 = byte.toNat - 128 := by
      have hlarge := continues_iff.1 goesOn
      have hmax := byte.toNat_lt
      omega
    have hfits : value (byte :: bytes) < 2 * 128 ^ (fewer + 1) ↔ value bytes < 2 * 128 ^ fewer := by
      rw [value, Nat.pow_succ]
      omega
    rw [List.cons_append, readGroups, goesOn, if_pos rfl, ih fewer (Nat.le_of_succ_le_succ hshort), value, hlow]
    rw [value, hlow] at hfits
    by_cases hlater : value bytes < 2 * 128 ^ fewer
    · rw [if_pos hlater, if_pos (hfits.2 hlater)]
      rfl
    · rw [if_neg hlater, if_neg fun hboth => hlater (hfits.1 hboth)]
      rfl

/-- The scan for the end of a number stops at its last byte. -/
theorem lastOfPrefix?_eq (hspelling : IsSpelling bytes) {within : Nat} (hshort : bytes.length ≤ within) (more : Bytes) :
    lastOfPrefix? within (bytes ++ more) = some (bytes.length - 1) := by
  induction hspelling generalizing within with
  | @last byte ends =>
    obtain ⟨fewer, rfl⟩ : ∃ fewer, within = fewer + 1 := ⟨within - 1, by rw [List.length_singleton] at hshort; omega⟩
    unfold lastOfPrefix?
    rw [List.singleton_append, List.take_succ_cons, List.findIdx?_cons, ends]
    rfl
  | @more byte bytes goesOn later ih =>
    rw [List.length_cons] at hshort
    obtain ⟨fewer, rfl⟩ : ∃ fewer, within = fewer + 1 := ⟨within - 1, by omega⟩
    have hlater := @ih fewer (by omega)
    have hpos := later.length_pos
    unfold lastOfPrefix? at hlater ⊢
    rw [List.cons_append, List.take_succ_cons, List.findIdx?_cons, goesOn, hlater]
    simp only [Bool.not_true, Bool.false_eq_true, if_false, Option.map_some, List.length_cons, Option.some.injEq]
    omega

end IsSpelling

/-- The groups of a number spell it, in one byte more than may stand before the last. -/
theorem groups_spell (more n : Nat) (hbound : n < 2 * 128 ^ more) :
    IsSpelling (groups more n) ∧ value (groups more n) = n ∧ (groups more n).length ≤ more + 1 := by
  have hlast : ∀ small < 128, IsSpelling [UInt8.ofNat small] ∧ value [UInt8.ofNat small] = small := by
    intro small hsmall
    have hnat : (UInt8.ofNat small).toNat = small := UInt8.toNat_ofNat_of_lt' (show small < 256 by omega)
    constructor
    · apply IsSpelling.last
      rw [not_continues_iff, hnat]
      exact hsmall
    · rw [value, value, hnat]
      omega
  induction more generalizing n with
  | zero =>
    obtain ⟨hspelling, hvalue⟩ := hlast n (by omega)
    exact ⟨hspelling, hvalue, Nat.le_refl 1⟩
  | succ more ih =>
    unfold groups
    split
    · next hsmall =>
      obtain ⟨hspelling, hvalue⟩ := hlast n hsmall
      exact ⟨hspelling, hvalue, Nat.le_add_left 1 _⟩
    · have hnat : (UInt8.ofNat (n % 128 + 128)).toNat = n % 128 + 128 :=
        UInt8.toNat_ofNat_of_lt' (show n % 128 + 128 < 256 by omega)
      have hhigh : n / 128 < 2 * 128 ^ more := by
        rw [Nat.pow_succ] at hbound
        omega
      obtain ⟨hspelling, hvalue, hlength⟩ := ih (n / 128) hhigh
      refine ⟨?_, ?_, Nat.succ_le_succ hlength⟩
      · apply IsSpelling.more _ hspelling
        rw [continues_iff, hnat]
        omega
      · rw [value, hvalue, hnat]
        omega

/-- Some bytes begin with a spelling that is not too long, or go on as far as one may. -/
theorem spelling_or_goes_on (within : Nat) (bytes : Bytes) :
    (∃ spelling more, bytes = spelling ++ more ∧ IsSpelling spelling ∧ spelling.length ≤ within) ∨
      ∀ byte ∈ bytes.take within, continues byte = true := by
  induction within generalizing bytes with
  | zero =>
    right
    intro byte hmem
    rw [List.take_zero] at hmem
    cases hmem
  | succ within ih =>
    cases bytes with
    | nil =>
      right
      intro byte hmem
      cases hmem
    | cons byte bytes =>
      cases hbyte : continues byte with
      | false => exact .inl ⟨[byte], bytes, rfl, .last hbyte, Nat.le_add_left 1 within⟩
      | true =>
        rcases ih bytes with ⟨spelling, more, rfl, hspelling, hshort⟩ | hall
        · exact .inl ⟨byte :: spelling, more, rfl, .more hbyte hspelling, Nat.succ_le_succ hshort⟩
        · right
          rw [List.take_succ_cons]
          exact List.forall_mem_cons.2 ⟨hbyte, hall⟩

end Varint

open Varint (IsSpelling)

/-- A spelling of at most ten bytes is read if it is a number of 64 bits. -/
theorem readVarint_spelling {spelling : Bytes} (hspelling : IsSpelling spelling)
    (hshort : spelling.length ≤ Varint.maxLength) (rest : Bytes) :
    readVarint (spelling ++ rest)
      = if Varint.value spelling < 2 ^ 64 then .ok (UInt64.ofNat (Varint.value spelling), rest)
        else .error { fault := .invalidVarint } := by
  have hread : Varint.readGroups Varint.maxLength (spelling ++ rest)
      = if Varint.value spelling < 2 ^ 64 then some (Varint.value spelling, rest) else none :=
    hspelling.readGroups_eq 9 hshort rest
  rw [readVarint, Varint.read?, hread]
  by_cases hfits : Varint.value spelling < 2 ^ 64
  · rw [if_pos hfits, if_pos hfits]
    rfl
  · rw [if_neg hfits, if_neg hfits]
    rfl

/-- The bytes of a number of 64 bits: a spelling of it that is not too long. -/
structure Spells (spelling : Bytes) (n : Nat) : Prop where
  isSpelling : IsSpelling spelling
  short : spelling.length ≤ Varint.maxLength
  value : Varint.value spelling = n
  fits : n < 2 ^ 64

/-- A number of 64 bits is read from any of its spellings, whatever follows. -/
theorem Spells.readVarint_eq {spelling : Bytes} {n : Nat} (hspells : Spells spelling n) (rest : Bytes) :
    readVarint (spelling ++ rest) = .ok (UInt64.ofNat n, rest) := by
  rw [readVarint_spelling hspells.isSpelling hspells.short, hspells.value, if_pos hspells.fits]

theorem spells_write (n : UInt64) : Spells (Varint.write n) n.toNat := by
  obtain ⟨hspelling, hvalue, hlength⟩ := Varint.groups_spell (Varint.maxLength - 1) n.toNat (Varint.toNat_lt_groups n)
  exact ⟨hspelling, hlength, hvalue, n.toNat_lt⟩

/-- What the front of a buffer tells of a length: nothing yet, that there is none, or the length and how many bytes spell
it. -/
inductive Ahead : Bytes → Except FrameError (Option (Nat × Nat)) → Prop
  | waits {buffer : Bytes} (short : buffer.length < Varint.maxLength)
      (goesOn : ∀ byte ∈ buffer, Varint.continues byte = true) : Ahead buffer (.ok none)
  | endless {start more : Bytes} (ten : start.length = Varint.maxLength)
      (goesOn : ∀ byte ∈ start, Varint.continues byte = true) : Ahead (start ++ more) (.error .prefixTooLong)
  | large {spelling more : Bytes} (isSpelling : IsSpelling spelling) (short : spelling.length ≤ Varint.maxLength)
      (large : 2 ^ 64 ≤ Varint.value spelling) :
      Ahead (spelling ++ more) (.error (.invalidPrefix { fault := .invalidVarint }))
  | told {spelling more : Bytes} {length : Nat} (spells : Spells spelling length) :
      Ahead (spelling ++ more) (.ok (some (length, spelling.length)))

/-- Nothing is found in a buffer whose first bytes go on. -/
theorem lastOfPrefix?_eq_none {within : Nat} {buffer : Bytes}
    (hgoesOn : ∀ byte ∈ buffer.take within, Varint.continues byte = true) : lastOfPrefix? within buffer = none := by
  unfold lastOfPrefix?
  rw [List.findIdx?_eq_none_iff]
  intro byte hmem
  rw [hgoesOn byte hmem]
  rfl

/-- The length at the front of a buffer is told as it stands there. -/
theorem Ahead.peekLength_eq {buffer : Bytes} {told : Except FrameError (Option (Nat × Nat))} (hahead : Ahead buffer told) :
    peekLength buffer = told := by
  cases hahead with
  | waits short goesOn =>
    have hnone : lastOfPrefix? Varint.maxLength buffer = none :=
      lastOfPrefix?_eq_none fun byte hmem => goesOn byte (List.mem_of_mem_take hmem)
    simp only [peekLength, hnone]
    exact if_neg (Nat.not_le.2 short)
  | @endless start more ten goesOn =>
    have htake : (start ++ more).take Varint.maxLength = start := by
      rw [← ten]
      exact List.take_left
    have hnone : lastOfPrefix? Varint.maxLength (start ++ more) = none :=
      lastOfPrefix?_eq_none (htake.symm ▸ goesOn)
    have hlong : Varint.maxLength ≤ (start ++ more).length := by
      rw [List.length_append, ten]
      exact Nat.le_add_right _ _
    simp only [peekLength, hnone]
    exact if_pos hlong
  | @large spelling more isSpelling short large =>
    have hread := readVarint_spelling isSpelling short []
    have hwidth : spelling.length - 1 + 1 = spelling.length := Nat.sub_add_cancel isSpelling.length_pos
    rw [List.append_nil, if_neg (Nat.not_lt.2 large)] at hread
    simp only [peekLength, isSpelling.lastOfPrefix?_eq short, hwidth, List.take_left, hread]
  | @told spelling more length spells =>
    obtain ⟨isSpelling, short, rfl, fits⟩ := spells
    have hread := readVarint_spelling isSpelling short []
    have hwidth : spelling.length - 1 + 1 = spelling.length := Nat.sub_add_cancel isSpelling.length_pos
    rw [List.append_nil, if_pos fits] at hread
    simp only [peekLength, isSpelling.lastOfPrefix?_eq short, hwidth, List.take_left, hread,
      UInt64.toNat_ofNat_of_lt' fits]

/-- There is something to be told of every buffer. -/
theorem ahead_peekLength (buffer : Bytes) : Ahead buffer (peekLength buffer) := by
  suffices hexists : ∃ told, Ahead buffer told by
    obtain ⟨told, hahead⟩ := hexists
    exact hahead.peekLength_eq ▸ hahead
  rcases Varint.spelling_or_goes_on Varint.maxLength buffer with ⟨spelling, more, rfl, hspelling, hshort⟩ | hgoesOn
  · by_cases hfits : Varint.value spelling < 2 ^ 64
    · exact ⟨_, .told ⟨hspelling, hshort, rfl, hfits⟩⟩
    · exact ⟨_, .large hspelling hshort (Nat.not_lt.1 hfits)⟩
  · by_cases hshort : buffer.length < Varint.maxLength
    · rw [List.take_of_length_le (Nat.le_of_lt hshort)] at hgoesOn
      exact ⟨_, .waits hshort hgoesOn⟩
    · have hten : (buffer.take Varint.maxLength).length = Varint.maxLength :=
        List.length_take_of_le (Nat.not_lt.1 hshort)
      rw [← List.take_append_drop Varint.maxLength buffer]
      exact ⟨_, .endless hten hgoesOn⟩

end DebugBridge.Wire
