import Mathlib.Algebra.Group.Nat.Defs
import DebugBridge.Wire.Frame

/-!
# Base-128 numbers read back

Reading undoes writing, whatever follows, and the end of a written number is found at its last byte: that is
what lets a length stand in front of a message. The bound on a number of `more + 1` bytes is that the last one
holds a single bit, as it does for 64 bits in ten bytes.
-/

namespace DebugBridge.Wire.Varint

/-! ## Bytes -/

theorem continues_ofNat {n : Nat} (h : n < 256) : continues (UInt8.ofNat n) = decide (128 ≤ n) := by
  rw [continues, decide_eq_decide, UInt8.le_iff_toNat_le, UInt8.toNat_ofNat_of_lt' h]
  rfl

/-! ## Reading what was written -/

theorem readGroups_groups (more n : Nat) (rest : Bytes) (h : n < 2 * 128 ^ more) :
    readGroups (more + 1) (groups more n ++ rest) = some (n, rest) := by
  induction more generalizing n with
  | zero =>
    have hn : n = 0 ∨ n = 1 := by omega
    rcases hn with rfl | rfl <;> rfl
  | succ more ih =>
    unfold groups
    split
    · -- the last byte; nine more could have come, so it may hold all seven bits
      next hlast =>
      have hcont : continues (UInt8.ofNat n) = false := by
        rw [continues_ofNat (by omega)]
        simpa using hlast
      simp [readGroups, hcont, UInt8.toNat_ofNat_of_lt' (show n < 256 by omega)]
    · next hmore =>
      have hlow : n % 128 + 128 < 256 := by omega
      have hcont : continues (UInt8.ofNat (n % 128 + 128)) = true := by
        rw [continues_ofNat hlow]
        simp
      have hhigh : n / 128 < 2 * 128 ^ more := by
        rw [Nat.pow_succ] at h
        omega
      have hsum : n % 128 + 128 - 128 + 128 * (n / 128) = n := by omega
      rw [List.cons_append, readGroups, if_pos hcont, ih _ hhigh, UInt8.toNat_ofNat_of_lt' hlow]
      simp only [Option.map_some, hsum]

theorem toNat_lt_groups (n : UInt64) : n.toNat < 2 * 128 ^ (maxLength - 1) := by
  have h := n.toNat_lt
  simp only [maxLength]
  omega

/-- A number that was written is read back, and what follows it is left. -/
theorem read?_write (n : UInt64) (rest : Bytes) : read? (write n ++ rest) = some (n, rest) := by
  have h := readGroups_groups (maxLength - 1) n.toNat rest (toNat_lt_groups n)
  rw [read?, write]
  simp only [maxLength, Nat.add_one_sub_one] at h ⊢
  rw [h, Option.map_some, UInt64.ofNat_toNat]

theorem groups_ne_nil (more n : Nat) : groups more n ≠ [] := by
  cases more with
  | zero => simp [groups]
  | succ more =>
    unfold groups
    split <;> simp

theorem write_ne_nil (n : UInt64) : write n ≠ [] :=
  groups_ne_nil _ _

/-! ## How long a number is -/

theorem length_groups_mono (more : Nat) {m n : Nat} (hle : m ≤ n) :
    (groups more m).length ≤ (groups more n).length := by
  induction more generalizing m n with
  | zero => exact Nat.le_refl _
  | succ more ih =>
    have hhigh := ih (Nat.div_le_div_right (c := 128) hle)
    unfold groups
    split
    · exact List.length_pos_iff.2 (groups_ne_nil (more + 1) n)
    · rw [if_neg (by omega)]
      exact Nat.succ_le_succ hhigh

/-- A smaller number is no longer. -/
theorem length_write_mono {m n : UInt64} (hle : m ≤ n) : (write m).length ≤ (write n).length :=
  length_groups_mono _ (UInt64.le_iff_toNat_le.1 hle)

end DebugBridge.Wire.Varint
