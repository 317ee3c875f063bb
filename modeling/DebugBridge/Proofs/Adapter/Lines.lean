import DebugBridge.Adapter.Framing
import DebugBridge.Proofs.Text.Decimal

/-!
# Header lines

How a byte string falls into lines, which line the reader takes, and which lengths a header line tells. A length is told
by a line whose name, up to blanks and the case of ASCII letters, is `Content-Length`; it is digits after an optional
plus, and no more than the largest body.
-/

namespace DebugBridge.Adapter

/-! ## Lines -/

/-- The lines of a byte string, each with the line feed that ends it; the last one may have none. -/
def lines : Bytes → List Bytes
  | [] => []
  | byte :: bytes =>
    if byte = 0x0A then [byte] :: lines bytes
    else
      match lines bytes with
      | [] => [[byte]]
      | line :: more => (byte :: line) :: more

@[simp] theorem lines_nil : lines [] = [] := rfl

/-- A byte is a line of its own if it is a line feed, and else belongs to the first line of what follows. -/
theorem lines_byte (byte : UInt8) (bytes : Bytes) : lines (byte :: bytes) =
    if byte = 0x0A then [byte] :: lines bytes
    else
      match lines bytes with
      | [] => [[byte]]
      | line :: more => (byte :: line) :: more := rfl

@[simp] theorem lines_eq_nil {bytes : Bytes} : lines bytes = [] ↔ bytes = [] := by
  cases bytes with
  | nil => simp
  | cons byte bytes =>
    rw [lines_byte]
    split
    · simp
    · split <;> simp

/-- The lines are the whole byte string. -/
theorem flatten_lines (bytes : Bytes) : (lines bytes).flatten = bytes := by
  induction bytes with
  | nil => rfl
  | cons byte bytes ih =>
    rw [lines_byte]
    split
    · rw [List.flatten_cons, ih, List.singleton_append]
    · split
      · next hnone =>
        rw [hnone] at ih
        rw [← ih]
        rfl
      · next line more hlines =>
        rw [hlines, List.flatten_cons] at ih
        rw [List.flatten_cons, List.cons_append, ih]

/-- What comes first is a line, with a line feed only at its end, and without one only if nothing comes after it. -/
theorem lines_cons {bytes line : Bytes} {more : List Bytes} (hlines : lines bytes = line :: more) :
    lines more.flatten = more ∧
      ∃ text, 0x0A ∉ text ∧ (line = text ++ [0x0A] ∨ line = text ∧ text ≠ [] ∧ more = []) := by
  induction bytes generalizing line more with
  | nil => simp at hlines
  | cons byte bytes ih =>
    rw [lines_byte] at hlines
    split at hlines
    · next hfeed =>
      obtain ⟨rfl, rfl⟩ := List.cons.inj hlines
      exact ⟨by rw [flatten_lines], [], by simp, .inl (by rw [hfeed]; rfl)⟩
    · next hother =>
      split at hlines
      · obtain ⟨rfl, rfl⟩ := List.cons.inj hlines
        exact ⟨rfl, [byte], by simpa [eq_comm] using hother, .inr ⟨rfl, by simp, rfl⟩⟩
      · next first others hrest =>
        obtain ⟨rfl, rfl⟩ := List.cons.inj hlines
        obtain ⟨hothers, text, hnot, hends⟩ := ih hrest
        refine ⟨hothers, byte :: text, by simpa [eq_comm, hnot] using hother, ?_⟩
        rcases hends with rfl | ⟨rfl, -, rfl⟩
        · exact .inl rfl
        · exact .inr ⟨rfl, by simp, rfl⟩

theorem takeLine_cons (most : Nat) (byte : UInt8) (rest : Bytes) : takeLine (most + 1) (byte :: rest) =
    if byte = 0x0A then ([byte], rest) else (byte :: (takeLine most rest).1, (takeLine most rest).2) := rfl

/-- A line that is short enough is taken as a whole. -/
theorem takeLine_of_le {bytes line : Bytes} {more : List Bytes} (hlines : lines bytes = line :: more) {most : Nat}
    (hshort : line.length ≤ most) : takeLine most bytes = (line, more.flatten) := by
  induction bytes generalizing line more most with
  | nil => simp at hlines
  | cons byte bytes ih =>
    rw [lines_byte] at hlines
    cases most with
    | zero =>
      obtain rfl := List.eq_nil_of_length_eq_zero (Nat.le_zero.1 hshort)
      split at hlines
      · simp at hlines
      · split at hlines <;> simp at hlines
    | succ most =>
      rw [takeLine_cons]
      split
      · next hfeed =>
        rw [if_pos hfeed] at hlines
        obtain ⟨rfl, rfl⟩ := List.cons.inj hlines
        rw [flatten_lines]
      · next hother =>
        rw [if_neg hother] at hlines
        split at hlines
        · next hnone =>
          obtain ⟨rfl, rfl⟩ := List.cons.inj hlines
          rw [lines_eq_nil] at hnone
          subst hnone
          cases most <;> rfl
        · next first others hrest =>
          obtain ⟨rfl, rfl⟩ := List.cons.inj hlines
          rw [ih hrest (Nat.le_of_succ_le_succ hshort)]

/-- Of a line that is too long only so many bytes are taken. -/
theorem length_takeLine {bytes line : Bytes} {more : List Bytes} (hlines : lines bytes = line :: more) {most : Nat}
    (hlong : most ≤ line.length) : (takeLine most bytes).1.length = most := by
  induction bytes generalizing line more most with
  | nil => simp at hlines
  | cons byte bytes ih =>
    cases most with
    | zero => rfl
    | succ most =>
      rw [lines_byte] at hlines
      rw [takeLine_cons]
      split
      · next hfeed =>
        rw [if_pos hfeed] at hlines
        obtain ⟨rfl, -⟩ := List.cons.inj hlines
        obtain rfl : most = 0 := by simpa using hlong
        rfl
      · next hother =>
        rw [if_neg hother] at hlines
        dsimp only
        rw [List.length_cons]
        split at hlines
        · obtain ⟨rfl, -⟩ := List.cons.inj hlines
          obtain rfl : most = 0 := by simpa using hlong
          rfl
        · next first others hrest =>
          obtain ⟨rfl, -⟩ := List.cons.inj hlines
          rw [ih hrest (Nat.le_of_succ_le_succ hlong)]

theorem length_takeLine_le (most : Nat) (bytes : Bytes) : (takeLine most bytes).1.length ≤ most := by
  induction bytes generalizing most with
  | nil => cases most <;> exact Nat.zero_le _
  | cons byte bytes ih =>
    cases most with
    | zero => exact Nat.le_refl _
    | succ most =>
      rw [takeLine_cons]
      split
      · exact Nat.succ_le_succ (Nat.zero_le _)
      · exact Nat.succ_le_succ (ih most)

/-- What is taken and what follows are the whole. -/
theorem takeLine_append (most : Nat) (bytes : Bytes) : (takeLine most bytes).1 ++ (takeLine most bytes).2 = bytes := by
  induction bytes generalizing most with
  | nil => cases most <;> rfl
  | cons byte bytes ih =>
    cases most with
    | zero => rfl
    | succ most =>
      rw [takeLine_cons]
      split
      · rfl
      · exact congrArg (byte :: ·) (ih most)

/-- A line that was taken to its line feed, or to the limit, is the same whatever follows. -/
theorem takeLine_of_complete {most : Nat} {bytes : Bytes}
    (hcomplete : (takeLine most bytes).1.getLast? = some 0x0A ∨ (takeLine most bytes).1.length = most) (more : Bytes) :
    takeLine most (bytes ++ more) = ((takeLine most bytes).1, (takeLine most bytes).2 ++ more) := by
  fun_induction takeLine with
  | case1 bytes => rfl
  | case2 most => simp at hcomplete
  | case3 most rest => rfl
  | case4 most byte rest hother line rest' htake ih =>
    have hrest : line.getLast? = some 0x0A ∨ line.length = most := by
      rcases hcomplete with hfeed | hlimit
      · cases line with
        | nil =>
          rw [List.getLast?_singleton, Option.some.injEq] at hfeed
          exact absurd hfeed hother
        | cons first line => exact .inl (by rwa [List.getLast?_cons_cons] at hfeed)
      · exact .inr (Nat.succ.inj hlimit)
    rw [htake] at ih
    rw [List.cons_append, takeLine_cons, if_neg hother, ih hrest]

/-! ## Header lines -/

/-- A header line of this kind, with its value: what stands before the first colon is `Content-Length`, up to blanks around
it and the case of its ASCII letters. -/
def TellsLength (line : String) (value : List Char) : Prop :=
  ∃ name, line.toList = name ++ ':' :: value ∧ ':' ∉ name ∧
    (Text.trimChars name).map lowerAscii = "content-length".toList

theorem splitAtColon_cons (c : Char) (rest : List Char) :
    splitAtColon (c :: rest)
      = if c = ':' then some ([], rest) else (splitAtColon rest).map fun (name, value) => (c :: name, value) := by
  by_cases hcolon : c = ':'
  · simp [splitAtColon, hcolon]
  · unfold splitAtColon
    rw [List.dropWhile_cons_of_pos (by simpa using hcolon), List.takeWhile_cons_of_pos (by simpa using hcolon),
      if_neg hcolon]
    split <;> rfl

theorem splitAtColon_eq_some_iff {text name value : List Char} :
    splitAtColon text = some (name, value) ↔ text = name ++ ':' :: value ∧ ':' ∉ name := by
  induction text generalizing name with
  | nil => simp [splitAtColon]
  | cons c rest ih =>
    rw [splitAtColon_cons]
    split
    · next hcolon =>
      subst hcolon
      constructor
      · intro h
        obtain ⟨rfl, rfl⟩ := Prod.mk.inj (Option.some.inj h)
        exact ⟨rfl, by simp⟩
      · rintro ⟨heq, hnot⟩
        cases name with
        | nil => rw [(List.cons.inj heq).2]
        | cons first name => exact absurd ((List.cons.inj heq).1 ▸ List.mem_cons_self) hnot
    · next hcolon =>
      constructor
      · intro h
        obtain ⟨⟨others, after⟩, hrest, heq⟩ := Option.map_eq_some_iff.1 h
        obtain ⟨rfl, rfl⟩ := Prod.mk.inj heq
        obtain ⟨rfl, hnot⟩ := ih.1 hrest
        exact ⟨rfl, by simp [hnot, Ne.symm hcolon]⟩
      · rintro ⟨heq, hnot⟩
        cases name with
        | nil => exact absurd (List.cons.inj heq).1 hcolon
        | cons first name =>
          obtain ⟨rfl, hrest⟩ := List.cons.inj heq
          rw [ih.2 ⟨hrest, fun h => hnot (List.mem_cons_of_mem _ h)⟩]
          rfl

/-- A header line has one value, or none. -/
theorem tellsLength_iff {line : String} {value : List Char} : TellsLength line value ↔ ∃ name,
    splitAtColon line.toList = some (name, value) ∧ (Text.trimChars name).map lowerAscii = "content-length".toList := by
  simp only [TellsLength, splitAtColon_eq_some_iff, and_assoc]

/-- What a header line tells: nothing if it is of another kind, and else a length, or an error if there is none that is
small enough. -/
inductive Header (line : String) : Except ReadError (Option Nat) → Prop
  | other (unnamed : ∀ value, ¬ TellsLength line value) : Header line (.ok none)
  | length {value : List Char} {n : Nat} (named : TellsLength line value)
      (only : ∀ other, TellsLength line other → other = value) (reads : Decimal.IsLength (Text.trimChars value) n)
      (fits : n ≤ maxMessageBytes) : Header line (.ok (some n))
  | bad {value : List Char} {error : ReadError} (named : TellsLength line value)
      (only : ∀ other, TellsLength line other → other = value)
      (none : ∀ n ≤ maxMessageBytes, ¬ Decimal.IsLength (Text.trimChars value) n) (causeless : error.hasCause = false) :
      Header line (.error error)

theorem contentLength?_header (line : String) : Header line (contentLength? line) := by
  unfold contentLength?
  split
  · next hnone =>
    refine .other fun value htells => ?_
    obtain ⟨name, hsome, -⟩ := tellsLength_iff.1 htells
    rw [hnone] at hsome
    cases hsome
  · next name value hsplit =>
    split
    · next hname =>
      have hself : TellsLength line value := tellsLength_iff.2 ⟨name, hsplit, hname⟩
      have honly : ∀ other, TellsLength line other → other = value := by
        intro other hother
        obtain ⟨name', hsplit', -⟩ := tellsLength_iff.1 hother
        rw [hsplit] at hsplit'
        exact (Prod.mk.inj (Option.some.inj hsplit')).2.symm
      -- A length that is small enough would be read.
      have hread : ∀ n ≤ maxMessageBytes, Decimal.IsLength (Text.trimChars value) n →
          Decimal.parseLength (Text.trimChars value) = .ok n := fun n hsmall hn =>
        Decimal.parseLength_eq_ok_iff.2 ⟨hn, Nat.le_trans hsmall (by decide)⟩
      dsimp only
      cases hparse : Decimal.parseLength (Text.trimChars value) with
      | error error =>
        refine .bad hself honly (fun n hsmall hn => ?_) rfl
        have hok := hread n hsmall hn
        rw [hparse] at hok
        cases hok
      | ok n =>
        dsimp only
        split
        · next hlarge =>
          refine .bad hself honly (fun m hsmall hm => ?_) rfl
          have hok := hread m hsmall hm
          rw [hparse] at hok
          cases hok
          exact absurd hlarge (Nat.not_lt.2 hsmall)
        · next hfits => exact .length hself honly (Decimal.parseLength_eq_ok_iff.1 hparse).1 (Nat.not_lt.1 hfits)
    · next hother =>
      refine .other fun value' htells => ?_
      obtain ⟨name', hsplit', hname⟩ := tellsLength_iff.1 htells
      rw [hsplit] at hsplit'
      obtain ⟨rfl, rfl⟩ := Prod.mk.inj (Option.some.inj hsplit')
      exact hother hname

end DebugBridge.Adapter
