import DebugBridge.Proofs.Adapter.Lines
import DebugBridge.Proofs.Json.RoundTrip

/-!
# Values behind their headers

A value that is written is read back, and what is behind it is left, whether or not the stream has ended. So values that
are written one after another are read back one after another, and then the stream has ended between two messages.
-/

namespace DebugBridge.Adapter

open Decimal (digits)
open Json (digitBytes Is64Bit)

/-- The header line of a body of this length. -/
def lengthHeader (n : Nat) : String :=
  "Content-Length: " ++ String.ofList (digits n)

/-! ## The header -/

theorem digits_ascii (n : Nat) : ∀ c ∈ digits n, c.toNat < 128 := by
  intro c hc
  have hdigit := Decimal.toNat_of_isDecimal (Decimal.digits_isDecimal n c hc)
  omega

theorem encode_lengthHeader (n : Nat) :
    Utf8.encode (lengthHeader n) = Utf8.encode "Content-Length: " ++ digitBytes (digits n) := by
  have happend := Utf8.encode_append "Content-Length: " (String.ofList (digits n))
  have hdigits := Utf8.encode_ofList (digits_ascii n)
  exact happend.trans (congrArg (Utf8.encode "Content-Length: " ++ ·) hdigits)

theorem writeValue_eq (json : Json) : writeValue json =
    Utf8.encode (lengthHeader json.encode.length) ++ [0x0D] ++ 0x0A :: ([0x0D] ++ 0x0A :: json.encode) := by
  rw [encode_lengthHeader, writeValue]
  simp [digitBytes]

theorem isBlank_of_isDecimal {c : Char} (hdigit : Decimal.IsDecimal c) : Text.isBlank c = false := by
  have hrange := Decimal.toNat_of_isDecimal hdigit
  simp only [Text.isBlank, Bool.or_eq_false_iff, Bool.and_eq_false_iff, decide_eq_false_iff_not]
  omega

/-- Nothing is trimmed of digits, but a blank in front of them. -/
theorem trimChars_digits (n : Nat) : Text.trimChars (' ' :: digits n) = digits n := by
  -- No digit is blank, so neither end of the digits is trimmed.
  have hkept : ∀ {text : List Char}, (∀ c ∈ text, Text.isBlank c = false) → text.dropWhile Text.isBlank = text := by
    intro text htext
    cases text with
    | nil => rfl
    | cons c text => exact List.dropWhile_cons_of_neg (by simp [htext c List.mem_cons_self])
  have hdigits : ∀ c ∈ digits n, Text.isBlank c = false := fun c hc =>
    isBlank_of_isDecimal (Decimal.digits_isDecimal n c hc)
  rw [Text.trimChars, List.dropWhile_cons_of_pos (by decide), hkept hdigits, Text.dropBlanksRight,
    hkept fun c hc => hdigits c (List.mem_reverse.1 hc), List.reverse_reverse]

/-- The header tells the length. -/
theorem contentLength?_lengthHeader {n : Nat} (hn : n ≤ maxMessageBytes) :
    contentLength? (lengthHeader n) = .ok (some n) := by
  have hchars : (lengthHeader n).toList = "Content-Length: ".toList ++ (String.ofList (digits n)).toList :=
    String.toList_append
  have hsplit : splitAtColon (lengthHeader n).toList = some ("Content-Length".toList, ' ' :: digits n) :=
    splitAtColon_eq_some_iff.2 ⟨by simp [hchars], by decide⟩
  have hname : (Text.trimChars "Content-Length".toList).map lowerAscii = "content-length".toList := by decide
  have hlength := Decimal.parseLength_digits (Nat.le_trans hn (by decide))
  rw [contentLength?, hsplit]
  dsimp only
  rw [if_pos hname, trimChars_digits, hlength]
  exact if_neg (Nat.not_lt.2 hn)

theorem lengthHeader_lines {n : Nat} (hn : n ≤ maxMessageBytes) :
    0x0A ∉ Utf8.encode (lengthHeader n) ∧ (Utf8.encode (lengthHeader n)).length ≤ 24 := by
  rw [encode_lengthHeader]
  have hname : 0x0A ∉ Utf8.encode "Content-Length: " ∧ (Utf8.encode "Content-Length: ").length = 16 := by
    decide +kernel
  constructor
  · intro hmem
    rcases List.mem_append.1 hmem with hmem | hmem
    · exact hname.1 hmem
    · -- A digit is no line feed.
      obtain ⟨c, hc, heq⟩ := List.mem_map.1 hmem
      obtain ⟨hlow, hhigh⟩ := Decimal.toNat_of_isDecimal (Decimal.digits_isDecimal n c hc)
      have htoNat := congrArg UInt8.toNat heq
      rw [UInt8.toNat_ofNat', Nat.mod_eq_of_lt (by omega)] at htoNat
      have hfeed : (0x0A : UInt8).toNat = 10 := rfl
      omega
  · -- The largest length that is told has eight digits.
    have hdigits : (digits n).length ≤ 7 + 1 :=
      Decimal.length_digits_le (Nat.lt_of_le_of_lt hn (by decide))
    rw [List.length_append, hname.2, digitBytes, List.length_map]
    omega

/-! ## One value -/

/-- A line is taken up to its line feed. -/
theorem takeLine_line {most : Nat} {text : Bytes} (htext : 0x0A ∉ text) (hmost : text.length < most) (rest : Bytes) :
    takeLine most (text ++ 0x0A :: rest) = (text ++ [0x0A], rest) := by
  induction text generalizing most with
  | nil =>
    obtain ⟨most, rfl⟩ : ∃ less, most = less + 1 := ⟨most - 1, by omega⟩
    rfl
  | cons byte text ih =>
    obtain ⟨most, rfl⟩ : ∃ less, most = less + 1 := ⟨most - 1, by omega⟩
    have hbyte : byte ≠ 0x0A := fun heq => htext (heq ▸ List.mem_cons_self)
    rw [List.cons_append, takeLine_cons, if_neg hbyte,
      ih (fun hmem => htext (List.mem_cons_of_mem _ hmem)) (Nat.lt_of_succ_lt_succ hmost)]
    rfl

theorem stripEnding_crlf (text : Bytes) : stripEnding (text ++ [0x0D] ++ [0x0A]) = text := by
  simp [stripEnding, dropLast]

/-- The reader feeds a line that ends as lines are written. -/
theorem readHeaders_crlf (ended : Bool) (most : Nat) (block : HeaderBlock) {text : Bytes} (htext : 0x0A ∉ text)
    (hshort : text.length ≤ 24) (rest : Bytes) :
    readHeaders ended (most + 1) block (text ++ [0x0D] ++ 0x0A :: rest) =
      match block.feed text with
      | .error error => .failed error rest
      | .ok (.inr length) => .item length rest
      | .ok (.inl block) => readHeaders ended most block rest := by
  have hline : takeLine (maxHeaderLine + 1) (text ++ [0x0D] ++ 0x0A :: rest) = (text ++ [0x0D] ++ [0x0A], rest) := by
    refine takeLine_line (by simp [htext]) ?_ rest
    rw [List.length_append, List.length_singleton, maxHeaderLine]
    omega
  have hlength : (text ++ [0x0D] ++ [0x0A]).length ≤ maxHeaderLine := by
    rw [List.length_append, List.length_append, List.length_singleton, List.length_singleton, maxHeaderLine]
    omega
  rw [readHeaders, hline]
  dsimp only
  rw [if_neg (Nat.not_lt.2 hlength), List.getLast?_concat, if_neg (by simp), stripEnding_crlf]
  exact if_neg (by simp)

/-- The body of a value that was written is taken, and what follows is left. -/
theorem readBody_writeValue (ended : Bool) {json : Json} (hsize : json.encode.length ≤ maxMessageBytes) (rest : Bytes) :
    readBody ended (writeValue json ++ rest) = .item json.encode rest := by
  obtain ⟨hfeed, hshort⟩ := lengthHeader_lines hsize
  have hheader : ({} : HeaderBlock).feed (Utf8.encode (lengthHeader json.encode.length))
      = .ok (.inl { started := true, length := some json.encode.length }) := by
    have hne : Utf8.encode (lengthHeader json.encode.length) ≠ [] := by
      rw [encode_lengthHeader]
      exact List.append_ne_nil_of_left_ne_nil (by decide +kernel) _
    rw [HeaderBlock.feed, if_neg hne, Utf8.decode?_encode]
    dsimp only
    rw [contentLength?_lengthHeader hsize]
    rfl
  -- One line with the length, and an empty one that ends the block.
  have hbytes : writeValue json ++ rest = Utf8.encode (lengthHeader json.encode.length) ++ [0x0D]
      ++ 0x0A :: ([] ++ [0x0D] ++ 0x0A :: (json.encode ++ rest)) := by
    simp [writeValue_eq]
  obtain ⟨most, hmost⟩ : ∃ most, (writeValue json ++ rest).length + 1 = most + 1 + 1 := by
    refine ⟨(writeValue json ++ rest).length - 1, ?_⟩
    rw [hbytes]
    simp
    omega
  rw [readBody, hmost, hbytes, readHeaders_crlf ended _ _ hfeed hshort, hheader]
  dsimp only
  rw [readHeaders_crlf ended _ _ (by simp) (by simp)]
  simp [HeaderBlock.feed, Reading.andThen]

/-- A plain value that was written is read back, in order, and what follows is left. -/
theorem readValue_writeValue (ended : Bool) {json : Json} (hplain : json.Plain Json.maxDepth)
    (hintegers : ∀ n ∈ json.integers, Is64Bit n) (hsize : json.encode.length ≤ maxMessageBytes) (rest : Bytes) :
    readValue ended (writeValue json ++ rest) = .item json.sorted rest := by
  rw [readValue, readBody_writeValue ended hsize]
  dsimp only [Reading.andThen]
  rw [Json.parse_encode hplain hintegers]

/-! ## Values one after another -/

/-- A stream that has ended holds these values, and ends between two messages. -/
inductive Reads : Bytes → List Json → Prop where
  | done {bytes : Bytes} : readValue true bytes = .finished → Reads bytes []
  | next {bytes rest : Bytes} {json : Json} {more : List Json} :
      readValue true bytes = .item json rest → Reads rest more → Reads bytes (json :: more)

/-- There is one way to read a stream. -/
theorem Reads.unique {bytes : Bytes} {values others : List Json} (hreads : Reads bytes values)
    (hothers : Reads bytes others) : values = others := by
  induction hreads generalizing others with
  | done hread =>
    cases hothers with
    | done => rfl
    | next hother => exact absurd (hread.symm.trans hother) nofun
  | next hread _ ih =>
    cases hothers with
    | done hother => exact absurd (hread.symm.trans hother) nofun
    | next hother hmore =>
      cases hread.symm.trans hother
      rw [ih hmore]

/-- What the parser can read back of a value and the header can tell: 64-bit integers and a body within the limit. -/
structure Fits (json : Json) : Prop where
  integers : ∀ n ∈ json.integers, Is64Bit n
  size : json.encode.length ≤ maxMessageBytes

/-- Plain values that were written are read back, each in order, and then the stream has ended. -/
theorem reads_writeValue {values : List Json} (hplain : ∀ json ∈ values, json.Plain Json.maxDepth)
    (hfits : ∀ json ∈ values, Fits json) : Reads (values.flatMap writeValue) (values.map Json.sorted) := by
  induction values with
  | nil => exact .done rfl
  | cons json more ih =>
    have hjson := hfits json List.mem_cons_self
    rw [List.flatMap_cons, List.map_cons]
    refine .next (readValue_writeValue true (hplain json List.mem_cons_self) hjson.integers hjson.size _) ?_
    exact ih (fun other hmem => hplain other (List.mem_cons_of_mem _ hmem)) fun other hmem =>
      hfits other (List.mem_cons_of_mem _ hmem)

/-- What is read of them is exactly this. -/
theorem reads_writeValue_iff {values : List Json} (hplain : ∀ json ∈ values, json.Plain Json.maxDepth)
    (hfits : ∀ json ∈ values, Fits json) (found : List Json) :
    Reads (values.flatMap writeValue) found ↔ found = values.map Json.sorted := by
  have hreads := reads_writeValue hplain hfits
  constructor
  · intro hfound
    exact hfound.unique hreads
  · rintro rfl
    exact hreads

end DebugBridge.Adapter
