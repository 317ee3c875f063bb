import DebugBridge.Proofs.Adapter.Lines

/-!
# What the reader takes for a message

The front of a stream that has ended is described by its lines: empty ones, the headers, an empty line that closes the block,
and what comes after that. The reader follows this description, line by line and with a limit on what it looks at
(`values_follow_the_grammar`).
-/

namespace DebugBridge.Adapter

/-! ## Blocks -/

/-- Whether there is nothing on a line but its end. -/
def isEmptyLine (line : Bytes) : Bool :=
  stripEnding line == []

/-- A header block: its lines, and what comes after the empty line that closes it, if there is one. -/
structure Block where
  headers : List Bytes
  after : Option Bytes

/-- The block at the front, after any number of empty lines. -/
def Block.front (bytes : Bytes) : Block :=
  let started := (lines bytes).dropWhile isEmptyLine
  { headers := started.takeWhile (!isEmptyLine ·)
    after := (started.dropWhile (!isEmptyLine ·)).tail?.map List.flatten }

/-- What a line of a block tells. -/
def told (line : Bytes) : Except ReadError (Option Nat) :=
  if maxHeaderLine < line.length then .error .headerLineTooLong
  else
    match Utf8.decode? (stripEnding line) with
    | none => .error .headerNotUtf8
    | some text => contentLength? text

/-- The length of the body, which is the last one told, and what comes after the block; or the first error. -/
def Block.verdict (block : Block) : Except ReadError (Nat × Bytes) := do
  let lengths ← block.headers.mapM told
  match block.after, lengths.reduceOption.getLast? with
  | none, _ => .error .endInHeaders
  | some _, none => .error .missingLength
  | some rest, some length => .ok (length, rest)

/-! ## Line by line -/

/-- The verdict on what is left of a block, when this length was told last. -/
def scan (length : Option Nat) : List Bytes → Except ReadError (Nat × Bytes)
  | [] => .error .endInHeaders
  | line :: more =>
    if isEmptyLine line then
      match length with
      | none => .error .missingLength
      | some length => .ok (length, more.flatten)
    else (told line).bind fun next => scan (next.or length) more

/-- Going through the lines one by one comes to the same verdict. -/
theorem scan_eq (length : Option Nat) (rest : List Bytes) :
    scan length rest = ((rest.takeWhile (!isEmptyLine ·)).mapM told).bind fun lengths =>
      match (rest.dropWhile (!isEmptyLine ·)).tail?.map List.flatten, lengths.reduceOption.getLast?.or length with
      | none, _ => .error .endInHeaders
      | some _, none => .error .missingLength
      | some rest, some length => .ok (length, rest) := by
  induction rest generalizing length with
  | nil => rfl
  | cons line more ih =>
    unfold scan
    split
    · next hempty =>
      rw [List.takeWhile_cons_of_neg (by simp [hempty]), List.dropWhile_cons_of_neg (by simp [hempty])]
      cases length <;> rfl
    · next hheader =>
      rw [List.takeWhile_cons_of_pos (by simp [hheader]), List.dropWhile_cons_of_pos (by simp [hheader]), List.mapM_cons]
      cases htold : told line with
      | error error => rfl
      | ok next =>
        have hnext : scan (next.or length) more = _ := ih (next.or length)
        simp only [Except.bind]
        rw [hnext]
        cases hmore : (more.takeWhile (!isEmptyLine ·)).mapM told with
        | error error => rfl
        | ok lengths =>
          have hlast : (next :: lengths).reduceOption.getLast?.or length
              = lengths.reduceOption.getLast?.or (next.or length) := by
            cases next with
            | none => rfl
            | some n =>
              have hcons : (some n :: lengths).reduceOption = n :: lengths.reduceOption := rfl
              rw [hcons]
              cases hreduced : lengths.reduceOption with
              | nil => rfl
              | cons first others =>
                rw [List.getLast?_cons_cons]
                cases hlast : (first :: others).getLast? with
                | none => simp at hlast
                | some last => rfl
          simp only [Except.bind, bind, pure, Except.pure, hlast]

/-! ## What the reader does -/

theorem feed_of_empty {block : HeaderBlock} {line : Bytes} (hempty : isEmptyLine line = true) :
    block.feed (stripEnding line) =
      if !block.started then .ok (.inl block)
      else match block.length with
        | some length => .ok (.inr length)
        | none => .error .missingLength := by
  have hnil : stripEnding line = [] := by simpa [isEmptyLine] using hempty
  unfold HeaderBlock.feed
  exact if_pos hnil

theorem feed_of_header {block : HeaderBlock} {line : Bytes} (hheader : isEmptyLine line = false)
    (hshort : line.length ≤ maxHeaderLine) :
    block.feed (stripEnding line) =
      (told line).map fun next => .inl { started := true, length := next.or block.length } := by
  have hne : stripEnding line ≠ [] := by simpa [isEmptyLine] using hheader
  unfold HeaderBlock.feed told
  rw [if_neg hne, if_neg (Nat.not_lt.2 hshort)]
  cases Utf8.decode? (stripEnding line) with
  | none => rfl
  | some text =>
    dsimp only
    cases contentLength? text <;> rfl

/-- What the reader does with a line: it refuses one that is too long, and feeds another one to the block. -/
theorem readHeaders_line {bytes line : Bytes} {more : List Bytes} (hlines : lines bytes = line :: more) (most : Nat)
    (block : HeaderBlock) :
    (maxHeaderLine < line.length ∧ ∃ rest, rest <:+ bytes ∧
      readHeaders true (most + 1) block bytes = .failed .headerLineTooLong rest) ∨
    (line.length ≤ maxHeaderLine ∧
      readHeaders true (most + 1) block bytes =
        match block.feed (stripEnding line) with
        | .error error => .failed error more.flatten
        | .ok (.inr length) => .item length more.flatten
        | .ok (.inl block) => readHeaders true most block more.flatten) := by
  rw [readHeaders]
  by_cases hlong : maxHeaderLine < line.length
  · refine .inl ⟨hlong, (takeLine (maxHeaderLine + 1) bytes).2, ⟨_, takeLine_append _ _⟩, ?_⟩
    dsimp only
    rw [if_pos (by rw [length_takeLine hlines hlong]; exact Nat.lt_succ_self _)]
  · have hshort := Nat.not_lt.1 hlong
    have hne : line ≠ [] := by
      obtain ⟨-, text, -, rfl | ⟨rfl, htext, -⟩⟩ := lines_cons hlines
      · simp
      · exact htext
    refine .inr ⟨hshort, ?_⟩
    rw [takeLine_of_le hlines (Nat.le_succ_of_le hshort)]
    dsimp only
    rw [if_neg hlong, Bool.not_true, Bool.and_false, if_neg (by decide)]
    exact if_neg hne

/-- What follows a line. -/
theorem flatten_of_lines {bytes line : Bytes} {more : List Bytes} (hlines : lines bytes = line :: more) :
    lines more.flatten = more ∧ more.flatten <:+ bytes ∧ more.flatten.length < bytes.length := by
  obtain ⟨hmore, text, -, hends⟩ := lines_cons hlines
  have hwhole := flatten_lines bytes
  rw [hlines, List.flatten_cons] at hwhole
  refine ⟨hmore, ⟨line, hwhole⟩, ?_⟩
  rw [← hwhole, List.length_append]
  have hpos : 0 < line.length := by
    rcases hends with rfl | ⟨rfl, htext, -⟩
    · simp
    · exact List.length_pos_iff.2 htext
  omega

/-- A reading of a header block, at the front of these bytes, is what the verdict on it says. -/
def Agrees (reading : Reading Nat) (bytes : Bytes) : Except ReadError (Nat × Bytes) → Prop
  | .ok (length, rest) => reading = .item length rest
  | .error error => ∃ rest, rest <:+ bytes ∧ reading = .failed error rest

theorem Agrees.of_suffix {reading : Reading Nat} {bytes after : Bytes} {verdict : Except ReadError (Nat × Bytes)}
    (hagrees : Agrees reading after verdict) (hsuffix : after <:+ bytes) : Agrees reading bytes verdict := by
  cases verdict with
  | ok found => exact hagrees
  | error error =>
    obtain ⟨rest, hrest, hfailed⟩ := hagrees
    exact ⟨rest, hrest.trans hsuffix, hfailed⟩

theorem told_of_long {line : Bytes} (hlong : maxHeaderLine < line.length) : told line = .error .headerLineTooLong :=
  if_pos hlong

/-- A line that is too long is not empty. -/
theorem isEmptyLine_of_long {line : Bytes} (hlong : maxHeaderLine < line.length) : isEmptyLine line = false := by
  have hdrop : ∀ (byte : UInt8) (line : Bytes), line.length - 1 ≤ (dropLast byte line).length := by
    intro byte line
    unfold dropLast
    split
    · exact Nat.le_of_eq List.length_dropLast.symm
    · exact Nat.sub_le _ _
  have hfeed := hdrop 0x0A line
  have hreturn := hdrop 0x0D (dropLast 0x0A line)
  have hne : stripEnding line ≠ [] := by
    intro hnil
    have hzero : (dropLast 0x0D (dropLast 0x0A line)).length = 0 := congrArg List.length hnil
    have hlimit : 2 < maxHeaderLine := by decide
    omega
  simpa [isEmptyLine] using hne

/-- A line of a block is told, and the reader goes on behind it. -/
theorem readHeaders_header {bytes line : Bytes} {more : List Bytes} (hlines : lines bytes = line :: more)
    (hheader : isEmptyLine line = false) {most : Nat} {block : HeaderBlock}
    (hlater : ∀ next : Option Nat, Agrees (readHeaders true most { started := true, length := next.or block.length } more.flatten)
      more.flatten (scan (next.or block.length) more)) :
    Agrees (readHeaders true (most + 1) block bytes) bytes (scan block.length (line :: more)) := by
  have hsuffix := (flatten_of_lines hlines).2.1
  unfold scan
  rw [hheader]
  rcases readHeaders_line hlines most block with ⟨hlong, rest, hrest, hread⟩ | ⟨hshort, hread⟩
  · rw [told_of_long hlong]
    exact ⟨rest, hrest, hread⟩
  · rw [hread, feed_of_header hheader hshort]
    cases told line with
    | error error => exact ⟨more.flatten, hsuffix, rfl⟩
    | ok next => exact (hlater next).of_suffix hsuffix

/-- An empty line is short. -/
theorem readHeaders_empty {bytes line : Bytes} {more : List Bytes} (hlines : lines bytes = line :: more)
    (hempty : isEmptyLine line = true) (most : Nat) (block : HeaderBlock) :
    readHeaders true (most + 1) block bytes =
      if !block.started then readHeaders true most block more.flatten
      else match block.length with
        | some length => .item length more.flatten
        | none => .failed .missingLength more.flatten := by
  rcases readHeaders_line hlines most block with ⟨hlong, -⟩ | ⟨-, hread⟩
  · rw [isEmptyLine_of_long hlong] at hempty
    cases hempty
  · rw [hread, feed_of_empty hempty]
    cases block.started with
    | false => rfl
    | true => cases block.length <;> rfl

/-- In a block the reader comes to the verdict. -/
theorem readHeaders_started {most : Nat} {bytes : Bytes} (hmost : bytes.length < most) (length : Option Nat) :
    Agrees (readHeaders true most { started := true, length } bytes) bytes (scan length (lines bytes)) := by
  induction most generalizing bytes length with
  | zero => simp at hmost
  | succ most ih =>
    cases hlines : lines bytes with
    | nil =>
      obtain rfl := lines_eq_nil.1 hlines
      exact ⟨[], List.suffix_refl _, rfl⟩
    | cons line more =>
      obtain ⟨hmore, hsuffix, hshorter⟩ := flatten_of_lines hlines
      cases hempty : isEmptyLine line with
      | true =>
        unfold scan
        rw [readHeaders_empty hlines hempty, hempty]
        cases length with
        | none => exact ⟨more.flatten, hsuffix, rfl⟩
        | some length => rfl
      | false =>
        refine readHeaders_header hlines hempty fun next => ?_
        have hless : more.flatten.length < most := by omega
        have hlater := ih hless (next.or length)
        rwa [hmore] at hlater

/-- Before a block the reader skips empty lines, and finds the stream at its end if there is nothing else. -/
theorem readHeaders_fresh {most : Nat} {bytes : Bytes} (hmost : bytes.length < most) :
    ((lines bytes).dropWhile isEmptyLine = [] ∧ readHeaders true most {} bytes = .finished) ∨
    ((lines bytes).dropWhile isEmptyLine ≠ [] ∧
      Agrees (readHeaders true most {} bytes) bytes (scan none ((lines bytes).dropWhile isEmptyLine))) := by
  induction most generalizing bytes with
  | zero => simp at hmost
  | succ most ih =>
    cases hlines : lines bytes with
    | nil =>
      obtain rfl := lines_eq_nil.1 hlines
      exact .inl ⟨rfl, rfl⟩
    | cons line more =>
      obtain ⟨hmore, hsuffix, hshorter⟩ := flatten_of_lines hlines
      cases hempty : isEmptyLine line with
      | true =>
        rw [readHeaders_empty hlines hempty, List.dropWhile_cons_of_pos hempty]
        have hless : more.flatten.length < most := by omega
        have hlater := ih hless
        rw [hmore] at hlater
        exact hlater.imp_right fun ⟨hne, hagrees⟩ => ⟨hne, hagrees.of_suffix hsuffix⟩
      | false =>
        rw [List.dropWhile_cons_of_neg (by simp [hempty])]
        refine .inr ⟨List.cons_ne_nil _ _, readHeaders_header hlines hempty fun next => ?_⟩
        have hless : more.flatten.length < most := by omega
        have hlater := readHeaders_started hless (next.or none)
        rwa [hmore] at hlater

/-- The errors of a block are the protocol's. -/
theorem told_causeless {line : Bytes} {error : ReadError} (htold : told line = .error error) :
    error.hasCause = false := by
  unfold told at htold
  split at htold
  · cases htold
    rfl
  · split at htold
    · cases htold
      rfl
    · next text hdecode =>
      have hheader := contentLength?_header text
      rw [htold] at hheader
      cases hheader with
      | bad named only none causeless => exact causeless

theorem scan_causeless {length : Option Nat} {rest : List Bytes} {error : ReadError}
    (hscan : scan length rest = .error error) : error.hasCause = false := by
  induction rest generalizing length with
  | nil =>
    cases hscan
    rfl
  | cons line more ih =>
    unfold scan at hscan
    split at hscan
    · split at hscan
      · cases hscan
        rfl
      · cases hscan
    · cases htold : told line with
      | error other =>
        rw [htold] at hscan
        cases hscan
        exact told_causeless htold
      | ok next =>
        rw [htold] at hscan
        exact ih hscan

/-! ## Before the stream has ended -/

/-- A reading with more bytes behind what was read. -/
def Reading.followedBy {α : Type} (more : Bytes) : Reading α → Reading α
  | .item value rest => .item value (rest ++ more)
  | .failed error rest => .failed error (rest ++ more)
  | .finished => .finished
  | .wait => .wait

theorem readHeaders_early {most most' : Nat} {block : HeaderBlock} {bytes more : Bytes}
    (hmost : (bytes ++ more).length < most') (hearly : readHeaders false most block bytes ≠ .wait) :
    readHeaders true most' block (bytes ++ more) = (readHeaders false most block bytes).followedBy more := by
  induction most generalizing most' block bytes with
  | zero => exact absurd rfl hearly
  | succ most ih =>
    obtain ⟨most', rfl⟩ : ∃ less, most' = less + 1 := ⟨most' - 1, by omega⟩
    have hsplit := takeLine_append (maxHeaderLine + 1) bytes
    have hlimit := length_takeLine_le (maxHeaderLine + 1) bytes
    by_cases hcomplete : (takeLine (maxHeaderLine + 1) bytes).1.getLast? = some 0x0A ∨
        (takeLine (maxHeaderLine + 1) bytes).1.length = maxHeaderLine + 1
    · -- The line is the same with more bytes behind it.
      have hsame := takeLine_of_complete hcomplete more
      rw [readHeaders] at hearly ⊢
      rw [readHeaders, hsame]
      generalize takeLine (maxHeaderLine + 1) bytes = taken at hsplit hlimit hcomplete hsame hearly
      obtain ⟨line, rest⟩ := taken
      dsimp only at hsplit hlimit hcomplete hearly ⊢
      by_cases hlong : maxHeaderLine < line.length
      · rw [if_pos hlong, if_pos hlong]
        rfl
      · have hfeed : line.getLast? = some 0x0A := by
          rcases hcomplete with hfeed | hlength
          · exact hfeed
          · omega
        have hne : line ≠ [] := by
          rintro rfl
          cases hfeed
        have hpos := List.length_pos_iff.2 hne
        simp only [if_neg hlong, hfeed, ne_eq, not_true_eq_false, decide_false, Bool.false_and, Bool.false_eq_true,
          if_false, hne] at hearly ⊢
        cases hread : block.feed (stripEnding line) with
        | error error => rfl
        | ok next =>
          cases next with
          | inr length => rfl
          | inl next =>
            simp only [hread] at hearly ⊢
            refine ih ?_ hearly
            rw [← hsplit] at hmost
            simp only [List.length_append] at hmost ⊢
            omega
    · -- The line is not complete, so it is waited for.
      simp only [not_or] at hcomplete
      refine absurd ?_ hearly
      rw [readHeaders]
      dsimp only
      rw [if_neg (by omega), if_pos (by simp [hcomplete.1])]

/-- What is found before the stream has ended is found whatever follows. -/
theorem readBody_early {bytes : Bytes} (hearly : readBody false bytes ≠ .wait) (more : Bytes) :
    readBody true (bytes ++ more) = (readBody false bytes).followedBy more := by
  unfold readBody at hearly ⊢
  have hheaders : readHeaders false (bytes.length + 1) {} bytes ≠ .wait := by
    intro hwait
    rw [hwait] at hearly
    exact hearly rfl
  rw [readHeaders_early (Nat.lt_succ_self _) hheaders]
  cases hread : readHeaders false (bytes.length + 1) {} bytes with
  | wait => exact absurd hread hheaders
  | finished => rfl
  | failed error rest => rfl
  | item length rest =>
    simp only [hread, Reading.andThen, Reading.followedBy] at hearly ⊢
    by_cases hthere : length ≤ rest.length
    · rw [if_pos hthere, if_pos (by rw [List.length_append]; omega), List.take_append_of_le_length hthere,
        List.drop_append_of_le_length hthere]
    · rw [if_neg hthere, if_neg (by decide)] at hearly
      exact absurd rfl hearly

theorem readValue_early {bytes : Bytes} (hearly : readValue false bytes ≠ .wait) (more : Bytes) :
    readValue true (bytes ++ more) = (readValue false bytes).followedBy more := by
  unfold readValue at hearly ⊢
  have hbody : readBody false bytes ≠ .wait := by
    intro hwait
    rw [hwait] at hearly
    exact hearly rfl
  rw [readBody_early hbody]
  cases hread : readBody false bytes with
  | wait => exact absurd hread hbody
  | finished => rfl
  | failed error rest => rfl
  | item body rest =>
    simp only [Reading.andThen, Reading.followedBy]
    cases Json.parse body <;> rfl

/-! ## The grammar -/

theorem ReadError.message_of_causeless {error : ReadError} (hcauseless : error.hasCause = false) :
    error.message = "dap protocol error: " ++ error.detail := by
  cases error with
  | endInBody _ _ | json _ | notAMessage _ => cases hcauseless
  | _ => rfl

/-- The block has headers if there is a line that is not empty. -/
theorem dropWhile_isEmptyLine_eq_nil {bytes : Bytes} :
    (lines bytes).dropWhile isEmptyLine = [] ↔ ∀ line ∈ lines bytes, isEmptyLine line = true := by
  induction lines bytes with
  | nil => simp
  | cons line more ih =>
    cases hempty : isEmptyLine line with
    | true => simp [List.dropWhile_cons_of_pos hempty, hempty, ih]
    | false => simp [hempty]

theorem Block.verdict_front (bytes : Bytes) :
    (Block.front bytes).verdict = scan none ((lines bytes).dropWhile isEmptyLine) := by
  rw [scan_eq]
  simp only [Option.or_none]
  rfl

theorem readBody_of_item {bytes rest : Bytes} {length : Nat}
    (hread : readHeaders true (bytes.length + 1) {} bytes = .item length rest) :
    readBody true bytes =
      if length ≤ rest.length then .item (rest.take length) (rest.drop length)
      else .failed (.endInBody rest.length length) [] := by
  rw [readBody, hread]
  rfl

/-- A stream that has ended is at its end, or the verdict on its first block decides what is read. -/
theorem readValue_fresh (bytes : Bytes) :
    ((lines bytes).dropWhile isEmptyLine = [] ∧ readValue true bytes = .finished) ∨
    ((lines bytes).dropWhile isEmptyLine ≠ [] ∧
      match scan none ((lines bytes).dropWhile isEmptyLine) with
      | .error error => ∃ rest, rest <:+ bytes ∧ readValue true bytes = .failed error rest
      | .ok (length, rest) => readValue true bytes =
        if length ≤ rest.length then
          match Json.parse (rest.take length) with
          | .ok json => .item json (rest.drop length)
          | .error error => .failed (.json error) (rest.drop length)
        else .failed (.endInBody rest.length length) []) := by
  refine (readHeaders_fresh (Nat.lt_succ_self bytes.length)).imp ?_ ?_
  · rintro ⟨hnil, hread⟩
    exact ⟨hnil, by rw [readValue, readBody, hread]; rfl⟩
  · rintro ⟨hne, hagrees⟩
    refine ⟨hne, ?_⟩
    cases hscan : scan none ((lines bytes).dropWhile isEmptyLine) with
    | error error =>
      rw [hscan] at hagrees
      obtain ⟨rest, hsuffix, hread⟩ := hagrees
      exact ⟨rest, hsuffix, by rw [readValue, readBody, hread]; rfl⟩
    | ok found =>
      obtain ⟨length, rest⟩ := found
      rw [hscan] at hagrees
      dsimp only
      rw [readValue, readBody_of_item hagrees]
      split <;> rfl

/-- What is read from the front of a stream that has ended. Its lines end at a line feed or with the stream, and lose one
carriage return before that; empty lines in front of the block are skipped.

* The stream is found to be at its end exactly if there is no line that is not empty.
* Otherwise the first error that the block tells, line by line, is the answer, and it is one of the protocol's: a line that
  is too long or no text, a length that is none, a stream that ends inside the block, or a block without a length.
* Otherwise the body is as many bytes as the last length in the block says. It is an error if there are fewer, and the
  next message is looked for right after the body, whatever stands in it.

Which lengths a header line tells is said by `Header`. And what the reader says before the stream has ended is what it says
of the whole stream. -/
theorem values_follow_the_grammar (bytes : Bytes) :
    let block := Block.front bytes
    (readValue true bytes = .finished ↔ ∀ line ∈ lines bytes, isEmptyLine line = true) ∧
    (∀ line ∈ lines bytes, isEmptyLine line = false → ∀ error, block.verdict = .error error →
      error.message = "dap protocol error: " ++ error.detail ∧
        ∃ rest, rest <:+ bytes ∧ readValue true bytes = .failed error rest) ∧
    (∀ length rest, block.verdict = .ok (length, rest) →
      (rest.length < length → readValue true bytes = .failed (.endInBody rest.length length) []) ∧
      (length ≤ rest.length → readValue true bytes =
        match Json.parse (rest.take length) with
        | .ok json => .item json (rest.drop length)
        | .error error => .failed (.json error) (rest.drop length))) ∧
    (∀ line, Header line (contentLength? line)) ∧
    ∀ front more, bytes = front ++ more → readValue false front ≠ .wait →
      readValue true bytes = (readValue false front).followedBy more := by
  intro block
  have hverdict : block.verdict = scan none ((lines bytes).dropWhile isEmptyLine) := Block.verdict_front bytes
  have hnone := @dropWhile_isEmptyLine_eq_nil bytes
  refine ⟨?_, ?_, ?_, contentLength?_header, ?_⟩
  · rw [← hnone]
    rcases readValue_fresh bytes with ⟨hnil, hread⟩ | ⟨hne, hread⟩
    · simp [hnil, hread]
    · simp only [hne, iff_false]
      intro hfinished
      rw [hfinished] at hread
      split at hread
      · obtain ⟨rest, -, hread⟩ := hread
        cases hread
      · split at hread
        · split at hread <;> cases hread
        · cases hread
  · intro line hmem hline error herror
    rw [hverdict] at herror
    refine ⟨ReadError.message_of_causeless (scan_causeless herror), ?_⟩
    rcases readValue_fresh bytes with ⟨hnil, -⟩ | ⟨-, hread⟩
    · rw [hnone.1 hnil line hmem] at hline
      cases hline
    · rw [herror] at hread
      exact hread
  · intro length rest hok
    rw [hverdict] at hok
    rcases readValue_fresh bytes with ⟨hnil, -⟩ | ⟨-, hread⟩
    · rw [hnil] at hok
      cases hok
    · rw [hok] at hread
      refine ⟨fun hshort => ?_, fun hthere => ?_⟩
      · exact hread.trans (if_neg (Nat.not_le.2 hshort))
      · exact hread.trans (if_pos hthere)
  · rintro front more rfl hearly
    exact readValue_early hearly more

end DebugBridge.Adapter
