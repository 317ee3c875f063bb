import Mathlib.Data.List.Forall2
import DebugBridge.Proofs.Wire.Spelling

/-!
# What a decoder takes out of its buffer

There are seven ways in which a buffer can begin, and for each of them one answer with one effect on the buffer:
`Verdict` lists them, and `next` gives that answer. Only a complete frame within the limit is taken out, whether its
message is read or malformed. So whatever has been decoded, what is gone from the buffer are the frames answered for:
`decoding_consumes_what_it_answers_for`.
-/

namespace DebugBridge.Wire

variable {α : Type}

/-- A complete frame within the limit, with these bytes behind their length. -/
def Carries (limit : Nat) (frame body : Bytes) : Prop :=
  ∃ spelling, frame = spelling ++ body ∧ Spells spelling body.length ∧ body.length ≤ limit

/-- The buffer that a decoding leaves. -/
def Taken.left (buffer : Bytes) : Taken α → Bytes
  | .message _ rest => rest
  | .refused _ rest => rest
  | .wait => buffer

/-- What the beginning of a buffer makes a decoder answer. -/
inductive Verdict (limit : Nat) (decode : Bytes → Except DecodeError α) : Bytes → Taken α → Prop
  | message {spelling body rest : Bytes} {value : α} (spells : Spells spelling body.length)
      (fits : body.length ≤ limit) (decoded : decode body = .ok value) :
      Verdict limit decode (spelling ++ body ++ rest) (.message value rest)
  | malformed {spelling body rest : Bytes} {error : DecodeError} (spells : Spells spelling body.length)
      (fits : body.length ≤ limit) (decoded : decode body = .error error) :
      Verdict limit decode (spelling ++ body ++ rest) (.refused (.malformed error) rest)
  | tooLarge {spelling more : Bytes} {length : Nat} (spells : Spells spelling length) (large : limit < length) :
      Verdict limit decode (spelling ++ more) (.refused (.tooLarge length limit) (spelling ++ more))
  | invalidPrefix {spelling more : Bytes} (isSpelling : Varint.IsSpelling spelling)
      (short : spelling.length ≤ Varint.maxLength) (large : 2 ^ 64 ≤ Varint.value spelling) :
      Verdict limit decode (spelling ++ more)
        (.refused (.invalidPrefix { fault := .invalidVarint }) (spelling ++ more))
  | prefixTooLong {start more : Bytes} (ten : start.length = Varint.maxLength)
      (goesOn : ∀ byte ∈ start, Varint.continues byte = true) :
      Verdict limit decode (start ++ more) (.refused .prefixTooLong (start ++ more))
  | waitsForLength {part : Bytes} (short : part.length < Varint.maxLength)
      (goesOn : ∀ byte ∈ part, Varint.continues byte = true) : Verdict limit decode part .wait
  | waitsForBody {spelling part : Bytes} {length : Nat} (spells : Spells spelling length) (fits : length ≤ limit)
      (short : part.length < length) : Verdict limit decode (spelling ++ part) .wait

section

variable {limit : Nat} {decode : Bytes → Except DecodeError α}

theorem next_of_frame {spelling body : Bytes} (hlength : Spells spelling body.length) (hfits : body.length ≤ limit)
    (rest : Bytes) : next limit decode (spelling ++ body ++ rest)
      = match decode body with
        | .ok value => .message value rest
        | .error error => .refused (.malformed error) rest := by
  have hpeek : peekLength (spelling ++ body ++ rest) = .ok (some (body.length, spelling.length)) := by
    rw [List.append_assoc]
    exact (Ahead.told hlength).peekLength_eq
  have hlong : ¬ (spelling ++ body ++ rest).length < spelling.length + body.length := by
    simp only [List.length_append]
    omega
  have hbody : ((spelling ++ body ++ rest).drop spelling.length).take body.length = body := by
    rw [List.append_assoc, List.drop_left, List.take_left]
  have hrest : (spelling ++ body ++ rest).drop (spelling.length + body.length) = rest := by
    rw [← List.length_append, List.drop_left]
  cases hdecoded : decode body with
  | ok value => simp only [next, hpeek, if_neg (Nat.not_lt.2 hfits), if_neg hlong, hbody, hrest, hdecoded]
  | error error => simp only [next, hpeek, if_neg (Nat.not_lt.2 hfits), if_neg hlong, hbody, hrest, hdecoded]

/-- A decoder answers as the beginning of its buffer makes it. -/
theorem Verdict.next_eq {buffer : Bytes} {taken : Taken α} (hverdict : Verdict limit decode buffer taken) :
    next limit decode buffer = taken := by
  cases hverdict with
  | message spells fits decoded => rw [next_of_frame spells fits, decoded]
  | malformed spells fits decoded => rw [next_of_frame spells fits, decoded]
  | tooLarge spells large => simp only [next, (Ahead.told spells).peekLength_eq, if_pos large]
  | invalidPrefix isSpelling short large => simp only [next, (Ahead.large isSpelling short large).peekLength_eq]
  | prefixTooLong ten goesOn => simp only [next, (Ahead.endless ten goesOn).peekLength_eq]
  | waitsForLength short goesOn => simp only [next, (Ahead.waits short goesOn).peekLength_eq]
  | @waitsForBody spelling part length spells fits short =>
    have hshort : (spelling ++ part).length < spelling.length + length := by
      rw [List.length_append]
      omega
    simp only [next, (Ahead.told spells).peekLength_eq, if_neg (Nat.not_lt.2 fits), if_pos hshort]

/-- Every buffer begins in one of these ways. -/
theorem exists_verdict (limit : Nat) (decode : Bytes → Except DecodeError α) (buffer : Bytes) :
    ∃ taken, Verdict limit decode buffer taken := by
  have hahead := ahead_peekLength buffer
  generalize peekLength buffer = told at hahead
  cases hahead with
  | waits short goesOn => exact ⟨_, .waitsForLength short goesOn⟩
  | endless ten goesOn => exact ⟨_, .prefixTooLong ten goesOn⟩
  | large isSpelling short large => exact ⟨_, .invalidPrefix isSpelling short large⟩
  | @told spelling more length spells =>
    by_cases hlarge : limit < length
    · exact ⟨_, .tooLarge spells hlarge⟩
    · by_cases hshort : more.length < length
      · exact ⟨_, .waitsForBody spells (Nat.not_lt.1 hlarge) hshort⟩
      · -- The body is complete: whether it can be read decides.
        have hbody : (more.take length).length = length := List.length_take_of_le (Nat.not_lt.1 hshort)
        have hlength : Spells spelling (more.take length).length := hbody.symm ▸ spells
        have hfits : (more.take length).length ≤ limit := hbody.symm ▸ Nat.not_lt.1 hlarge
        have hsplit : spelling ++ more = spelling ++ more.take length ++ more.drop length := by
          rw [List.append_assoc, List.take_append_drop]
        rw [hsplit]
        cases hdecoded : decode (more.take length) with
        | ok value => exact ⟨_, .message hlength hfits hdecoded⟩
        | error error => exact ⟨_, .malformed hlength hfits hdecoded⟩

theorem next_eq_iff_verdict {buffer : Bytes} {taken : Taken α} :
    next limit decode buffer = taken ↔ Verdict limit decode buffer taken := by
  constructor
  · rintro rfl
    obtain ⟨taken, hverdict⟩ := exists_verdict limit decode buffer
    rw [hverdict.next_eq]
    exact hverdict
  · exact Verdict.next_eq

/-! ## Refusals of a length -/

/-- The bytes of a spelling that has not ended continue. -/
theorem Varint.IsSpelling.goes_on {spelling part more : Bytes} (hspelling : Varint.IsSpelling spelling)
    (hsplit : part ++ more = spelling) (hmore : more ≠ []) : ∀ byte ∈ part, Varint.continues byte = true := by
  induction hspelling generalizing part with
  | @last byte ends =>
    cases part with
    | nil => exact List.forall_mem_nil _
    | cons first part => exact absurd (List.append_eq_nil_iff.1 (List.cons.inj hsplit).2).2 hmore
  | @more byte bytes goesOn later ih =>
    cases part with
    | nil => exact List.forall_mem_nil _
    | cons first part =>
      obtain ⟨rfl, hrest⟩ := List.cons.inj hsplit
      exact List.forall_mem_cons.2 ⟨goesOn, ih hrest⟩

/-- Why a length is refused stands in the first bytes of the buffer, at most ten. What follows them plays no part, and
with any fewer of them the decoder waits. -/
def RefusedAtOnce (limit : Nat) (decode : Bytes → Except DecodeError α) (buffer : Bytes) (error : FrameError) : Prop :=
  ∃ start more, buffer = start ++ more ∧ start.length ≤ Varint.maxLength ∧
    (∀ other, next limit decode (start ++ other) = .refused error (start ++ other)) ∧
    ∀ part, part <+: start → part ≠ start → next limit decode part = .wait

/-- A part of bytes that are too many or not known to have ended is waited for. -/
theorem next_of_part {start part : Bytes} (hpart : part <+: start) (hne : part ≠ start)
    (hshort : start.length ≤ Varint.maxLength)
    (hstart : Varint.IsSpelling start ∨ ∀ byte ∈ start, Varint.continues byte = true) :
    next limit decode part = .wait := by
  obtain ⟨more, hsplit⟩ := hpart
  have hmore : more ≠ [] := by
    rintro rfl
    exact hne ((List.append_nil part).symm.trans hsplit)
  have hlength := congrArg List.length hsplit
  have hpos := List.length_pos_iff.2 hmore
  rw [List.length_append] at hlength
  apply Verdict.next_eq
  apply Verdict.waitsForLength
  · omega
  · rcases hstart with hspelling | hgoesOn
    · exact hspelling.goes_on hsplit hmore
    · intro byte hmem
      exact hgoesOn byte (hsplit ▸ List.mem_append_left more hmem)

theorem refused_cases {buffer left : Bytes} {error : FrameError}
    (hrefused : next limit decode buffer = .refused error left) :
    (∃ frame body cause, buffer = frame ++ left ∧ Carries limit frame body ∧ decode body = .error cause ∧
      error = .malformed cause) ∨ left = buffer ∧ RefusedAtOnce limit decode buffer error := by
  cases next_eq_iff_verdict.1 hrefused with
  | @malformed spelling body rest cause spells fits decoded =>
    exact .inl ⟨spelling ++ body, body, cause, rfl, ⟨spelling, rfl, spells, fits⟩, decoded, rfl⟩
  | @tooLarge spelling more length spells large =>
    refine .inr ⟨rfl, spelling, more, rfl, spells.short, ?_, ?_⟩
    · intro other
      exact (Verdict.tooLarge spells large).next_eq
    · intro part hpart hne
      exact next_of_part hpart hne spells.short (.inl spells.isSpelling)
  | @invalidPrefix spelling more isSpelling short large =>
    refine .inr ⟨rfl, spelling, more, rfl, short, ?_, ?_⟩
    · intro other
      exact (Verdict.invalidPrefix isSpelling short large).next_eq
    · intro part hpart hne
      exact next_of_part hpart hne short (.inl isSpelling)
  | @prefixTooLong start more ten goesOn =>
    refine .inr ⟨rfl, start, more, rfl, Nat.le_of_eq ten, ?_, ?_⟩
    · intro other
      exact (Verdict.prefixTooLong ten goesOn).next_eq
    · intro part hpart hne
      exact next_of_part hpart hne (Nat.le_of_eq ten) (.inr goesOn)

theorem message_iff {buffer rest : Bytes} {value : α} : next limit decode buffer = .message value rest ↔
    ∃ frame body, buffer = frame ++ rest ∧ Carries limit frame body ∧ decode body = .ok value := by
  constructor
  · intro hnext
    cases next_eq_iff_verdict.1 hnext with
    | @message spelling body rest value spells fits decoded =>
      exact ⟨spelling ++ body, body, rfl, ⟨spelling, rfl, spells, fits⟩, decoded⟩
  · rintro ⟨frame, body, rfl, ⟨spelling, rfl, hlength, hfits⟩, hdecoded⟩
    exact (Verdict.message hlength hfits hdecoded).next_eq

/-- Where a complete frame is, nothing is waited for. -/
theorem next_ne_wait {frame body : Bytes} (hcarries : Carries limit frame body) (rest : Bytes) :
    next limit decode (frame ++ rest) ≠ .wait := by
  obtain ⟨spelling, rfl, hlength, hfits⟩ := hcarries
  rw [next_of_frame hlength hfits]
  cases decode body <;> simp

theorem Carries.ne_nil {frame body : Bytes} (hcarries : Carries limit frame body) : frame ≠ [] := by
  obtain ⟨spelling, rfl, hlength, -⟩ := hcarries
  intro hnil
  have hpos := hlength.isSpelling.length_pos
  rw [(List.append_eq_nil_iff.1 hnil).1] at hpos
  exact absurd hpos (Nat.lt_irrefl 0)

/-! ## Decoding again and again -/

/-- Some decodings in a row, with the buffer after them. One that is refused is followed by others all the same. -/
def decodings (limit : Nat) (decode : Bytes → Except DecodeError α) : Nat → Bytes → List (Taken α) × Bytes
  | 0, buffer => ([], buffer)
  | count + 1, buffer =>
    let answer := next limit decode buffer
    let (answers, buffer) := decodings limit decode count (answer.left buffer)
    (answer :: answers, buffer)

/-- Whether a frame was answered for: its message was read, or is malformed. -/
def Taken.isOfFrame : Taken α → Bool
  | .message .. | .refused (.malformed _) _ => true
  | _ => false

/-- What is answered for a frame. -/
def AnswersFor (limit : Nat) (decode : Bytes → Except DecodeError α) (frame : Bytes) (answer : Taken α) : Prop :=
  ∃ body rest, Carries limit frame body ∧
    match decode body with
    | .ok value => answer = .message value rest
    | .error cause => answer = .refused (.malformed cause) rest

/-- A decoding takes the frame that it answers for, or nothing. -/
theorem next_takes (buffer : Bytes) :
    let answer := next limit decode buffer
    answer.isOfFrame = false ∧ answer.left buffer = buffer ∨
      answer.isOfFrame = true ∧ ∃ frame, buffer = frame ++ answer.left buffer ∧ AnswersFor limit decode frame answer := by
  intro answer
  have hverdict : Verdict limit decode buffer answer := next_eq_iff_verdict.1 rfl
  generalize answer = taken at hverdict
  cases hverdict with
  | @message spelling body rest value spells fits decoded =>
    refine .inr ⟨rfl, spelling ++ body, rfl, body, rest, ⟨spelling, rfl, spells, fits⟩, ?_⟩
    rw [decoded]
  | @malformed spelling body rest cause spells fits decoded =>
    refine .inr ⟨rfl, spelling ++ body, rfl, body, rest, ⟨spelling, rfl, spells, fits⟩, ?_⟩
    rw [decoded]
  | _ => exact .inl ⟨rfl, rfl⟩

/-- What is gone from the buffer are the frames that were answered for, in order. -/
theorem exists_frames (count : Nat) (buffer : Bytes) : ∃ frames : List Bytes,
    buffer = frames.flatten ++ (decodings limit decode count buffer).2 ∧ (∀ frame ∈ frames, frame ≠ []) ∧
      List.Forall₂ (AnswersFor limit decode) frames
        ((decodings limit decode count buffer).1.filter Taken.isOfFrame) := by
  induction count generalizing buffer with
  | zero => exact ⟨[], rfl, List.forall_mem_nil _, .nil⟩
  | succ count ih =>
    obtain ⟨frames, hbuffer, hfilled, hanswers⟩ := ih ((next limit decode buffer).left buffer)
    rcases @next_takes _ limit decode buffer with ⟨hnone, hsame⟩ | ⟨hsome, frame, hsplit, hframe⟩
    · refine ⟨frames, ?_, hfilled, ?_⟩
      · rw [hsame] at hbuffer
        simp only [decodings, hsame]
        exact hbuffer
      · simp only [decodings, List.filter_cons, hnone, Bool.false_eq_true, if_false]
        exact hanswers
    · have hne : frame ≠ [] := by
        obtain ⟨body, rest, hcarries, -⟩ := hframe
        exact hcarries.ne_nil
      refine ⟨frame :: frames, ?_, List.forall_mem_cons.2 ⟨hne, hfilled⟩, ?_⟩
      · rw [List.flatten_cons, List.append_assoc]
        exact hsplit.trans (congrArg (frame ++ ·) hbuffer)
      · simp only [decodings, List.filter_cons, hsome, if_true]
        exact .cons hframe hanswers

/-! ## The loop -/

/-- Taking messages as long as there are any: what is collected, and the answer that ends it. -/
inductive Loop (limit : Nat) (decode : Bytes → Except DecodeError α) : Bytes → List α → Taken α → Prop
  | ends {buffer : Bytes} (noMessage : ∀ value rest, next limit decode buffer ≠ .message value rest) :
      Loop limit decode buffer [] (next limit decode buffer)
  | goesOn {buffer rest : Bytes} {value : α} {messages : List α} {last : Taken α}
      (message : next limit decode buffer = .message value rest) (later : Loop limit decode rest messages last) :
      Loop limit decode buffer (value :: messages) last

/-- The error that an answer raises. -/
def Taken.error? : Taken α → Option FrameError
  | .refused error _ => some error
  | _ => none

/-- The loop ends, after no more messages than there are bytes, and is what draining does. -/
theorem exists_loop (buffer : Bytes) : ∃ messages last, Loop limit decode buffer messages last ∧
    messages.length ≤ buffer.length ∧ (drain limit decode buffer).messages = messages ∧
      (drain limit decode buffer).error = last.error? := by
  induction buffer using next_induction limit decode with
  | wait buffer hnext =>
    refine ⟨[], .wait, hnext ▸ Loop.ends (by simp [hnext]), Nat.zero_le _, ?_⟩
    rw [drain_of_wait hnext]
    exact ⟨rfl, rfl⟩
  | refused buffer error rest hnext =>
    refine ⟨[], .refused error rest, hnext ▸ Loop.ends (by simp [hnext]), Nat.zero_le _, ?_⟩
    rw [drain_of_refused hnext]
    exact ⟨rfl, rfl⟩
  | message buffer value rest hnext ih =>
    obtain ⟨messages, last, hloop, hcount, hmessages, herror⟩ := ih
    have hshorter := length_lt_of_next hnext
    refine ⟨value :: messages, last, .goesOn hnext hloop, ?_, ?_⟩
    · rw [List.length_cons]
      omega
    · rw [drain_of_message hnext]
      exact ⟨congrArg (value :: ·) hmessages, herror⟩

end

/-- For every limit and buffer:

* The answer is the one that the beginning of the buffer makes, by one of seven rules.
* A message is answered if the buffer begins with a complete frame that carries it, and only this frame is gone. To wait
  means that there is no complete frame, and leaves the buffer. A malformed message is gone with its own frame. All other
  refusals leave the buffer, and come as soon as the length is there, or ten bytes that do not end one.
* What any number of decodings have taken are the frames they answered for, none of which is empty.
* The loop over the messages of a byte string ends, and gives these messages or the error that ended it. -/
theorem decoding_consumes_what_it_answers_for {α : Type} (limit : Nat) (decode : Bytes → Except DecodeError α) :
    (∀ buffer taken, next limit decode buffer = taken ↔ Verdict limit decode buffer taken) ∧
    (∀ buffer,
      (∀ value rest, next limit decode buffer = .message value rest ↔
        ∃ frame body, buffer = frame ++ rest ∧ Carries limit frame body ∧ decode body = .ok value) ∧
      (next limit decode buffer = .wait → (next limit decode buffer).left buffer = buffer ∧
        ∀ frame body rest, buffer = frame ++ rest → ¬ Carries limit frame body) ∧
      ∀ error left, next limit decode buffer = .refused error left →
        (∃ frame body cause, buffer = frame ++ left ∧ Carries limit frame body ∧ decode body = .error cause ∧
          error = .malformed cause) ∨ left = buffer ∧ RefusedAtOnce limit decode buffer error) ∧
    (∀ count buffer, ∃ frames : List Bytes,
      buffer = frames.flatten ++ (decodings limit decode count buffer).2 ∧ (∀ frame ∈ frames, frame ≠ []) ∧
        List.Forall₂ (AnswersFor limit decode) frames
          ((decodings limit decode count buffer).1.filter Taken.isOfFrame)) ∧
    ∀ bytes, ∃ messages last, Loop maxFrameBytes Event.decode bytes messages last ∧
      messages.length ≤ bytes.length ∧
        decodeEvents bytes = match last.error? with
          | some error => .error error
          | none => .ok messages := by
  refine ⟨fun buffer taken => next_eq_iff_verdict, ?_, exists_frames, ?_⟩
  · intro buffer
    refine ⟨fun value rest => message_iff, ?_, fun error left => refused_cases⟩
    intro hwait
    constructor
    · rw [hwait]
      rfl
    · rintro frame body rest rfl hcarries
      exact next_ne_wait hcarries rest hwait
  · intro bytes
    obtain ⟨messages, last, hloop, hcount, hmessages, herror⟩ := @exists_loop _ maxFrameBytes Event.decode bytes
    refine ⟨messages, last, hloop, hcount, ?_⟩
    cases hlast : last.error? with
    | some error => simp only [decodeEvents, herror, hlast]
    | none => simp only [decodeEvents, herror, hlast, hmessages]

end DebugBridge.Wire
