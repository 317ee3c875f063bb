import DebugBridge.Wire.Frame

/-!
# Chunks do not matter

What `next` says of a buffer it says of every longer one, unless it waits: a length in front is found at the same
place, and the bytes of a message do not change. So a buffer can be drained in two goes, and a decoder that is fed
chunk by chunk takes what it would take from the whole at once.
-/

namespace DebugBridge.Wire

/-! ## The length in front -/

theorem lastOfPrefix?_lt {within last : Nat} {buffer : Bytes} (h : lastOfPrefix? within buffer = some last) :
    last < buffer.length := by
  have hlt : last < (buffer.take within).length := List.findIdx?_eq_some_iff_getElem.1 h |>.1
  rw [List.length_take] at hlt
  omega

theorem lastOfPrefix?_append {within last : Nat} {buffer : Bytes} (h : lastOfPrefix? within buffer = some last)
    (more : Bytes) : lastOfPrefix? within (buffer ++ more) = some last := by
  unfold lastOfPrefix? at h ⊢
  rw [List.take_append, List.findIdx?_append, h, Option.some_or]

/-- A length that can be told is told again when more bytes have come, and so is that it cannot be read. -/
theorem peekLength_append {buffer : Bytes} (h : peekLength buffer ≠ .ok none) (more : Bytes) :
    peekLength (buffer ++ more) = peekLength buffer := by
  cases hlast : lastOfPrefix? Varint.maxLength buffer with
  | some last =>
    have hlt := lastOfPrefix?_lt hlast
    have htake : (buffer ++ more).take (last + 1) = buffer.take (last + 1) :=
      List.take_append_of_le_length (by omega)
    simp only [peekLength, hlast, lastOfPrefix?_append hlast, htake]
  | none =>
    have hlong : Varint.maxLength ≤ buffer.length := by
      apply Classical.byContradiction
      intro hshort
      simp [peekLength, hlast, hshort] at h
    have hnone : lastOfPrefix? Varint.maxLength (buffer ++ more) = none := by
      unfold lastOfPrefix? at hlast ⊢
      rw [List.take_append_of_le_length hlong, hlast]
    have hlong' : Varint.maxLength ≤ (buffer ++ more).length := by
      rw [List.length_append]
      omega
    simp only [peekLength, hlast, hnone, if_pos hlong, if_pos hlong']

theorem peekLength_width {buffer : Bytes} {length width : Nat} (h : peekLength buffer = .ok (some (length, width))) :
    0 < width ∧ width ≤ buffer.length := by
  unfold peekLength at h
  cases hlast : lastOfPrefix? Varint.maxLength buffer with
  | none =>
    rw [hlast] at h
    simp only at h
    split at h <;> simp at h
  | some last =>
    have hlt := lastOfPrefix?_lt hlast
    rw [hlast] at h
    simp only at h
    split at h
    · simp only [Except.ok.injEq, Option.some.injEq, Prod.mk.injEq] at h
      omega
    · simp at h

/-! ## One message -/

/-- The same verdict with more bytes behind what is left. -/
def Taken.extend (more : Bytes) : Taken α → Taken α
  | .message value rest => .message value (rest ++ more)
  | .wait => .wait
  | .refused error rest => .refused error (rest ++ more)

section

variable {α : Type} {limit : Nat} {decode : Bytes → Except DecodeError α}

/-- A verdict other than to wait stands whatever comes. -/
theorem next_append {buffer : Bytes} (h : next limit decode buffer ≠ .wait) (more : Bytes) :
    next limit decode (buffer ++ more) = (next limit decode buffer).extend more := by
  have hpeek : peekLength buffer ≠ .ok none := by
    intro hnone
    simp [next, hnone] at h
  unfold next at h ⊢
  rw [peekLength_append hpeek]
  cases hlength : peekLength buffer with
  | error error => rfl
  | ok found =>
    rcases found with _ | ⟨length, width⟩
    · exact absurd hlength hpeek
    simp only [hlength] at h ⊢
    by_cases hlarge : limit < length
    · simp [hlarge, Taken.extend]
    by_cases hshort : buffer.length < width + length
    · simp [hlarge, hshort] at h
    have hlong : ¬ (buffer ++ more).length < width + length := by
      rw [List.length_append]
      omega
    have hbody : ((buffer ++ more).drop width).take length = (buffer.drop width).take length := by
      rw [List.drop_append_of_le_length (by omega), List.take_append_of_le_length]
      rw [List.length_drop]
      omega
    have hrest : (buffer ++ more).drop (width + length) = buffer.drop (width + length) ++ more :=
      List.drop_append_of_le_length (by omega)
    simp only [if_neg hlarge, if_neg hshort, if_neg hlong, hbody, hrest]
    cases decode ((buffer.drop width).take length) <;> rfl

theorem next_append_of_message {buffer rest : Bytes} {value : α} (h : next limit decode buffer = .message value rest)
    (more : Bytes) : next limit decode (buffer ++ more) = .message value (rest ++ more) := by
  rw [next_append (by simp [h]), h]
  rfl

theorem next_append_of_refused {buffer rest : Bytes} {error : FrameError}
    (h : next limit decode buffer = .refused error rest) (more : Bytes) :
    next limit decode (buffer ++ more) = .refused error (rest ++ more) := by
  rw [next_append (by simp [h]), h]
  rfl

/-- A message takes at least a byte. -/
theorem length_lt_of_next {buffer rest : Bytes} {value : α} (h : next limit decode buffer = .message value rest) :
    rest.length < buffer.length := by
  unfold next at h
  cases hlength : peekLength buffer with
  | error error => simp [hlength] at h
  | ok found =>
    rcases found with _ | ⟨length, width⟩
    · simp [hlength] at h
    have hwidth := peekLength_width hlength
    simp only [hlength] at h
    split at h
    · simp at h
    split at h
    · simp at h
    split at h
    · simp only [Taken.message.injEq] at h
      rw [← h.2, List.length_drop]
      omega
    · simp at h

/-- Induction on the messages in front of a buffer: what holds where there is none, and holds of a buffer with a message
in front if it holds of the rest, holds of all buffers. -/
theorem next_induction (limit : Nat) (decode : Bytes → Except DecodeError α) {motive : Bytes → Prop}
    (wait : ∀ buffer, next limit decode buffer = .wait → motive buffer)
    (refused : ∀ buffer error rest, next limit decode buffer = .refused error rest → motive buffer)
    (message : ∀ buffer value rest, next limit decode buffer = .message value rest → motive rest → motive buffer)
    (buffer : Bytes) : motive buffer := by
  -- On the length, as a message takes something away.
  induction hlen : buffer.length using Nat.strongRecOn generalizing buffer with
  | ind n ih =>
    cases hnext : next limit decode buffer with
    | wait => exact wait buffer hnext
    | refused error rest => exact refused buffer error rest hnext
    | message value rest =>
      exact message buffer value rest hnext (ih rest.length (hlen ▸ length_lt_of_next hnext) rest rfl)

/-! ## All messages -/

/-- How many messages may be taken makes no difference once there are more than bytes. -/
theorem drainUpTo_eq {buffer : Bytes} {m n : Nat} (hm : buffer.length < m) (hn : buffer.length < n) :
    drainUpTo limit decode m buffer = drainUpTo limit decode n buffer := by
  induction m generalizing n buffer with
  | zero => omega
  | succ m ih =>
    obtain ⟨n, rfl⟩ : ∃ k, n = k + 1 := ⟨n - 1, by omega⟩
    cases hnext : next limit decode buffer with
    | wait => simp only [drainUpTo, hnext]
    | refused error rest => simp only [drainUpTo, hnext]
    | message value rest =>
      have hlt := length_lt_of_next hnext
      simp only [drainUpTo, hnext, ih (show rest.length < m by omega) (show rest.length < n by omega)]

theorem drain_of_wait {buffer : Bytes} (h : next limit decode buffer = .wait) :
    drain limit decode buffer = ⟨[], none, buffer⟩ := by
  simp only [drain, drainUpTo, h]

theorem drain_of_refused {buffer rest : Bytes} {error : FrameError}
    (h : next limit decode buffer = .refused error rest) : drain limit decode buffer = ⟨[], some error, rest⟩ := by
  simp only [drain, drainUpTo, h]

/-- Messages in front of what was drained. -/
def Drained.after (messages : List α) (drained : Drained α) : Drained α :=
  { drained with messages := messages ++ drained.messages }

theorem drain_of_message {buffer rest : Bytes} {value : α} (h : next limit decode buffer = .message value rest) :
    drain limit decode buffer = (drain limit decode rest).after [value] := by
  have hlt := length_lt_of_next h
  have hdrain : drainUpTo limit decode buffer.length rest = drain limit decode rest :=
    drainUpTo_eq hlt (Nat.lt_succ_self _)
  simp only [drain, drainUpTo, h, hdrain, Drained.after, List.singleton_append]

/-- Draining stops where no more can be taken, unless at an error. -/
theorem next_drain {buffer : Bytes} (h : (drain limit decode buffer).error = none) :
    next limit decode (drain limit decode buffer).buffer = .wait := by
  induction buffer using next_induction limit decode with
  | wait buffer hnext =>
    rw [drain_of_wait hnext]
    exact hnext
  | refused buffer error rest hnext =>
    rw [drain_of_refused hnext] at h
    cases h
  | message buffer value rest hnext ih =>
    rw [drain_of_message hnext] at h ⊢
    exact ih h

/-- Draining in two goes: what is left of the first is in front of the second. -/
theorem drain_append {buffer : Bytes} (h : (drain limit decode buffer).error = none) (more : Bytes) :
    drain limit decode (buffer ++ more)
      = (drain limit decode ((drain limit decode buffer).buffer ++ more)).after
          (drain limit decode buffer).messages := by
  induction buffer using next_induction limit decode with
  | wait buffer hnext =>
    rw [drain_of_wait hnext]
    rfl
  | refused buffer error rest hnext =>
    rw [drain_of_refused hnext] at h
    cases h
  | message buffer value rest hnext ih =>
    rw [drain_of_message hnext] at h ⊢
    rw [drain_of_message (next_append_of_message hnext more), ih h]
    rfl

/-- After an error nothing that comes makes a difference. -/
theorem drain_append_of_error {buffer : Bytes} {error : FrameError}
    (h : (drain limit decode buffer).error = some error) (more : Bytes) :
    drain limit decode (buffer ++ more)
      = { drain limit decode buffer with buffer := (drain limit decode buffer).buffer ++ more } := by
  induction buffer using next_induction limit decode with
  | wait buffer hnext =>
    rw [drain_of_wait hnext] at h
    cases h
  | refused buffer error rest hnext =>
    rw [drain_of_refused hnext, drain_of_refused (next_append_of_refused hnext more)]
  | message buffer value rest hnext ih =>
    rw [drain_of_message hnext] at h ⊢
    rw [drain_of_message (next_append_of_message hnext more), ih h]
    rfl

/-- A reader that has taken messages off a stream takes, of what comes, what would be taken of the whole. -/
theorem drain_append_of_after {buffer unread : Bytes} {taken : List α}
    (h : drain limit decode buffer = (drain limit decode unread).after taken) (more : Bytes) :
    drain limit decode (buffer ++ more) = (drain limit decode (unread ++ more)).after taken := by
  have herror : (drain limit decode buffer).error = (drain limit decode unread).error := by rw [h]; rfl
  cases hended : (drain limit decode unread).error with
  | none =>
    rw [drain_append (herror.trans hended), drain_append hended, h]
    simp only [Drained.after, List.append_assoc]
  | some error =>
    rw [drain_append_of_error (herror.trans hended), drain_append_of_error hended, h]
    rfl

/-! ## Decoders -/

/-- After an error a decoder takes nothing more. -/
theorem Decoder.feedAll_of_error {decoder : Decoder} (h : decoder.error.isSome) (chunks : List Bytes) :
    (decoder.feedAll limit decode chunks).1.flatten = [] ∧ (decoder.feedAll limit decode chunks).2 = decoder := by
  induction chunks with
  | nil => exact ⟨rfl, rfl⟩
  | cons chunk chunks ih =>
    simp only [Decoder.feedAll, Decoder.feed, h, if_true, List.flatten_cons, List.nil_append]
    exact ih

/-- A decoder that waits, fed chunk by chunk, takes what is in its buffer and all chunks together. -/
theorem Decoder.feedAll_eq_drain {buffer : Bytes} (hwait : next limit decode buffer = .wait) (chunks : List Bytes) :
    let fed := Decoder.feedAll limit decode ⟨buffer, none⟩ chunks
    let whole := drain limit decode (buffer ++ chunks.flatten)
    fed.1.flatten = whole.messages ∧ fed.2.error = whole.error ∧
      (whole.error = none → fed.2.buffer = whole.buffer) := by
  induction chunks generalizing buffer with
  | nil =>
    rw [List.flatten_nil, List.append_nil, drain_of_wait hwait]
    exact ⟨rfl, rfl, fun _ => rfl⟩
  | cons chunk chunks ih =>
    rw [List.flatten_cons, ← List.append_assoc]
    simp only [Decoder.feedAll, Decoder.feed, Option.isSome_none, Bool.false_eq_true, if_false, List.flatten_cons]
    cases herror : (drain limit decode (buffer ++ chunk)).error with
    | none =>
      obtain ⟨hmessages, hended, hbuffer⟩ := ih (next_drain herror)
      rw [drain_append herror]
      exact ⟨by rw [hmessages]; rfl, hended, hbuffer⟩
    | some error =>
      obtain ⟨hmessages, hdecoder⟩ :=
        @Decoder.feedAll_of_error _ limit decode ⟨(drain limit decode (buffer ++ chunk)).buffer, some error⟩ rfl chunks
      rw [drain_append_of_error herror, hmessages, hdecoder, List.append_nil]
      exact ⟨rfl, herror.symm, fun hnone => by simp [herror] at hnone⟩

end

/-- How a decoder stands after all chunks: the error that ended it, or the bytes that wait for more. -/
def Decoder.outcome (decoder : Decoder) : Except FrameError Bytes :=
  match decoder.error with
  | some error => .error error
  | none => .ok decoder.buffer

/-- Two ways of cutting the same bytes make no difference: the same messages are taken, and then there is the same
error, or the same bytes are left. So whatever the chunks are, reading the whole at once gives their messages, or the
error that ended them. -/
theorem cuts_do_not_matter {α : Type} (limit : Nat) (decode : Bytes → Except DecodeError α) {first second : List Bytes}
    (hsame : first.flatten = second.flatten) :
    ((Decoder.feedAll limit decode {} first).1.flatten = (Decoder.feedAll limit decode {} second).1.flatten ∧
      (Decoder.feedAll limit decode {} first).2.outcome = (Decoder.feedAll limit decode {} second).2.outcome) ∧
    ∀ chunks : List Bytes,
      let fed := Decoder.feedAll maxFrameBytes Event.decode {} chunks
      decodeEvents chunks.flatten = fed.2.outcome.map fun _ => fed.1.flatten := by
  constructor
  · -- Both decoders are compared with the one that gets everything at once.
    obtain ⟨hmessages₁, herror₁, hbuffer₁⟩ := @Decoder.feedAll_eq_drain _ limit decode [] rfl first
    obtain ⟨hmessages₂, herror₂, hbuffer₂⟩ := @Decoder.feedAll_eq_drain _ limit decode [] rfl second
    rw [hsame] at hmessages₁ herror₁ hbuffer₁
    refine ⟨hmessages₁.trans hmessages₂.symm, ?_⟩
    unfold Decoder.outcome
    rw [herror₁, herror₂]
    cases herror : (drain limit decode ([] ++ second.flatten)).error with
    | some error => rfl
    | none =>
      -- Only without an error do the buffers have to agree: after one, a decoder keeps what its last chunk left.
      exact congrArg Except.ok ((hbuffer₁ herror).trans (hbuffer₂ herror).symm)
  · intro chunks fed
    obtain ⟨hmessages, herror, -⟩ := @Decoder.feedAll_eq_drain _ maxFrameBytes Event.decode [] rfl chunks
    rw [List.nil_append] at hmessages herror
    simp only [fed, decodeEvents, Decoder.outcome, hmessages, herror]
    cases (drain maxFrameBytes Event.decode chunks.flatten).error <;> rfl

/-- A message, a malformed one and a byte more, byte by byte and in three chunks of which one is empty. -/
theorem cuts_do_not_matter_malformed :
    let bytes : Bytes := [2, 8, 5, 2, 15, 0, 2]
    let first := bytes.map fun byte => [byte]
    let second := [bytes.take 4, [], bytes.drop 4]
    first.flatten = second.flatten ∧
      (Decoder.feedAll 2 Event.decode {} first).1.flatten = [{ number := 5 }] ∧
      (Decoder.feedAll 2 Event.decode {} second).1.flatten = [{ number := 5 }] ∧
      (Decoder.feedAll 2 Event.decode {} first).2.outcome = .error (.malformed { fault := .unknownWireType 7 }) ∧
      (Decoder.feedAll 2 Event.decode {} second).2.outcome = .error (.malformed { fault := .unknownWireType 7 }) := by
  intro bytes first second
  have hsame : first.flatten = second.flatten := by decide
  obtain ⟨⟨hmessages, houtcome⟩, -⟩ := cuts_do_not_matter 2 Event.decode hsame
  have htaken : (Decoder.feedAll 2 Event.decode {} first).1.flatten = [{ number := 5 }] := by decide +kernel
  have hstopped : (Decoder.feedAll 2 Event.decode {} first).2
      = { error := some (.malformed { fault := .unknownWireType 7 }) } := by decide +kernel
  have herror : (Decoder.feedAll 2 Event.decode {} first).2.outcome
      = .error (.malformed { fault := .unknownWireType 7 }) := by rw [hstopped]; rfl
  exact ⟨hsame, htaken, hmessages ▸ htaken, herror, houtcome ▸ herror⟩

end DebugBridge.Wire
