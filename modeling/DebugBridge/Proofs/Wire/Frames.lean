import DebugBridge.Proofs.Wire.RoundTrip

/-!
# Reading from a stream of frames

A stream that consists of frames is read message by message, whatever part of it has come. A reader whose limit is
smaller than the writer's stops at the first frame that is too large, but does not take another for it. What a message
holds is written as it is, so one with a large text has a large frame.
-/

namespace DebugBridge.Wire

theorem eq_of_frame {limit : Nat} {body bytes : Bytes} (h : frame limit body = .ok bytes) :
    body.length ≤ limit ∧ bytes = Varint.write (UInt64.ofNat body.length) ++ body := by
  unfold frame at h
  split at h
  · cases h
  · next hfits =>
    cases h
    exact ⟨by omega, rfl⟩

section

variable {α : Type} {limit : Nat} {encode : α → Bytes} {decode : Bytes → Except DecodeError α}

theorem frames_append (first second : List α) :
    frames encode (first ++ second) = frames encode first ++ frames encode second :=
  List.flatMap_append

theorem frames_singleton (message : α) :
    frames encode [message] = Varint.write (UInt64.ofNat (encode message).length) ++ encode message :=
  List.flatMap_singleton _ _

theorem eq_nil_of_frames {messages : List α} (hnone : frames encode messages = []) : messages = [] := by
  cases messages with
  | nil => rfl
  | cons first later =>
    rw [frames, List.flatMap_cons, List.append_eq_nil_iff, List.append_eq_nil_iff] at hnone
    exact absurd hnone.1.1 (Varint.write_ne_nil _)

/-- A frame that is too large is refused. -/
theorem next_frame_of_lt {body rest : Bytes} (hsize : body.length < UInt64.size) (hlarge : limit < body.length) :
    ∃ error left, next limit decode (Varint.write (UInt64.ofNat body.length) ++ body ++ rest)
      = .refused error left := by
  have hlength := UInt64.toNat_ofNat_of_lt' hsize
  have hpeek := peekLength_write (UInt64.ofNat body.length) (body ++ rest)
  rw [← List.append_assoc] at hpeek
  simp only [next, hpeek, hlength, if_pos hlarge]
  exact ⟨_, _, rfl⟩

/-- The message that is read is the first of the stream, and the others are left. -/
theorem next_frames (hdecode : ∀ message, (encode message).length < UInt64.size → decode (encode message) = .ok message)
    {messages : List α} (hsize : ∀ message ∈ messages, (encode message).length < UInt64.size) {unread coming : Bytes}
    (hstream : unread ++ coming = frames encode messages) {message : α} {rest : Bytes}
    (hnext : next limit decode unread = .message message rest) :
    ∃ later, messages = message :: later ∧ rest ++ coming = frames encode later := by
  have hwhole := next_append_of_message hnext coming
  rw [hstream] at hwhole
  cases messages with
  | nil => cases hwhole
  | cons first later =>
    have hfirst := hsize first List.mem_cons_self
    rw [frames, List.flatMap_cons, ← frames] at hwhole
    by_cases hfits : (encode first).length ≤ limit
    · rw [next_frame hfirst hfits (hdecode first hfirst)] at hwhole
      simp only [Taken.message.injEq] at hwhole
      exact ⟨later, by rw [hwhole.1], hwhole.2.symm⟩
    · obtain ⟨error, left, hrefused⟩ := @next_frame_of_lt _ limit decode (encode first) (frames encode later) hfirst
        (by omega)
      rw [hrefused] at hwhole
      cases hwhole

/-- The first of a stream of messages that fit is taken. -/
theorem next_frames_cons
    (hdecode : ∀ message, (encode message).length < UInt64.size → decode (encode message) = .ok message)
    {message : α} (hsize : (encode message).length < UInt64.size) (hfits : (encode message).length ≤ limit)
    (later : List α) : next limit decode (frames encode (message :: later)) = .message message (frames encode later) := by
  rw [frames, List.flatMap_cons, ← frames]
  exact next_frame hsize hfits (hdecode message hsize)

/-- Nothing of a stream of messages that fit is refused, whatever part of it has come. -/
theorem next_of_fitting
    (hdecode : ∀ message, (encode message).length < UInt64.size → decode (encode message) = .ok message)
    {messages : List α} (hsize : ∀ message ∈ messages, (encode message).length < UInt64.size)
    (hfits : ∀ message ∈ messages, (encode message).length ≤ limit) {unread coming : Bytes}
    (hstream : unread ++ coming = frames encode messages) :
    next limit decode unread = .wait ∨ ∃ message later rest, messages = message :: later ∧
      next limit decode unread = .message message rest ∧ rest ++ coming = frames encode later := by
  cases hnext : next limit decode unread with
  | wait => exact .inl rfl
  | message message rest =>
    obtain ⟨later, hmessages, hrest⟩ := next_frames hdecode hsize hstream hnext
    exact .inr ⟨message, later, rest, hmessages, rfl, hrest⟩
  | refused error rest =>
    -- What is refused now would be refused of the whole stream, of which the first message is taken.
    have hwhole := next_append_of_refused hnext coming
    rw [hstream] at hwhole
    cases messages with
    | nil => cases hwhole
    | cons message later =>
      rw [next_frames_cons hdecode (hsize message List.mem_cons_self) (hfits message List.mem_cons_self)] at hwhole
      cases hwhole

end

/-! ## Sizes -/

theorem length_le_writeDelimited (tag : Nat) (contents : Bytes) :
    contents.length ≤ (writeDelimited tag contents).length := by
  simp only [writeDelimited, List.length_append]
  omega

theorem utf8ByteSize_le_writeString (tag : Nat) (text : String) :
    text.utf8ByteSize ≤ (writeString tag text).length := by
  unfold writeString
  split
  · next hempty => simp [hempty]
  · have hlength : (Utf8.encode text).length = text.utf8ByteSize := Array.length_toList
    exact hlength ▸ length_le_writeDelimited tag _

theorem length_writeUInt64_mono (tag : Nat) {m n : UInt64} (hle : m ≤ n) :
    (writeUInt64 tag m).length ≤ (writeUInt64 tag n).length := by
  have hwrite := Varint.length_write_mono hle
  unfold writeUInt64
  split
  · exact Nat.zero_le _
  · next hm =>
    have hn : n ≠ 0 := by
      rintro rfl
      exact hm (UInt64.le_zero_iff.1 hle)
    rw [if_neg hn, List.length_append, List.length_append]
    omega

/-- Under a smaller number a request is no larger. -/
theorem Request.length_encode_mono (payload : Option Request.Payload) {m n : UInt64} (hle : m ≤ n) :
    (Request.encode { number := m, payload }).length ≤ (Request.encode { number := n, payload }).length := by
  have hnumber := length_writeUInt64_mono 1 hle
  simp only [Request.encode, List.length_append]
  omega

/-- A request with a breakpoint is no shorter than the path of its source. -/
theorem utf8ByteSize_le_encode (path : String) (line : Int32) (number : UInt64) : path.utf8ByteSize ≤
    (Request.encode { number, payload := some (.setBreakpoints [{ location := some { line, path } }]) }).length := by
  have hpath := utf8ByteSize_le_writeString 2 path
  have hlocation : (writeString 2 path).length ≤ (Location.encode { line, path }).length := by
    simp only [Location.encode, List.length_append]
    omega
  have hbreakpoint : (Location.encode { line, path }).length ≤
      (Breakpoint.encode { location := some { line, path } }).length := by
    have hinner := length_le_writeDelimited 1 (Location.encode { line, path })
    simp only [Breakpoint.encode, writeOptional, List.length_append]
    omega
  have hlist := length_le_writeDelimited 1 (Breakpoint.encode { location := some { line, path } })
  have hpayload := length_le_writeDelimited 106
    (writeRepeated 1 Breakpoint.encode [{ location := some { line, path } }])
  simp only [writeRepeated, List.flatMap_cons, List.flatMap_nil, List.append_nil] at hpayload
  simp only [Request.encode, Option.map_some, Option.getD_some, Request.Payload.encode, Request.Payload.contents,
    writeRepeated, List.flatMap_cons, List.flatMap_nil, List.append_nil, List.length_append]
  omega

end DebugBridge.Wire
