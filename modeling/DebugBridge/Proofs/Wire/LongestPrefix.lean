import DebugBridge.Proofs.Wire.Chunking

/-!
# Which frames a byte string begins with

A frame is a length, in any of its spellings, and a message of that many bytes. Here this is said without a reader:
`IsFrame` tells what one frame is, and `AreFrames` what a sequence of them is. A byte string has a longest beginning that
consists of frames, and draining it takes the messages of just these: `drain_longest`. What is left begins with no frame,
and the verdict on it is the one that ends the draining.
-/

namespace DebugBridge.Wire

/-! ## The end of a number -/

/-- A number that is read ends at the byte at which the scan for its end stops. -/
theorem Varint.readGroups_some {left n : Nat} {bytes rest : Bytes} (h : Varint.readGroups left bytes = some (n, rest)) :
    ∃ spelling, bytes = spelling ++ rest ∧ spelling ≠ [] ∧ lastOfPrefix? left bytes = some (spelling.length - 1) := by
  induction left generalizing bytes n with
  | zero => simp [Varint.readGroups] at h
  | succ left ih =>
    cases bytes with
    | nil => simp [Varint.readGroups] at h
    | cons byte bytes =>
      rw [Varint.readGroups] at h
      split at h
      · next hcontinues =>
        obtain ⟨⟨high, rest'⟩, hread, heq⟩ := Option.map_eq_some_iff.1 h
        obtain ⟨-, rfl⟩ := Prod.mk.inj heq
        obtain ⟨spelling, rfl, hne, hlast⟩ := ih hread
        refine ⟨byte :: spelling, rfl, by simp, ?_⟩
        have hpos := List.length_pos_iff.2 hne
        unfold lastOfPrefix? at hlast ⊢
        rw [List.take_succ_cons, List.findIdx?_cons, hcontinues, hlast]
        simp only [Bool.not_true, Bool.false_eq_true, if_false, Option.map_some, List.length_cons, Option.some.injEq]
        omega
      · next hends =>
        split at h
        · cases h
        · obtain ⟨-, rfl⟩ := Prod.mk.inj (Option.some.inj h)
          refine ⟨[byte], rfl, by simp, ?_⟩
          unfold lastOfPrefix?
          rw [List.take_succ_cons, List.findIdx?_cons]
          simp [hends]

theorem readVarint_ok {bytes rest : Bytes} {n : UInt64} (h : readVarint bytes = .ok (n, rest)) :
    ∃ spelling, bytes = spelling ++ rest ∧ spelling ≠ [] ∧
      lastOfPrefix? Varint.maxLength bytes = some (spelling.length - 1) := by
  unfold readVarint at h
  split at h
  · next read hread =>
    cases h
    unfold Varint.read? at hread
    obtain ⟨⟨value, rest'⟩, hgroups, heq⟩ := Option.map_eq_some_iff.1 hread
    obtain ⟨-, rfl⟩ := Prod.mk.inj heq
    exact Varint.readGroups_some hgroups
  · cases h

/-! ## Frames -/

section

variable {α : Type} (limit : Nat) (decode : Bytes → Except DecodeError α)

/-- A complete, well-formed frame: a spelling of a length within the limit, and that many bytes which are a message. -/
def IsFrame (frame : Bytes) (message : α) : Prop :=
  ∃ spelling length body, frame = spelling ++ body ∧ readVarint spelling = .ok (length, []) ∧
    body.length = length.toNat ∧ body.length ≤ limit ∧ decode body = .ok message

/-- Bytes that are frames, one after another, with the messages in them. -/
inductive AreFrames : Bytes → List α → Prop
  | nil : AreFrames [] []
  | cons {frame bytes : Bytes} {message : α} {messages : List α} (first : IsFrame limit decode frame message)
      (later : AreFrames bytes messages) : AreFrames (frame ++ bytes) (message :: messages)

/-- The longest beginning of a byte string that consists of frames, and their messages. -/
structure LongestFrames (bytes start : Bytes) (messages : List α) : Prop where
  first : start <+: bytes
  frames : AreFrames limit decode start messages
  longest : ∀ other others, other <+: bytes → AreFrames limit decode other others → other <+: start

variable {limit : Nat} {decode : Bytes → Except DecodeError α}

/-- The length in front of a frame is told whatever follows. -/
theorem peekLength_of_readVarint {spelling : Bytes} {length : UInt64} (h : readVarint spelling = .ok (length, []))
    (more : Bytes) : peekLength (spelling ++ more) = .ok (some (length.toNat, spelling.length)) := by
  obtain ⟨whole, heq, hne, hlast⟩ := readVarint_ok h
  rw [List.append_nil] at heq
  subst heq
  have hpos := List.length_pos_iff.2 hne
  have hwidth : spelling.length - 1 + 1 = spelling.length := by omega
  simp only [peekLength, lastOfPrefix?_append hlast more, hwidth, List.take_left, h]

/-- A length that is told is spelled by as many bytes as it is said to be. -/
theorem readVarint_of_peekLength {buffer : Bytes} {length width : Nat}
    (h : peekLength buffer = .ok (some (length, width))) :
    ∃ number, readVarint (buffer.take width) = .ok (number, []) ∧ number.toNat = length := by
  unfold peekLength at h
  split at h
  · split at h <;> cases h
  · next last hlast =>
    have hlt := lastOfPrefix?_lt hlast
    split at h
    · next number rest hread =>
      simp only [Except.ok.injEq, Option.some.injEq, Prod.mk.injEq] at h
      obtain ⟨rfl, rfl⟩ := h
      refine ⟨number, ?_, rfl⟩
      -- The scan of the bytes up to the end stops where that of the whole buffer does.
      obtain ⟨spelling, hbytes, hne, hagain⟩ := readVarint_ok hread
      have hwhole := lastOfPrefix?_append hagain (buffer.drop (last + 1))
      rw [List.take_append_drop, hlast, Option.some.injEq] at hwhole
      have hlength := congrArg List.length hbytes
      have hpos := List.length_pos_iff.2 hne
      rw [List.length_take, List.length_append] at hlength
      have hnone : rest = [] := List.eq_nil_of_length_eq_zero (by omega)
      rw [hread, hnone]
    · cases h

/-- A message is taken from a buffer exactly if that begins with its frame, and then the frame is gone. -/
theorem next_eq_message_iff {buffer rest : Bytes} {message : α} :
    next limit decode buffer = .message message rest ↔ ∃ frame, buffer = frame ++ rest ∧ IsFrame limit decode frame message := by
  constructor
  · intro h
    unfold next at h
    split at h
    · cases h
    · cases h
    · next length width hpeek =>
      split at h
      · cases h
      · next hfits =>
        split at h
        · cases h
        · next hlong =>
          dsimp only at h
          split at h
          · next value hdecode =>
            simp only [Taken.message.injEq] at h
            obtain ⟨rfl, rfl⟩ := h
            obtain ⟨number, hread, rfl⟩ := readVarint_of_peekLength hpeek
            have hbody : ((buffer.drop width).take number.toNat).length = number.toNat := by
              rw [List.length_take, List.length_drop]
              omega
            refine ⟨buffer.take width ++ (buffer.drop width).take number.toNat, ?_,
              _, number, _, rfl, hread, hbody, by omega, hdecode⟩
            rw [List.append_assoc, ← List.drop_drop, List.take_append_drop, List.take_append_drop]
          · cases h
  · rintro ⟨frame, rfl, spelling, length, body, rfl, hread, hlength, hfits, hdecode⟩
    have hpeek := peekLength_of_readVarint hread (body ++ rest)
    rw [← List.append_assoc] at hpeek
    have hlarge : ¬ limit < length.toNat := by omega
    have hshort : ¬ (spelling ++ body ++ rest).length < spelling.length + length.toNat := by
      simp only [List.length_append]
      omega
    have hbody : ((spelling ++ body ++ rest).drop spelling.length).take length.toNat = body := by
      rw [List.append_assoc, List.drop_left, ← hlength, List.take_left]
    have hrest : (spelling ++ body ++ rest).drop (spelling.length + length.toNat) = rest := by
      rw [← hlength, ← List.length_append, List.drop_left]
    simp only [next, hpeek, if_neg hlarge, if_neg hshort, hbody, hrest, hdecode]

/-- From frames in front of anything their messages are taken. -/
theorem AreFrames.drain_append {start : Bytes} {messages : List α} (hframes : AreFrames limit decode start messages)
    (rest : Bytes) : drain limit decode (start ++ rest) = (drain limit decode rest).after messages := by
  induction hframes with
  | nil => rfl
  | @cons frame bytes message messages first later ih =>
    have hnext : next limit decode (frame ++ bytes ++ rest) = .message message (bytes ++ rest) :=
      next_eq_message_iff.2 ⟨frame, List.append_assoc .., first⟩
    rw [drain_of_message hnext, ih]
    rfl

/-- Frames that are followed by no other frame are the longest beginning of that kind. -/
theorem AreFrames.longest {start rest : Bytes} {messages : List α} (hframes : AreFrames limit decode start messages)
    (hends : ∀ message left, next limit decode rest ≠ .message message left) :
    LongestFrames limit decode (start ++ rest) start messages := by
  refine ⟨List.prefix_append _ _, hframes, ?_⟩
  intro other others hfirst hother
  obtain ⟨more, hmore⟩ := hfirst
  -- Frame by frame: the first of both is the same one, since a buffer begins with one message at most.
  induction hframes generalizing other others with
  | nil =>
    cases hother with
    | nil => exact List.nil_prefix
    | @cons frame bytes message messages first later =>
      have hnext : next limit decode rest = .message message (bytes ++ more) :=
        next_eq_message_iff.2 ⟨frame, by rw [← List.append_assoc]; exact hmore.symm, first⟩
      exact absurd hnext (hends _ _)
  | @cons frame bytes message messages first later ih =>
    cases hother with
    | nil => exact List.nil_prefix
    | @cons frame' bytes' message' messages' first' later' =>
      have hnext : next limit decode (frame ++ bytes ++ rest) = .message message (bytes ++ rest) :=
        next_eq_message_iff.2 ⟨frame, List.append_assoc .., first⟩
      have hnext' : next limit decode (frame ++ bytes ++ rest) = .message message' (bytes' ++ more) :=
        next_eq_message_iff.2 ⟨frame', by rw [← List.append_assoc]; exact hmore.symm, first'⟩
      rw [hnext, Taken.message.injEq] at hnext'
      have hrest : bytes' ++ more = bytes ++ rest := hnext'.2.symm
      have hframe : frame' = frame := by
        rw [List.append_assoc, List.append_assoc, hrest] at hmore
        exact List.append_cancel_right hmore
      rw [hframe, List.prefix_append_right_inj]
      exact ih bytes' messages' later' hrest

/-- A byte string is frames and then something that does not begin with one; draining takes the messages of the former. -/
theorem exists_drained_frames (bytes : Bytes) : ∃ start rest, bytes = start ++ rest ∧
    (∀ message left, next limit decode rest ≠ .message message left) ∧
      AreFrames limit decode start (drain limit decode bytes).messages := by
  induction bytes using next_induction limit decode with
  | wait bytes hnext =>
    refine ⟨[], bytes, rfl, by simp [hnext], ?_⟩
    rw [drain_of_wait hnext]
    exact .nil
  | refused bytes error left hnext =>
    refine ⟨[], bytes, rfl, by simp [hnext], ?_⟩
    rw [drain_of_refused hnext]
    exact .nil
  | message bytes message left hnext ih =>
    obtain ⟨frame, rfl, hframe⟩ := next_eq_message_iff.1 hnext
    obtain ⟨start, rest, hleft, hends, hframes⟩ := ih
    refine ⟨frame ++ start, rest, by rw [hleft, List.append_assoc], hends, ?_⟩
    rw [drain_of_message hnext]
    exact .cons hframe hframes

/-- A stream of which a part was drained to where no message is: what is left decides the rest, if it is not waited for or
nothing more comes. -/
theorem drain_of_end {part more unread : Bytes} {messages : List α}
    (hpart : drain limit decode part = (drain limit decode unread).after messages)
    (hends : ∀ message left, next limit decode unread ≠ .message message left)
    (hmore : next limit decode unread = .wait → more = []) :
    (drain limit decode (part ++ more)).messages = messages ∧
      ((drain limit decode (part ++ more)).error = none ∧ (drain limit decode (part ++ more)).buffer = [] ↔
        next limit decode unread = .wait ∧ unread = []) := by
  cases hnext : next limit decode unread with
  | message message left => exact absurd hnext (hends message left)
  | wait =>
    rw [hmore hnext, List.append_nil, hpart, drain_of_wait hnext]
    simp [Drained.after]
  | refused refusal left =>
    rw [drain_of_refused hnext] at hpart
    have herror : (drain limit decode part).error = some refusal := by
      rw [hpart]
      rfl
    rw [drain_append_of_error herror, hpart]
    simp [Drained.after]

/-- Draining takes the messages of the longest beginning that consists of frames. That is the whole if there is no error
and nothing is left. -/
theorem drain_longest (limit : Nat) (decode : Bytes → Except DecodeError α) (bytes : Bytes) :
    let drained := drain limit decode bytes
    ∃ start, LongestFrames limit decode bytes start drained.messages ∧
      (start = bytes ↔ drained.error = none ∧ drained.buffer = []) := by
  intro drained
  obtain ⟨start, rest, hbytes, hends, hframes⟩ := @exists_drained_frames _ limit decode bytes
  refine ⟨start, hbytes ▸ hframes.longest hends, ?_⟩
  have hdrained : drained = (drain limit decode rest).after drained.messages := by
    have happend := hframes.drain_append rest
    rwa [← hbytes] at happend
  have hwhole : start = bytes ↔ rest = [] := by
    rw [hbytes, List.self_eq_append_right]
  rw [hwhole, hdrained]
  cases hnext : next limit decode rest with
  | wait => simp [drain_of_wait hnext, Drained.after]
  | refused error left =>
    have hsome : rest ≠ [] := by
      rintro rfl
      cases hnext
    simp [drain_of_refused hnext, Drained.after, hsome]
  | message message left => exact absurd hnext (hends message left)

end

end DebugBridge.Wire
