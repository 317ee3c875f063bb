import Mathlib.Algebra.Group.Nat.Defs
import DebugBridge.Proofs.Wire.Message
import DebugBridge.Proofs.Wire.Spelling

/-!
# Framing and back

A frame in front of anything is taken whole, so an output of frames drains to the messages they were made of and
leaves nothing. With `Decoder.feedAll_eq_drain` the same holds however the output is cut: `framing_round_trip`.
-/

namespace DebugBridge.Wire

/-! ## The length in front -/

theorem peekLength_write (n : UInt64) (rest : Bytes) :
    peekLength (Varint.write n ++ rest) = .ok (some (n.toNat, (Varint.write n).length)) :=
  (Ahead.told (spells_write n)).peekLength_eq

/-! ## One frame -/

theorem frame_of_le {limit : Nat} {body : Bytes} (h : body.length ≤ limit) :
    frame limit body = .ok (Varint.write (UInt64.ofNat body.length) ++ body) := by
  rw [frame, if_neg (by omega)]

section

variable {α : Type} {limit : Nat} {encode : α → Bytes} {decode : Bytes → Except DecodeError α}

/-- A frame in front of anything is taken, and only what follows is left. -/
theorem next_frame {body rest : Bytes} {value : α} (hsize : body.length < UInt64.size) (hfits : body.length ≤ limit)
    (hdecode : decode body = .ok value) :
    next limit decode (Varint.write (UInt64.ofNat body.length) ++ body ++ rest) = .message value rest := by
  have hlength := UInt64.toNat_ofNat_of_lt' hsize
  have hpeek := peekLength_write (UInt64.ofNat body.length) (body ++ rest)
  have hdrop : (Varint.write (UInt64.ofNat body.length) ++ body ++ rest).drop
      ((Varint.write (UInt64.ofNat body.length)).length + body.length) = rest := by
    rw [← List.length_append, List.drop_left]
  have hbody : (Varint.write (UInt64.ofNat body.length) ++ body ++ rest).drop
      (Varint.write (UInt64.ofNat body.length)).length = body ++ rest := by
    rw [List.append_assoc, List.drop_left]
  have hlong : ¬ (Varint.write (UInt64.ofNat body.length) ++ body ++ rest).length
      < (Varint.write (UInt64.ofNat body.length)).length + body.length := by
    simp only [List.length_append]
    omega
  rw [← List.append_assoc] at hpeek
  simp only [next, hpeek, hlength, if_neg (show ¬ limit < body.length by omega), if_neg hlong, hdrop, hbody,
    List.take_left, hdecode]

/-! ## An output of frames -/

/-- The frames of messages, one after another. -/
def frames (encode : α → Bytes) (messages : List α) : Bytes :=
  messages.flatMap fun message => Varint.write (UInt64.ofNat (encode message).length) ++ encode message

theorem putAll_of_le (messages : List α) (output : Bytes) (h : ∀ message ∈ messages, (encode message).length ≤ limit) :
    putAll limit output (messages.map encode) = (output ++ frames encode messages, messages.map fun _ => .ok ()) := by
  induction messages generalizing output with
  | nil => simp [putAll, frames]
  | cons message messages ih =>
    have hone := frame_of_le (h message List.mem_cons_self)
    have hrest := fun output => ih output fun other hother => h other (List.mem_cons_of_mem _ hother)
    simp only [List.map_cons, putAll, put, hone, hrest, frames, List.flatMap_cons, List.append_assoc]

theorem drain_frames (messages : List α) (hsize : limit < UInt64.size)
    (h : ∀ message ∈ messages, (encode message).length ≤ limit)
    (hdecode : ∀ message, (encode message).length < UInt64.size → decode (encode message) = .ok message) :
    drain limit decode (frames encode messages) = ⟨messages, none, []⟩ := by
  induction messages with
  | nil => rfl
  | cons message messages ih =>
    have hfits := h message List.mem_cons_self
    have hnext := @next_frame _ limit decode (encode message) (frames encode messages) message (by omega) hfits
      (hdecode message (by omega))
    have hrest := ih fun other hother => h other (List.mem_cons_of_mem _ hother)
    rw [frames, List.flatMap_cons, ← frames, drain_of_message hnext, hrest]
    rfl

/-- Messages of a kind come through: those that fit are all taken by the writer, and a reader with the same limit
gets them back in order and nothing else, in whatever chunks it is given the output. -/
def ComesThrough (limit : Nat) (encode : α → Bytes) (decode : Bytes → Except DecodeError α) : Prop :=
  ∀ messages : List α, (∀ message ∈ messages, (encode message).length ≤ limit) →
    ∃ output, putAll limit [] (messages.map encode) = (output, messages.map fun _ => .ok ()) ∧
      ∀ chunks : List Bytes, chunks.flatten = output →
        ∃ taken, Decoder.feedAll limit decode {} chunks = (taken, {}) ∧
          taken.flatten = messages

theorem comesThrough (hsize : limit < UInt64.size)
    (hdecode : ∀ message, (encode message).length < UInt64.size → decode (encode message) = .ok message) :
    ComesThrough limit encode decode := by
  intro messages hfits
  refine ⟨frames encode messages, by simpa using putAll_of_le messages [] hfits, ?_⟩
  intro chunks hchunks
  have hfed := @Decoder.feedAll_eq_drain _ limit decode [] rfl chunks
  rw [List.nil_append, hchunks, drain_frames messages hsize hfits hdecode] at hfed
  obtain ⟨hmessages, herror, hbuffer⟩ := hfed
  have hend : ∀ decoder : Decoder, decoder.error = none → decoder.buffer = [] → decoder = {} := by
    rintro ⟨_, _⟩ rfl rfl
    rfl
  exact ⟨_, Prod.ext rfl (hend _ herror (hbuffer rfl)), hmessages⟩

end

/-- Requests and events come through framing, however the bytes are cut. A message that is too large is refused
and nothing of it is written. -/
theorem framing_round_trip (limit : Nat) (hlimit : limit < 2 ^ 63) :
    (ComesThrough limit Event.encode Event.decode ∧ ComesThrough limit Request.encode Request.decode) ∧
      ∀ output body : Bytes, limit < body.length →
        put limit output body = (output, .error (.outgoingTooLarge body.length limit)) := by
  have hsize : limit < UInt64.size := by
    simp only [UInt64.size]
    omega
  refine ⟨⟨comesThrough hsize Event.decode_encode, comesThrough hsize Request.decode_encode⟩, ?_⟩
  intro output body hlarge
  rw [put, frame, if_pos hlarge]

/-- Two events cut into single bytes, one with a nested message and a negative number, and a body of a byte too many. -/
theorem framing_round_trip_bytewise :
    let listed : Event :=
      { number := 3, payload := some (.listFrames [{ functionName := "f", location := some { line := -1 } }]) }
    let resumed : Event := { payload := some (.threadContinued (-7)) }
    40 < 2 ^ 63 ∧ (∀ event ∈ [listed, resumed], event.encode.length ≤ 40) ∧
      (∃ output, putAll 40 [] ([listed, resumed].map Event.encode) = (output, [.ok (), .ok ()]) ∧
        ∃ taken, Decoder.feedAll 40 Event.decode {} (output.map fun byte => [byte]) = (taken, {}) ∧
          taken.flatten = [listed, resumed]) ∧
      put 40 [0] (List.replicate 41 0) = ([0], .error (.outgoingTooLarge 41 40)) := by
  intro listed resumed
  have hfits : ∀ event ∈ [listed, resumed], event.encode.length ≤ 40 := by decide +kernel
  obtain ⟨⟨hevents, _⟩, hlarge⟩ := framing_round_trip 40 (by decide)
  obtain ⟨output, hput, hfed⟩ := hevents [listed, resumed] hfits
  have hbytes : (output.map fun byte => [byte]).flatten = output := by
    rw [← List.flatMap_def, List.flatMap_singleton']
  exact ⟨by decide, hfits, ⟨output, hput, hfed _ hbytes⟩, hlarge [0] (List.replicate 41 0) (by decide)⟩

end DebugBridge.Wire
