import DebugBridge.Wire.Message

/-!
# Frames

On the wire every message is preceded by its length, written as a base-128 number. `next` answers for the front
of a buffer: a message and what follows it, that more bytes are needed, or a refusal. A bad or too large length
is refused as soon as it is read and stays in the buffer; a frame whose message is malformed is taken out of it.

A `Decoder` keeps a buffer between chunks. However the bytes are cut, the messages taken are the same.
-/

namespace DebugBridge.Wire

/-- The limit on a message's length unless another is set: 16 MiB. -/
def maxFrameBytes : Nat := 16 * 1024 * 1024

/-- Why a frame is refused. -/
inductive FrameError where
  | prefixTooLong
  | invalidPrefix (error : DecodeError)
  | tooLarge (length limit : Nat)
  | malformed (error : DecodeError)
  | outgoingTooLarge (length limit : Nat)
  deriving DecidableEq, Repr

def FrameError.message : FrameError → String
  | prefixTooLong => "length prefix is longer than 10 bytes"
  | invalidPrefix error => s!"invalid length prefix: {error.message}"
  | tooLarge length limit => s!"frame length {length} exceeds maximum allowed size {limit}"
  | malformed error => s!"malformed message: {error.message}"
  | outgoingTooLarge length limit => s!"outgoing message of {length} bytes exceeds maximum allowed size {limit}"

/-! ## The length in front -/

/-- The position of the byte that ends a number, among the first `within` bytes. -/
def lastOfPrefix? (within : Nat) (buffer : Bytes) : Option Nat :=
  (buffer.take within).findIdx? fun byte => !Varint.continues byte

/-- The length of the message and of the number that tells it, once that number is complete. -/
def peekLength (buffer : Bytes) : Except FrameError (Option (Nat × Nat)) :=
  match lastOfPrefix? Varint.maxLength buffer with
  | none => if Varint.maxLength ≤ buffer.length then .error .prefixTooLong else .ok none
  | some last =>
    match readVarint (buffer.take (last + 1)) with
    | .ok (length, _) => .ok (some (length.toNat, last + 1))
    | .error error => .error (.invalidPrefix error)

/-! ## Taking frames -/

/-- What the front of a buffer holds; the buffer after it stands beside. -/
inductive Taken (α : Type) where
  | message (value : α) (rest : Bytes)
  | wait
  | refused (error : FrameError) (rest : Bytes)
  deriving DecidableEq, Repr

/-- Looks for one message at the front of a buffer. -/
def next (limit : Nat) (decode : Bytes → Except DecodeError α) (buffer : Bytes) : Taken α :=
  match peekLength buffer with
  | .error error => .refused error buffer
  | .ok none => .wait
  | .ok (some (length, width)) =>
    if limit < length then .refused (.tooLarge length limit) buffer
    else if buffer.length < width + length then .wait
    else
      let rest := buffer.drop (width + length)
      match decode ((buffer.drop width).take length) with
      | .ok value => .message value rest
      | .error error => .refused (.malformed error) rest

/-- Messages taken from a buffer, the error that ended the taking if there was one, and the buffer left. -/
structure Drained (α : Type) where
  messages : List α
  error : Option FrameError
  buffer : Bytes
  deriving DecidableEq, Repr

/-- Takes messages, at most `most`, until more bytes are needed or a frame is refused. -/
def drainUpTo (limit : Nat) (decode : Bytes → Except DecodeError α) : Nat → Bytes → Drained α
  | 0, buffer => ⟨[], none, buffer⟩
  | most + 1, buffer =>
    match next limit decode buffer with
    | .wait => ⟨[], none, buffer⟩
    | .refused error rest => ⟨[], some error, rest⟩
    | .message value rest =>
      let drained := drainUpTo limit decode most rest
      { drained with messages := value :: drained.messages }

/-- Takes all messages of a buffer; each is at least a byte long. -/
def drain (limit : Nat) (decode : Bytes → Except DecodeError α) (buffer : Bytes) : Drained α :=
  drainUpTo limit decode (buffer.length + 1) buffer

/-- A decoder between two chunks: its buffer, or the error that ended it. -/
structure Decoder where
  buffer : Bytes := []
  error : Option FrameError := none
  deriving DecidableEq, Repr

namespace Decoder

/-- Appends a chunk and takes what is complete; after an error nothing more is taken. -/
def feed (limit : Nat) (decode : Bytes → Except DecodeError α) (decoder : Decoder) (chunk : Bytes) :
    List α × Decoder :=
  if decoder.error.isSome then ([], decoder)
  else
    let drained := drain limit decode (decoder.buffer ++ chunk)
    (drained.messages, ⟨drained.buffer, drained.error⟩)

/-- Feeds chunks in order and gives the messages of each. -/
def feedAll (limit : Nat) (decode : Bytes → Except DecodeError α) (decoder : Decoder) :
    List Bytes → List (List α) × Decoder
  | [] => ([], decoder)
  | chunk :: chunks =>
    let (messages, decoder) := decoder.feed limit decode chunk
    let (later, decoder) := decoder.feedAll limit decode chunks
    (messages :: later, decoder)

end Decoder

/-- The events of a whole byte string; an incomplete frame at its end is ignored. -/
def decodeEvents (bytes : Bytes) : Except FrameError (List Event) :=
  let drained := drain maxFrameBytes Event.decode bytes
  match drained.error with
  | some error => .error error
  | none => .ok drained.messages

/-! ## Writing frames -/

/-- A message behind its length, unless it is larger than the limit. -/
def frame (limit : Nat) (body : Bytes) : Except FrameError Bytes :=
  if limit < body.length then .error (.outgoingTooLarge body.length limit)
  else .ok (Varint.write (UInt64.ofNat body.length) ++ body)

/-- Appends a message's frame to an output. A message that is refused leaves the output as it was. -/
def put (limit : Nat) (output body : Bytes) : Bytes × Except FrameError Unit :=
  match frame limit body with
  | .ok bytes => (output ++ bytes, .ok ())
  | .error error => (output, .error error)

/-- Appends messages in order, and tells what came of each. -/
def putAll (limit : Nat) (output : Bytes) : List Bytes → Bytes × List (Except FrameError Unit)
  | [] => (output, [])
  | body :: bodies =>
    let (output, result) := put limit output body
    let (output, results) := putAll limit output bodies
    (output, result :: results)

end DebugBridge.Wire
