import DebugBridge.Adapter.Message
import DebugBridge.Json.Parser
import DebugBridge.Json.Printer
import DebugBridge.Text.Blank
import DebugBridge.Text.Quoted

/-!
# Messages on a byte stream

A message is a block of header lines, an empty line, and a body of as many bytes as the header `Content-Length`
tells. Other headers are ignored, and so are empty lines before a block. A line ends at a line feed, or with the
stream, and loses one carriage return before it.

`readMessage` takes one message off the front of a stream. While more bytes may come it answers only what no later
byte can change.
-/

namespace DebugBridge.Adapter

/-- The largest body: 64 MiB. -/
def maxMessageBytes : Nat := 64 * 1024 * 1024

/-- The longest header line, its line feed included. -/
def maxHeaderLine : Nat := 8 * 1024

/-! ## Errors -/

/-- What ends the reading of messages. -/
inductive ReadError where
  | headerNotUtf8
  | headerLineTooLong
  | invalidLength (value : String) (error : Decimal.LengthError)
  | lengthTooLarge (length : Nat)
  | missingLength
  | endInHeaders
  | endInBody (present expected : Nat)
  | json (error : Json.ParseError)
  | notAMessage (fault : Schema.Fault)
  deriving DecidableEq, Repr

namespace ReadError

/-- The text without the words that tell its class. -/
def detail : ReadError → String
  | headerNotUtf8 => "header line is not valid UTF-8"
  | headerLineTooLong => s!"header line longer than {maxHeaderLine} bytes"
  | invalidLength value error => s!"invalid Content-Length {Text.quote value}: {error.message}"
  | lengthTooLarge length => s!"Content-Length {length} exceeds the {maxMessageBytes} byte limit"
  | missingLength => "missing Content-Length header"
  | endInHeaders => "stream ended inside a header block"
  | endInBody present expected => s!"stream ended after {present} of {expected} body bytes"
  | json error => error.message
  | notAMessage fault => fault.message

/-- Whether the cause lies below the framing, and is told on its own. -/
def hasCause : ReadError → Bool
  | endInBody .. | json _ | notAMessage _ => true
  | _ => false

def message (error : ReadError) : String :=
  let kind := match error with
    | endInBody .. => "io error: "
    | json _ | notAMessage _ => "json error: "
    | _ => "dap protocol error: "
  kind ++ error.detail

end ReadError

/-! ## Header lines -/

/-- The line at the front, its line feed included, looking at no more than `most` bytes; and what follows. -/
def takeLine : Nat → Bytes → Bytes × Bytes
  | 0, bytes => ([], bytes)
  | _ + 1, [] => ([], [])
  | most + 1, byte :: rest =>
    if byte = 0x0A then ([byte], rest)
    else
      let (line, rest) := takeLine most rest
      (byte :: line, rest)

/-- Drops one byte at the end, if it is this one. -/
def dropLast (byte : UInt8) (line : Bytes) : Bytes :=
  if line.getLast? = some byte then line.dropLast else line

/-- A line without its line feed, and then without a carriage return. -/
def stripEnding (line : Bytes) : Bytes :=
  dropLast 0x0D (dropLast 0x0A line)

/-- An ASCII letter in lower case; other characters stay. -/
def lowerAscii (c : Char) : Char :=
  if 'A' ≤ c ∧ c ≤ 'Z' then Char.ofNat (c.toNat + 32) else c

/-- A text before and after its first colon. -/
def splitAtColon (text : List Char) : Option (List Char × List Char) :=
  match text.dropWhile (· ≠ ':') with
  | _ :: value => some (text.takeWhile (· ≠ ':'), value)
  | [] => none

/-- The length that a header line tells, if it tells one. -/
def contentLength? (line : String) : Except ReadError (Option Nat) :=
  match splitAtColon line.toList with
  | none => .ok none
  | some (name, value) =>
    if (Text.trimChars name).map lowerAscii = "content-length".toList then
      let value := Text.trimChars value
      match Decimal.parseLength value with
      | .error error => .error (.invalidLength (String.ofList value) error)
      | .ok length => if maxMessageBytes < length then .error (.lengthTooLarge length) else .ok (some length)
    else .ok none

/-- A header block so far: whether a line was seen, and the last length told. -/
structure HeaderBlock where
  started : Bool := false
  length : Option Nat := none
  deriving DecidableEq, Repr

/-- The block after one more line, or the length it tells when the line ends it. -/
def HeaderBlock.feed (block : HeaderBlock) (line : Bytes) : Except ReadError (HeaderBlock ⊕ Nat) :=
  if line = [] then
    if !block.started then .ok (.inl block)
    else match block.length with
      | some length => .ok (.inr length)
      | none => .error .missingLength
  else
    match Utf8.decode? line with
    | none => .error .headerNotUtf8
    | some text => do
      let length ← contentLength? text
      return .inl { started := true, length := length.or block.length }

/-! ## Reading

A stream is the bytes that are there and whether more may come. -/

/-- What the front of a stream holds. An error leaves the stream where reading stopped. -/
inductive Reading (α : Type) where
  | item (value : α) (rest : Bytes)
  | failed (error : ReadError) (rest : Bytes)
  /-- The stream ended between two messages. -/
  | finished
  /-- What is there does not decide it yet. -/
  | wait
  deriving Repr

/-- Reads on from what was read. -/
def Reading.andThen (reading : Reading α) (next : α → Bytes → Reading β) : Reading β :=
  match reading with
  | .item value rest => next value rest
  | .failed error rest => .failed error rest
  | .finished => .finished
  | .wait => .wait

/-- Reads lines, at most `most`, to the end of a block, for the length it tells. -/
def readHeaders (ended : Bool) : Nat → HeaderBlock → Bytes → Reading Nat
  | 0, _, _ => .wait
  | most + 1, block, bytes =>
    let (line, rest) := takeLine (maxHeaderLine + 1) bytes
    if maxHeaderLine < line.length then .failed .headerLineTooLong rest
    else if line.getLast? ≠ some 0x0A && !ended then .wait
    else if line = [] then
      if block.started then .failed .endInHeaders rest else .finished
    else
      match block.feed (stripEnding line) with
      | .error error => .failed error rest
      | .ok (.inr length) => .item length rest
      | .ok (.inl block) => readHeaders ended most block rest

/-- Reads the body of one message. A body that falls short at the end of the stream is gone. -/
def readBody (ended : Bool) (bytes : Bytes) : Reading Bytes :=
  (readHeaders ended (bytes.length + 1) {} bytes).andThen fun length rest =>
    if length ≤ rest.length then .item (rest.take length) (rest.drop length)
    else if ended then .failed (.endInBody rest.length length) []
    else .wait

/-- What follows the first message, or everything if that is not complete. -/
def afterBody (bytes : Bytes) : Bytes :=
  match readBody false bytes with
  | .item _ rest => rest
  | _ => bytes

/-- How many bytes can be waited for without waiting for more than the first message: the rest of its body, or the next
byte of its header. -/
def wanted (bytes : Bytes) : Nat :=
  match readHeaders false (bytes.length + 1) {} bytes with
  | .item length rest => max 1 (length - rest.length)
  | _ => 1

/-- Reads the value in the body of one message. -/
def readValue (ended : Bool) (bytes : Bytes) : Reading Json :=
  (readBody ended bytes).andThen fun body rest =>
    match Json.parse body with
    | .ok json => .item json rest
    | .error error => .failed (.json error) rest

/-- Reads one message. -/
def readMessage (ended : Bool) (bytes : Bytes) : Reading Message :=
  (readValue ended bytes).andThen fun json rest =>
    match Message.ofJson json with
    | .ok message => .item message rest
    | .error fault => .failed (.notAMessage fault) rest

/-! ## Writing -/

/-- A value behind its header. -/
def writeValue (json : Json) : Bytes :=
  let body := json.encode
  Utf8.encode "Content-Length: " ++ (Decimal.digits body.length).map (fun c => UInt8.ofNat c.toNat)
    ++ [0x0D, 0x0A, 0x0D, 0x0A] ++ body

end DebugBridge.Adapter
