import DebugBridge.Json.Value

/-!
# Reading JSON

`parse` reads one value that is all of the bytes, up to blanks around it. In a text that is no JSON, bytes are looked
at in order and the first fault decides: the text ends where more was needed, or something stands in it that cannot.
Whether a string is UTF-8 is seen at its closing quote.

Integers from `-2^63` to `2^64 - 1` stay integers, except for `-0`. Any other number is a float, computed from its
first 19 or 20 digits as a 64-bit number and one multiplication or division by a power of ten at a time; that
may miss the nearest float by a little.
-/

namespace DebugBridge.Json

/-- What is wrong with a text that is no JSON. -/
inductive ParseFault where
  | endInArray
  | endInObject
  | endInString
  | endInValue
  | noColon
  | noCommaInArray
  | noCommaInObject
  | notAWord
  | notAValue
  | badEscape
  | badNumber
  | numberTooLarge
  | notUtf8
  | controlCharacter
  | nameNotAString
  | loneSurrogate
  | halfAPair
  | trailingComma
  | trailingText
  | tooDeep
  deriving DecidableEq, Repr

namespace ParseFault

/-- Whether the text ended where more was needed. -/
def isEnd : ParseFault → Bool
  | endInArray | endInObject | endInString | endInValue => true
  | _ => false

def message : ParseFault → String
  | endInArray => "EOF while parsing a list"
  | endInObject => "EOF while parsing an object"
  | endInString => "EOF while parsing a string"
  | endInValue => "EOF while parsing a value"
  | noColon => "expected `:`"
  | noCommaInArray => "expected `,` or `]`"
  | noCommaInObject => "expected `,` or `\x7d`"
  | notAWord => "expected ident"
  | notAValue => "expected value"
  | badEscape => "invalid escape"
  | badNumber => "invalid number"
  | numberTooLarge => "number out of range"
  | notUtf8 => "invalid unicode code point"
  | controlCharacter => "control character (\\u0000-\\u001F) found while parsing a string"
  | nameNotAString => "key must be a string"
  | loneSurrogate => "lone leading surrogate in hex escape"
  | halfAPair => "unexpected end of hex escape"
  | trailingComma => "trailing comma"
  | trailingText => "trailing characters"
  | tooDeep => "recursion limit exceeded"

end ParseFault

/-- Why and where a text is no JSON: the line, from 1, and how many of its bytes were seen. -/
structure ParseError where
  fault : ParseFault
  line : Nat
  column : Nat
  deriving DecidableEq, Repr

def ParseError.message (error : ParseError) : String :=
  s!"{error.fault.message} at line {error.line} column {error.column}"

/-- Where reading stops: the fault, and what was not looked at. -/
structure Stop where
  fault : ParseFault
  unread : Bytes
  deriving DecidableEq, Repr

/-- The error of a text that was read up to a stop. -/
def Stop.toError (stop : Stop) (text : Bytes) : ParseError :=
  let seen := text.take (text.length - stop.unread.length)
  { fault := stop.fault
    line := 1 + seen.count 0x0A
    column := (seen.reverse.takeWhile (· ≠ 0x0A)).length }

/-- A part that was read, and what follows. -/
abbrev Read (α : Type) := Except Stop (α × Bytes)

/-- A fault at the byte in front. -/
def stopAt (fault : ParseFault) (bytes : Bytes) : Except Stop α :=
  .error ⟨fault, bytes.tail⟩

/-- A fault after everything that was looked at. -/
def stopBefore (fault : ParseFault) (bytes : Bytes) : Except Stop α :=
  .error ⟨fault, bytes⟩

/-- How deep arrays and objects may nest. -/
def maxDepth : Nat := 127

def isBlankByte (byte : UInt8) : Bool :=
  byte = 0x20 || byte = 0x0A || byte = 0x09 || byte = 0x0D

def skipBlanks (bytes : Bytes) : Bytes :=
  bytes.dropWhile isBlankByte

/-! ## Strings -/

def hexValue? (byte : UInt8) : Option Nat :=
  if 0x30 ≤ byte && byte ≤ 0x39 then some (byte.toNat - 48)
  else if 0x41 ≤ byte && byte ≤ 0x46 then some (byte.toNat - 55)
  else if 0x61 ≤ byte && byte ≤ 0x66 then some (byte.toNat - 87)
  else none

/-- Four digits in base 16. Fewer than four bytes are too few, whatever they are. -/
def hexFour : Bytes → Read Nat
  | a :: b :: c :: d :: rest =>
    match hexValue? a, hexValue? b, hexValue? c, hexValue? d with
    | some a, some b, some c, some d => .ok (((a * 16 + b) * 16 + c) * 16 + d, rest)
    | _, _, _, _ => stopBefore .badEscape rest
  | _ => stopBefore .endInString []

/-- A byte that must be there next. -/
def pairByte (byte : UInt8) : Bytes → Read Unit
  | [] => stopBefore .endInString []
  | first :: rest => if first = byte then .ok ((), rest) else stopBefore .halfAPair rest

/-- The character of an escape, after `\u`: one unit of four digits, or two that pair up. -/
def unicodeEscape (bytes : Bytes) : Except Stop (Char × Bytes) := do
  let (unit, rest) ← hexFour bytes
  if 0xDC00 ≤ unit ∧ unit ≤ 0xDFFF then stopBefore .loneSurrogate rest
  else if unit < 0xD800 ∨ 0xDFFF < unit then return (Char.ofNat unit, rest)
  else
    let ((), rest) ← pairByte 0x5C rest
    let ((), rest) ← pairByte 0x75 rest
    let (low, rest) ← hexFour rest
    if low < 0xDC00 ∨ 0xDFFF < low then stopBefore .loneSurrogate rest
    else return (Char.ofNat (0x10000 + (unit - 0xD800) * 1024 + (low - 0xDC00)), rest)

/-- The character of an escape, after the backslash. -/
def escape : Bytes → Read Char
  | [] => stopBefore .endInString []
  | byte :: rest =>
    if byte = 0x22 then .ok ('"', rest)
    else if byte = 0x5C then .ok ('\\', rest)
    else if byte = 0x2F then .ok ('/', rest)
    else if byte = 0x62 then .ok ('\x08', rest)
    else if byte = 0x66 then .ok ('\x0c', rest)
    else if byte = 0x6E then .ok ('\n', rest)
    else if byte = 0x72 then .ok ('\r', rest)
    else if byte = 0x74 then .ok ('\t', rest)
    else if byte = 0x75 then unicodeEscape rest
    else stopBefore .badEscape rest

/-- The rest of a string, after its first quote, with at most `most` bytes or escapes; what is read so far is in
`done`, backwards. -/
def stringFrom : Nat → Bytes → Bytes → Read String
  | 0, _, bytes => stopBefore .endInString bytes
  | _ + 1, _, [] => stopBefore .endInString []
  | most + 1, done, byte :: rest =>
    if byte = 0x22 then
      match Utf8.decode? done.reverse with
      | some text => .ok (text, rest)
      | none => stopBefore .notUtf8 rest
    else if byte = 0x5C then
      match escape rest with
      | .ok (c, rest) => stringFrom most ((Utf8.encode c.toString).reverse ++ done) rest
      | .error stop => .error stop
    else if byte < 0x20 then stopBefore .controlCharacter rest
    else stringFrom most (byte :: done) rest

/-- The rest of a string, after its first quote. -/
def stringAfterQuote (bytes : Bytes) : Read String :=
  stringFrom (bytes.length + 1) [] bytes

/-! ## Numbers -/

def digitValue? (byte : UInt8) : Option Nat :=
  if 0x30 ≤ byte && byte ≤ 0x39 then some (byte.toNat - 48) else none

/-- The largest 64-bit number. -/
def maxSignificand : Nat := 18446744073709551615

/-- Scales by a power of ten, in steps of `1e308` where one does not do. -/
def scaleDown : Nat → Float → Nat → Float
  | 0, f, _ => f
  | most + 1, f, exponent =>
    if exponent ≤ 308 then f / Float.ofScientific 1 false exponent
    else if f == 0.0 then f
    else scaleDown most (f / Float.ofScientific 1 false 308) (exponent - 308)

/-- The float `significand * 10 ^ exponent`, in front of what follows it; one beyond all floats is refused. -/
def floatOf (negative : Bool) (significand : Nat) (exponent : Int) (rest : Bytes) : Read Json :=
  let f := (UInt64.ofNat significand).toFloat
  let read (f : Float) : Read Json := .ok (.float (if negative then -f else f).toBits, rest)
  if exponent < 0 then read (scaleDown (exponent.natAbs + 1) f exponent.natAbs)
  else if exponent ≤ 308 then
    let f := f * Float.ofScientific 1 false exponent.toNat
    if f.isInf then stopBefore .numberTooLarge rest else read f
  else if f == 0.0 then read f
  else stopBefore .numberTooLarge rest

/-- The digits at the front, as a number if it stays within `bound`, else how many of them fit: the value read,
how many digits were read, and what follows. -/
def takeDigits (bound : Nat) : Nat → Nat → Bytes → Nat × Nat × Bytes
  | value, count, [] => (value, count, [])
  | value, count, byte :: rest =>
    match digitValue? byte with
    | none => (value, count, byte :: rest)
    | some d =>
      if bound < value * 10 + d then (value, count, byte :: rest)
      else takeDigits bound (value * 10 + d) (count + 1) rest

def isDigitByte (byte : UInt8) : Bool :=
  (digitValue? byte).isSome

/-- The largest exponent that is kept as it is. -/
def maxExponent : Int := 2147483647

/-- The exponent after its letter. One that is too large makes a zero, or a number beyond all floats. -/
def exponentPart (negative : Bool) (significand : Nat) (start : Int) (bytes : Bytes) : Read Json :=
  let (down, bytes) := match bytes with
    | 0x2B :: rest => (false, rest)
    | 0x2D :: rest => (true, rest)
    | _ => (false, bytes)
  match bytes with
  | [] => stopBefore .endInValue []
  | byte :: _ =>
    if !isDigitByte byte then stopAt .badNumber bytes
    else
      let (exponent, _, rest) := takeDigits maxExponent.toNat 0 0 bytes
      if rest.head?.any isDigitByte then
        if significand ≠ 0 ∧ !down then stopAt .numberTooLarge rest
        else
          let zero : Float := if negative then -0.0 else 0.0
          .ok (.float zero.toBits, rest.dropWhile isDigitByte)
      else
        let total : Int :=
          if down then max (start - exponent) (-maxExponent - 1) else min (start + exponent) maxExponent
        floatOf negative significand total rest

/-- What may come after the digits of a float: an exponent or nothing. -/
def afterDigits (negative : Bool) (significand : Nat) (exponent : Int) (bytes : Bytes) : Read Json :=
  match bytes with
  | byte :: rest =>
    if byte = 0x65 || byte = 0x45 then exponentPart negative significand exponent rest
    else floatOf negative significand exponent bytes
  | [] => floatOf negative significand exponent bytes

/-- The digits after the point, of which there must be one. Once the significand is full, further digits do not
count. -/
def fractionPart (negative : Bool) (significand : Nat) (exponent : Int) (bytes : Bytes) : Read Json :=
  match bytes with
  | [] => stopBefore .endInValue []
  | byte :: _ =>
    if !isDigitByte byte then stopAt .badNumber bytes
    else
      let (significand, count, rest) := takeDigits maxSignificand significand 0 bytes
      afterDigits negative significand (exponent - count) (rest.dropWhile isDigitByte)

/-- The rest of a number whose digits so far make up the significand, followed by `skipped` more. -/
def afterInteger (negative : Bool) (significand skipped : Nat) (bytes : Bytes) : Read Json :=
  match bytes with
  | 0x2E :: rest => fractionPart negative significand skipped rest
  | _ => afterDigits negative significand skipped bytes

/-- A number, after its sign. -/
def number (negative : Bool) (bytes : Bytes) : Read Json :=
  match bytes with
  | [] => stopBefore .endInValue []
  | first :: afterFirst =>
    if !isDigitByte first then stopAt .badNumber bytes
    else if first = 0x30 && (afterFirst.head?.any isDigitByte) then stopAt .badNumber afterFirst
    else
      let (significand, _, rest) := takeDigits maxSignificand 0 0 bytes
      let more := rest.takeWhile isDigitByte
      let after := rest.dropWhile isDigitByte
      if more ≠ [] then afterInteger negative significand more.length after
      else
        let isFloat := match after with
          | byte :: _ => byte = 0x2E || byte = 0x65 || byte = 0x45
          | [] => false
        if isFloat then afterInteger negative significand 0 after
        else if !negative then .ok (.int significand, after)
        else if significand = 0 ∨ 9223372036854775808 < significand then
          .ok (.float (-(UInt64.ofNat significand).toFloat).toBits, after)
        else .ok (.int (-significand), after)

/-! ## Values -/

/-- The rest of a word. -/
def word (value : Json) : Bytes → Bytes → Read Json
  | [], bytes => .ok (value, bytes)
  | _ :: _, [] => stopBefore .endInValue []
  | letter :: letters, byte :: rest =>
    if byte = letter then word value letters rest else stopBefore .notAWord rest

/-- A value that begins with the byte in front; `array` and `object` read on after the opening bracket. -/
def valueAt (array object : Bytes → Read Json) : Bytes → Read Json
  | [] => stopBefore .endInValue []
  | first :: rest =>
    if first = 0x6E then word .null [0x75, 0x6C, 0x6C] rest
    else if first = 0x74 then word (.bool true) [0x72, 0x75, 0x65] rest
    else if first = 0x66 then word (.bool false) [0x61, 0x6C, 0x73, 0x65] rest
    else if first = 0x2D then number true rest
    else if isDigitByte first then number false (first :: rest)
    else if first = 0x22 then (stringAfterQuote rest).map fun (text, rest) => (.string text, rest)
    else if first = 0x5B then array rest
    else if first = 0x7B then object rest
    else stopBefore .notAValue rest

/-- The items of an array after the first, each behind a comma, at most `most`; those read so far are in `done`,
backwards. -/
def itemsAfter (value : Bytes → Read Json) : Nat → List Json → Bytes → Read Json
  | 0, _, bytes => stopBefore .endInArray bytes
  | most + 1, done, bytes =>
    match skipBlanks bytes with
    | [] => stopBefore .endInArray []
    | byte :: rest =>
      if byte = 0x5D then .ok (.array done.reverse, rest)
      else if byte ≠ 0x2C then stopBefore .noCommaInArray rest
      else
        match skipBlanks rest with
        | [] => stopBefore .endInValue []
        | next :: after =>
          if next = 0x5D then stopBefore .trailingComma after
          else
            match value (next :: after) with
            | .ok (item, rest) => itemsAfter value most (item :: done) rest
            | .error stop => .error stop

/-- An array after its opening bracket. -/
def items (value : Bytes → Read Json) (bytes : Bytes) : Except Stop (Json × Bytes) :=
  match skipBlanks bytes with
  | [] => stopBefore .endInArray []
  | byte :: rest =>
    if byte = 0x5D then .ok (.array [], rest)
    else do
      let (item, rest) ← value (byte :: rest)
      itemsAfter value (rest.length + 1) [item] rest

/-- A member of an object, after the quote that its name begins with. -/
def member (value : Bytes → Read Json) (bytes : Bytes) : Except Stop ((String × Json) × Bytes) := do
  let (name, rest) ← stringAfterQuote bytes
  match skipBlanks rest with
  | [] => stopBefore .endInObject []
  | colon :: rest =>
    if colon ≠ 0x3A then stopBefore .noColon rest
    else
      let (item, rest) ← value rest
      return ((name, item), rest)

/-- The members of an object after the first, each behind a comma, at most `most`; those read so far are in
`done`, backwards. -/
def membersAfter (value : Bytes → Read Json) : Nat → List (String × Json) → Bytes → Read Json
  | 0, _, bytes => stopBefore .endInObject bytes
  | most + 1, done, bytes =>
    match skipBlanks bytes with
    | [] => stopBefore .endInObject []
    | byte :: rest =>
      if byte = 0x7D then .ok (ofMembers done.reverse, rest)
      else if byte ≠ 0x2C then stopBefore .noCommaInObject rest
      else
        match skipBlanks rest with
        | [] => stopBefore .endInValue []
        | quote :: rest =>
          if quote = 0x7D then stopBefore .trailingComma rest
          else if quote ≠ 0x22 then stopBefore .nameNotAString rest
          else
            match member value rest with
            | .ok (item, rest) => membersAfter value most (item :: done) rest
            | .error stop => .error stop

/-- An object after its opening brace. -/
def members (value : Bytes → Read Json) (bytes : Bytes) : Except Stop (Json × Bytes) :=
  match skipBlanks bytes with
  | [] => stopBefore .endInObject []
  | byte :: rest =>
    if byte = 0x7D then .ok (.object [], rest)
    else if byte ≠ 0x22 then stopBefore .nameNotAString rest
    else do
      let (item, rest) ← member value rest
      membersAfter value (rest.length + 1) [item] rest

/-- A value, blanks in front allowed, with at most this many containers around its innermost parts. -/
def value : Nat → Bytes → Read Json
  | 0, bytes => valueAt (stopBefore .tooDeep) (stopBefore .tooDeep) (skipBlanks bytes)
  | depth + 1, bytes => valueAt (items (value depth)) (members (value depth)) (skipBlanks bytes)

/-- Reads a value that is the whole text. -/
def parse (bytes : Bytes) : Except ParseError Json :=
  match value maxDepth bytes with
  | .error stop => .error (stop.toError bytes)
  | .ok (json, rest) =>
    match skipBlanks rest with
    | [] => .ok json
    | rest => .error ((Stop.mk .trailingText rest.tail).toError bytes)

end DebugBridge.Json
