import DebugBridge.Json.Value
import DebugBridge.Text.Decimal

/-!
# Plain values of TOML

Strings in their four forms, numbers, truth values and dates. Every reader takes characters off the front and fails
on what the language does not allow. A date is kept as an object of one member with a name of its own, so that a
reader of records sees a map.
-/

namespace DebugBridge.Toml

/-- Takes a value off the front of a text, or fails. -/
abbrev Parser (α : Type) := List Char → Option (α × List Char)

/-! ## Characters -/

def isSpace (c : Char) : Bool :=
  c = ' ' || c = '\t'

def skipSpaces (text : List Char) : List Char :=
  text.dropWhile isSpace

/-- A line feed, with or without a carriage return before it. -/
def newline? : List Char → Option (List Char)
  | '\n' :: rest => some rest
  | '\r' :: '\n' :: rest => some rest
  | _ => none

/-- Whether a character may stand in comments and strings: a tab, or one that is no ASCII control. -/
def isPrintable (c : Char) : Bool :=
  c = '\t' || (0x20 ≤ c.toNat && c.toNat ≠ 0x7F)

def digitIn? (base : Nat) (c : Char) : Option Nat :=
  let d :=
    if '0' ≤ c ∧ c ≤ '9' then c.toNat - 48
    else if 'a' ≤ c ∧ c ≤ 'f' then c.toNat - 87
    else if 'A' ≤ c ∧ c ≤ 'F' then c.toNat - 55
    else base
  if d < base then some d else none

def isDigitIn (base : Nat) (c : Char) : Bool :=
  (digitIn? base c).isSome

/-! ## Strings -/

/-- The character with this code, written in so many digits of base 16. -/
def codePoint (width : Nat) : Parser Char := fun text =>
  let digits := text.take width
  if digits.length = width && digits.all (isDigitIn 16) then
    let n := digits.foldl (fun n c => n * 16 + (digitIn? 16 c).getD 0) 0
    if n.isValidChar then some (Char.ofNat n, text.drop width) else none
  else none

/-- The character of an escape, after the backslash. -/
def escape : Parser Char
  | 'b' :: rest => some ('\x08', rest)
  | 't' :: rest => some ('\t', rest)
  | 'n' :: rest => some ('\n', rest)
  | 'f' :: rest => some ('\x0c', rest)
  | 'r' :: rest => some ('\r', rest)
  | '"' :: rest => some ('"', rest)
  | '\\' :: rest => some ('\\', rest)
  | 'u' :: rest => codePoint 4 rest
  | 'U' :: rest => codePoint 8 rest
  | _ => none

/-- A string in double quotes, after the first; what is read is in `done`, backwards. -/
def basicString : Nat → List Char → Parser String
  | 0, _, _ => none
  | _ + 1, _, [] => none
  | most + 1, done, c :: rest =>
    if c = '"' then some (String.ofList done.reverse, rest)
    else if c = '\\' then
      match escape rest with
      | some (c, rest) => basicString most (c :: done) rest
      | none => none
    else if isPrintable c then basicString most (c :: done) rest
    else none

/-- A string in apostrophes, after the first. -/
def literalString : Parser String := fun text =>
  match text.dropWhile (fun c => c ≠ '\'' && isPrintable c) with
  | '\'' :: rest => some (String.ofList (text.takeWhile fun c => c ≠ '\'' && isPrintable c), rest)
  | _ => none

/-- Spaces and line ends. -/
def skipSpacesAndNewlines : Nat → List Char → List Char
  | 0, text => text
  | most + 1, text =>
    let text := skipSpaces text
    match newline? text with
    | some rest => skipSpacesAndNewlines most rest
    | none => text

/-- The quotes at a place in a string of several lines: three to five of them end it, all but the last three
belonging to it. -/
def closingQuotes? (quote : Char) (text : List Char) : Option (Nat × List Char) :=
  let count := (text.takeWhile (· = quote)).length
  if count < 3 then none
  else
    let taken := min count 5
    some (taken - 3, text.drop taken)

/-- A string of several lines, after its opening quotes; `escapes` tells whether a backslash is one. A line end
is a line feed, however it was written. -/
def multilineString (quote : Char) (escapes : Bool) : Nat → List Char → Parser String
  | 0, _, _ => none
  | most + 1, done, text =>
    match closingQuotes? quote text with
    | some (inside, rest) => some (String.ofList (done.reverse ++ List.replicate inside quote), rest)
    | none =>
      match newline? text with
      | some rest => multilineString quote escapes most ('\n' :: done) rest
      | none =>
        match text with
        | [] => none
        | c :: rest =>
          if escapes && c = '\\' then
            match newline? (skipSpaces rest) with
            | some rest => multilineString quote escapes most done (skipSpacesAndNewlines rest.length rest)
            | none =>
              match escape rest with
              | some (c, rest) => multilineString quote escapes most (c :: done) rest
              | none => none
          else if isPrintable c then multilineString quote escapes most (c :: done) rest
          else none

/-- A line end just after the opening quotes does not count. -/
def afterOpening (text : List Char) : List Char :=
  (newline? text).getD text

/-- A string on one line. -/
def singleString : Parser String
  | '"' :: rest => basicString (rest.length + 1) [] rest
  | '\'' :: rest => literalString rest
  | _ => none

/-- A string in any of its forms. -/
def string : Parser String
  | '"' :: '"' :: '"' :: rest => multilineString '"' true (rest.length + 1) [] (afterOpening rest)
  | '\'' :: '\'' :: '\'' :: rest => multilineString '\'' false (rest.length + 1) [] (afterOpening rest)
  | text => singleString text

/-! ## Numbers -/

/-- Digits with single underscores between them; the digits alone are given. -/
def digitsIn (base : Nat) : Nat → Parser (List Char)
  | 0, _ => none
  | _ + 1, [] => none
  | most + 1, c :: rest =>
    if isDigitIn base c then
      match rest with
      | '_' :: after => (digitsIn base most after).map fun (digits, rest) => (c :: digits, rest)
      | next :: _ =>
        if isDigitIn base next then (digitsIn base most rest).map fun (digits, rest) => (c :: digits, rest)
        else some ([c], rest)
      | [] => some ([c], [])
    else none

/-- The value of digits. -/
def valueIn (base : Nat) (digits : List Char) : Nat :=
  digits.foldl (fun n c => n * base + (digitIn? base c).getD 0) 0

/-- A sign: whether it is a minus. -/
def sign : List Char → Bool × List Char
  | '+' :: rest => (false, rest)
  | '-' :: rest => (true, rest)
  | text => (false, text)

/-- The digits of a decimal integer: a zero stands alone. -/
def decimalDigits : Parser (List Char)
  | '0' :: rest => some (['0'], rest)
  | text => digitsIn 10 (text.length + 1) text

/-- An integer that is not below zero, in one of the other bases. -/
def prefixed (base : Nat) (text : List Char) : Option (Json × List Char) := do
  let (digits, rest) ← digitsIn base (text.length + 1) text
  let n := valueIn base digits
  if 9223372036854775807 < n then none else return (.int n, rest)

def integer : Parser Json
  | '0' :: 'x' :: rest => prefixed 16 rest
  | '0' :: 'o' :: rest => prefixed 8 rest
  | '0' :: 'b' :: rest => prefixed 2 rest
  | text => do
    let (negative, text) := sign text
    let (digits, rest) ← decimalDigits text
    let n : Int := valueIn 10 digits
    let n := if negative then -n else n
    if -9223372036854775808 ≤ n ∧ n ≤ 9223372036854775807 then return (.int n, rest) else none

/-- The digits after a point. -/
def fraction : Parser (List Char)
  | '.' :: rest => digitsIn 10 (rest.length + 1) rest
  | _ => none

/-- The exponent after its letter. -/
def exponent : Parser Int
  | c :: rest => do
    if c ≠ 'e' && c ≠ 'E' then failure
    let (negative, rest) := sign rest
    let (digits, rest) ← digitsIn 10 (rest.length + 1) rest
    let n : Int := valueIn 10 digits
    return (if negative then -n else n, rest)
  | [] => none

/-- The float nearest to `significand * 10 ^ exponent`. An exponent far out of range is as good as a nearer one. -/
def nearestFloat (significand : Nat) (exponent : Int) : Float :=
  let exponent := max (-100000) (min 100000 exponent)
  if exponent < 0 then Float.ofScientific significand true exponent.natAbs
  else if significand = 0 then 0.0
  else if 400 < exponent then Float.ofScientific 1 false 400
  else Float.ofScientific significand false exponent.natAbs

/-- A float: an integer with a fraction, an exponent or both, or one of the two words. One above all floats is
refused. -/
def float (text : List Char) : Option (Json × List Char) := do
  let (negative, text) := sign text
  let signed (f : Float) : Float := if negative then -f else f
  match text with
  | 'i' :: 'n' :: 'f' :: rest => return (.float (signed (1.0 / 0.0)).toBits, rest)
  | 'n' :: 'a' :: 'n' :: rest => return (.float (0.0 / 0.0 : Float).toBits, rest)
  | _ =>
    let (whole, rest) ← decimalDigits text
    let (parts, point, rest) ←
      match fraction rest with
      | some (digits, rest) =>
        match exponent rest with
        | some (e, rest) => some (whole ++ digits, e - digits.length, rest)
        | none => some (whole ++ digits, -(digits.length : Int), rest)
      | none =>
        match exponent rest with
        | some (e, rest) => some (whole, e, rest)
        | none => none
    let f := signed (nearestFloat (valueIn 10 parts) point)
    if f == 1.0 / 0.0 then none else return (.float f.toBits, rest)

/-! ## Dates -/

/-- A number of so many digits within bounds. -/
def fixed (width low high : Nat) : Parser Nat := fun text =>
  let digits := text.take width
  if digits.length = width && digits.all (isDigitIn 10) then
    let n := valueIn 10 digits
    if low ≤ n && n ≤ high then some (n, text.drop width) else none
  else none

/-- One character. -/
def char (c : Char) : Parser Unit
  | d :: rest => if d = c then some ((), rest) else none
  | [] => none

def daysIn (year month : Nat) : Nat :=
  if month = 2 then
    if year % 4 = 0 && (year % 100 ≠ 0 || year % 400 = 0) then 29 else 28
  else if month = 4 || month = 6 || month = 9 || month = 11 then 30
  else 31

def day (text : List Char) : Option (Unit × List Char) := do
  let (year, text) ← fixed 4 0 9999 text
  let (_, text) ← char '-' text
  let (month, text) ← fixed 2 1 12 text
  let (_, text) ← char '-' text
  let (_, text) ← fixed 2 1 (daysIn year month) text
  return ((), text)

def time (text : List Char) : Option (Unit × List Char) := do
  let (_, text) ← fixed 2 0 23 text
  let (_, text) ← char ':' text
  let (_, text) ← fixed 2 0 59 text
  let (_, text) ← char ':' text
  let (_, text) ← fixed 2 0 60 text
  match text with
  | '.' :: c :: rest => if isDigitIn 10 c then return ((), rest.dropWhile (isDigitIn 10)) else return ((), text)
  | _ => return ((), text)

/-- The distance from universal time. -/
def offset : Parser Unit
  | 'Z' :: rest => some ((), rest)
  | 'z' :: rest => some ((), rest)
  | c :: rest => do
    if c ≠ '+' && c ≠ '-' then failure
    let (_, rest) ← fixed 2 0 23 rest
    let (_, rest) ← char ':' rest
    let (_, rest) ← fixed 2 0 59 rest
    return ((), rest)
  | [] => none

/-- The name of the one member of a date. -/
def dateMember : String := "$__toml_private_datetime"

/-- A day, a time of day, or both with or without an offset. -/
def date (text : List Char) : Option (Json × List Char) := do
  let (_, rest) ←
    match day text with
    | some (_, afterDay) =>
      match afterDay with
      | c :: rest =>
        if c = 'T' || c = 't' || c = ' ' then
          match time rest with
          | some (_, afterTime) => some ((offset afterTime).getD ((), afterTime))
          | none => some ((), afterDay)
        else some ((), afterDay)
      | [] => some ((), [])
    | none => time text
  let written := String.ofList (text.take (text.length - rest.length))
  return (.object [(dateMember, .string written)], rest)

/-- A truth value. -/
def bool : Parser Json
  | 't' :: 'r' :: 'u' :: 'e' :: rest => some (.bool true, rest)
  | 'f' :: 'a' :: 'l' :: 's' :: 'e' :: rest => some (.bool false, rest)
  | _ => none

/-- A value that is no array and no table. -/
def scalar (text : List Char) : Option (Json × List Char) :=
  match text with
  | '"' :: _ | '\'' :: _ => (string text).map fun (s, rest) => (.string s, rest)
  | 't' :: _ | 'f' :: _ => bool text
  | _ => (date text).or ((float text).or (integer text))

end DebugBridge.Toml
