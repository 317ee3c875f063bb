import DebugBridge.Text.Utf8

/-!
# Decimal numbers

Digits of a natural number, how a length is read from text, and the shortest decimal that reads back as a given
64-bit float.
-/

namespace DebugBridge.Decimal

/-! ## Digits -/

/-- The digit characters of `n`, without leading zeros. -/
def digits (n : Nat) : List Char :=
  if n < 10 then [Char.ofNat (48 + n)] else digits (n / 10) ++ [Char.ofNat (48 + n % 10)]

/-- The value of a digit character. -/
def digit? (c : Char) : Option Nat :=
  if '0' ≤ c ∧ c ≤ '9' then some (c.toNat - 48) else none

/-! ## Lengths -/

/-- Why a text is no length. -/
inductive LengthError where
  | empty
  | invalidDigit
  | tooLarge
  deriving DecidableEq, Repr

def LengthError.message : LengthError → String
  | empty => "cannot parse integer from empty string"
  | invalidDigit => "invalid digit found in string"
  | tooLarge => "number too large to fit in target type"

/-- Reads digits onto `value`, up to the largest 64-bit number. The first character at fault decides the
error. -/
def readDigits (value : Nat) : List Char → Except LengthError Nat
  | [] => .ok value
  | c :: rest =>
    match digit? c with
    | none => .error .invalidDigit
    | some d => if 18446744073709551615 < value * 10 + d then .error .tooLarge else readDigits (value * 10 + d) rest

/-- A length: decimal digits, at least one, after an optional plus. -/
def parseLength (text : List Char) : Except LengthError Nat :=
  match text with
  | [] => .error .empty
  | ['+'] => .error .invalidDigit
  | '+' :: rest => readDigits 0 rest
  | _ => readDigits 0 text

/-! ## Floats

A finite double is `m * 2 ^ e`. The reals that round to it lie between the midpoints to its two neighbours, these
included when `m` is even. Of the decimals in that interval the shortest is taken, and of those the one
nearest to the float. -/

/-- A positive double taken apart: `mantissa * 2 ^ exponent`. -/
structure Binary where
  mantissa : Nat
  exponent : Int
  /-- Whether the neighbour below is only half as far away as the one above. -/
  narrowBelow : Bool
  deriving Repr

/-- The magnitude of a double by its bits; infinities and NaN are not covered. -/
def Binary.ofBits (bits : UInt64) : Binary :=
  let fraction := (bits &&& 0xFFFFFFFFFFFFF).toNat
  let biased := ((bits >>> 52) &&& 0x7FF).toNat
  if biased = 0 then ⟨fraction, -1074, false⟩
  else ⟨fraction + 4503599627370496, (biased : Int) - 1075, fraction = 0 && 1 < biased⟩

/-- A decimal `digits * 10 ^ exponent`. -/
structure Scientific where
  digits : Nat
  exponent : Int
  deriving Repr, DecidableEq

/-- An interval of numbers with one denominator, with a point in it. -/
structure Interval where
  low : Nat
  point : Nat
  high : Nat
  closed : Bool
  denominator : Nat

/-- The reals that round to a double, scaled so that all three numbers are whole over the denominator. -/
def Binary.interval (b : Binary) : Interval :=
  let up := Nat.pow 2 b.exponent.toNat
  let down := Nat.pow 2 (-b.exponent).toNat
  let closed := b.mantissa % 2 = 0
  { low := (4 * b.mantissa - (if b.narrowBelow then 1 else 2)) * up
    point := 4 * b.mantissa * up
    high := (4 * b.mantissa + 2) * up
    closed
    denominator := 4 * down }

/-- Whether `d * 10 ^ exponent` lies in the interval. -/
def Interval.contains (i : Interval) (d : Nat) (exponent : Int) : Bool :=
  let value := d * Nat.pow 10 exponent.toNat * i.denominator
  let scale := Nat.pow 10 (-exponent).toNat
  if i.closed then i.low * scale ≤ value && value ≤ i.high * scale
  else i.low * scale < value && value < i.high * scale

/-- The nearest multiple of `10 ^ exponent` in the interval, if one of the point's two neighbours on that grid
lies there; a tie goes to the even one. -/
def Interval.onGrid? (i : Interval) (exponent : Int) : Option Nat :=
  let numerator := i.point * Nat.pow 10 (-exponent).toNat
  let unit := i.denominator * Nat.pow 10 exponent.toNat
  let below := numerator / unit
  let rest := numerator % unit
  let belowIn := i.contains below exponent
  let aboveIn := i.contains (below + 1) exponent
  if belowIn && aboveIn then
    if 2 * rest < unit || (2 * rest = unit && below % 2 = 0) then some below else some (below + 1)
  else if belowIn then some below
  else if aboveIn then some (below + 1)
  else none

/-- Tries ever finer grids, at most `more`, from `10 ^ exponent` on. -/
def Interval.coarsest (i : Interval) : Nat → Int → Scientific
  | 0, exponent => ⟨i.point * Nat.pow 10 (-exponent).toNat / (i.denominator * Nat.pow 10 exponent.toNat), exponent⟩
  | more + 1, exponent =>
    match i.onGrid? exponent with
    | some 0 => i.coarsest more (exponent - 1)
    | some d => ⟨d, exponent⟩
    | none => i.coarsest more (exponent - 1)

/-- A place `k`, not far off, such that a positive fraction is less than `10 ^ k`. -/
def placeAbove (numerator denominator : Nat) : Int :=
  if denominator ≤ numerator then ((numerator / denominator).log2 * 31 / 100 + 1 : Nat)
  else -((denominator / numerator).log2 * 3 / 10 : Nat) + 1

/-- The shortest decimal that rounds to a positive double. -/
def shortest (bits : UInt64) : Scientific :=
  let i := (Binary.ofBits bits).interval
  i.coarsest 40 (placeAbove i.point i.denominator)

/-- Removes the zeros at the end of the digits, at most `more`. -/
def Scientific.normalize : Nat → Scientific → Scientific
  | 0, s => s
  | more + 1, s =>
    if s.digits % 10 = 0 && s.digits ≠ 0 then normalize more ⟨s.digits / 10, s.exponent + 1⟩ else s

/-! ### Layouts -/

/-- How a format writes floats: whether positions are plain when `point` digits of the decimal's own stand
before its point (a number not above 0 tells of zeros after it), and what stands for no number. -/
structure FloatLayout where
  positional (point : Int) : Bool
  nan : String
  infinity : String

def zeros (n : Nat) : List Char :=
  List.replicate n '0'

/-- A positive decimal in plain positions, with at least one digit on both sides of the point. -/
def plain (s : Scientific) : List Char :=
  let ds := digits s.digits
  let point := (ds.length : Int) + s.exponent
  if 0 ≤ s.exponent then ds ++ zeros s.exponent.toNat ++ ['.', '0']
  else if 0 < point then ds.take point.toNat ++ ['.'] ++ ds.drop point.toNat
  else ['0', '.'] ++ zeros (-point).toNat ++ ds

/-- A positive decimal with an exponent; a single digit stands without a point. -/
def exponential (s : Scientific) : List Char :=
  let ds := digits s.digits
  let exponent := (ds.length : Int) + s.exponent - 1
  let sign := if exponent < 0 then ['-'] else []
  let significand := match ds with
    | d :: e :: rest => d :: '.' :: e :: rest
    | short => short
  significand ++ ['e'] ++ sign ++ digits exponent.natAbs

/-- The text of a double in a layout. -/
def FloatLayout.text (layout : FloatLayout) (bits : UInt64) : String :=
  let sign := if bits >>> 63 = 1 then ['-'] else []
  let magnitude := bits &&& 0x7FFFFFFFFFFFFFFF
  if 0x7FF0000000000000 < magnitude then layout.nan
  else if magnitude = 0x7FF0000000000000 then String.ofList sign ++ layout.infinity
  else if magnitude = 0 then String.ofList (sign ++ ['0', '.', '0'])
  else
    let s := (shortest magnitude).normalize 400
    let point := ((digits s.digits).length : Int) + s.exponent
    String.ofList (sign ++ if layout.positional point then plain s else exponential s)

end DebugBridge.Decimal
