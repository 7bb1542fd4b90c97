import DriverSurvey.Text.Digit
/-!
# Numeral — numbers as JSON writes them

A numeral is kept digit by digit, so that reading it as a whole number and reading it as a binary64 number can follow
rules of their own.  `scan?` takes one off the front of a text, `text` writes it.
-/
namespace DriverSurvey
namespace Json

/-- A number in decimal digits: the sign, the digits before the point, those after it if there is one, and the power
of ten with its sign if there is one. -/
structure Numeral where
  negative : Bool := false
  whole : List Char
  fraction : Option (List Char) := none
  exponent : Option (Bool × List Char) := none
  deriving DecidableEq, Repr

/-! ## Digits -/

/-- The digits at the front of a text, and the rest. -/
def spanDigits : List Char → List Char × List Char
  | [] => ([], [])
  | c :: rest =>
    if isDecimal c then (c :: (spanDigits rest).1, (spanDigits rest).2) else ([], c :: rest)

namespace Numeral

/-! ## Text -/

/-- The numeral of a number. -/
def ofNat (n : Nat) : Numeral where
  whole := digitsOf 10 n

/-- Zero with a point, as a binary64 number is written. -/
def zeroPointZero : Numeral where
  whole := ['0']
  fraction := some ['0']

/-- The characters of a numeral.  No sign stands before a power of ten that is not negative. -/
def text (n : Numeral) : List Char :=
  (if n.negative then ['-'] else []) ++ n.whole ++
    (match n.fraction with | none => [] | some digits => '.' :: digits) ++
    (match n.exponent with
      | none => []
      | some (negative, digits) => 'e' :: ((if negative then ['-'] else []) ++ digits))

/-! ## Reading -/

/-- The digits before the point: zero alone, or digits that do not begin with zero. -/
def scanWhole? : List Char → Option (List Char × List Char)
  | [] => none
  | c :: rest =>
    if c == '0' then some (['0'], rest)
    else if isDecimal c then some (c :: (spanDigits rest).1, (spanDigits rest).2)
    else none

/-- One digit or more. -/
def scanDigits? (text : List Char) : Option (List Char × List Char) :=
  if (spanDigits text).1.isEmpty then none else some (spanDigits text)

/-- The part behind a point, if there is a point. -/
def scanFraction? : List Char → Option (Option (List Char) × List Char)
  | '.' :: rest => (scanDigits? rest).map fun (digits, rest) => (some digits, rest)
  | text => some (none, text)

/-- An optional sign; whether it is a minus. -/
def scanSign : List Char → Bool × List Char
  | '+' :: rest => (false, rest)
  | '-' :: rest => (true, rest)
  | text => (false, text)

/-- The power of ten, if there is one. -/
def scanExponent? : List Char → Option (Option (Bool × List Char) × List Char)
  | [] => some (none, [])
  | c :: rest =>
    if c == 'e' || c == 'E' then
      (scanDigits? (scanSign rest).2).map fun (digits, after) => (some ((scanSign rest).1, digits), after)
    else some (none, c :: rest)

/-- A minus, if there is one. -/
def scanMinus : List Char → Bool × List Char
  | '-' :: rest => (true, rest)
  | text => (false, text)

/-- A numeral at the front of a text, and the rest. -/
def scan? (text : List Char) : Option (Numeral × List Char) := do
  let (whole, rest) ← scanWhole? (scanMinus text).2
  let (fraction, rest) ← scanFraction? rest
  let (exponent, rest) ← scanExponent? rest
  return (⟨(scanMinus text).1, whole, fraction, exponent⟩, rest)

/-! ## Whole numbers -/

/-- The whole number of a numeral below a limit.  A point, a power of ten or a minus is refused, even before zero. -/
def toNatBelow? (limit : Nat) (n : Numeral) : Option Nat :=
  if n.negative || n.fraction.isSome || n.exponent.isSome then none
  else if spelled 10 n.whole < limit then some (spelled 10 n.whole)
  else none

/-! ## Binary64 numbers

The digits are gathered in sixty-four bits; those that do not fit are dropped, and count only as powers of ten if they
stand before the point.  The power of ten is then applied by one rounded multiplication or division, after rounded
divisions by 10 ^ 308 where it is smaller than that. -/

/-- Gather digits behind a significand as long as it fits sixty-four bits: the significand, and how many digits did
not fit. -/
def gather (significand : Nat) : List Char → Nat × Nat
  | [] => (significand, 0)
  | c :: rest =>
    let next := significand * 10 + digitValue c
    if next < Nat.pow 2 64 then gather next rest else (significand, rest.length + 1)

/-- The largest power of ten that is applied in one step. -/
def stepPower : Nat := 308

/-- A power of ten as a binary64 number. -/
def powerOfTen (n : Nat) : Float := Float.ofScientific 1 false n

/-- Divide by powers of ten until what is left is one step; so many divisions at most. -/
def scaleDown (f : Float) (power : Nat) : Nat → Float
  | 0 => f
  | limit + 1 =>
    if power ≤ stepPower then f / powerOfTen power
    else if f == 0.0 then f
    else scaleDown (f / powerOfTen stepPower) (power - stepPower) limit

/-- A significand times a power of ten; `none` beyond the finite numbers. -/
def scale (significand : Nat) (power : Int) : Option Float :=
  let f := (UInt64.ofNat significand).toFloat
  match power with
  | .ofNat n =>
    if n ≤ stepPower then
      let scaled := f * powerOfTen n
      if scaled.isInf then none else some scaled
    else if f == 0.0 then some f
    else none
  | .negSucc n => some (scaleDown f (n + 1) 4)

/-- The limits of the power of ten: thirty-two bits with a sign. -/
def clampPower (power : Int) : Int :=
  max (-(Nat.pow 2 31 : Int)) (min power ((Nat.pow 2 31 : Int) - 1))

/-- The power of ten that is written; `none` where it does not fit thirty-two bits with a sign. -/
def writtenPower? (n : Numeral) : Option Int :=
  match n.exponent with
  | none => some 0
  | some (negative, digits) =>
    if spelled 10 digits < Nat.pow 2 31 then
      some (if negative then -(spelled 10 digits : Int) else (spelled 10 digits : Int))
    else none

/-- The magnitude of a numeral as a binary64 number. -/
def magnitude? (n : Numeral) : Option Float :=
  let (before, beyond) := gather 0 n.whole
  let (significand, shift) :=
    match n.fraction with
    | none => (before, (beyond : Int))
    | some digits =>
      let (significand, dropped) := gather before digits
      (significand, (beyond : Int) - (digits.length - dropped : Nat))
  match n.writtenPower? with
  | some power => scale significand (clampPower (shift + power))
  | none =>
    let isNegative := match n.exponent with | some (negative, _) => negative | none => false
    if significand == 0 || isNegative then some 0.0 else none

/-- The binary64 number of a numeral. -/
def toFloat? (n : Numeral) : Option Float :=
  n.magnitude?.map fun f => if n.negative then -f else f

end Numeral
end Json
end DriverSurvey
