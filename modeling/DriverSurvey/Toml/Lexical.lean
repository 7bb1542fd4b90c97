import DriverSurvey.Text.Digit
/-!
# Lexical — the words of TOML

Each reader takes a word off the front of the text and returns it with the rest, or refuses.
-/
namespace DriverSurvey
namespace Toml

/-- What takes an `α` off the front of a text. -/
abbrev Reader (α : Type) : Type := List Char → Option (α × List Char)

/-! ## Space and comments -/

def isSpace (c : Char) : Bool := c == ' ' || c == '\t'

/-- The characters beyond ASCII are allowed wherever text is. -/
def isBeyondAscii (c : Char) : Bool := 0x80 ≤ c.toNat

/-- What may stand in a comment: the tab, and everything that is no control character. -/
def isCommentChar (c : Char) : Bool :=
  c == '\t' || (0x20 ≤ c.toNat && c.toNat ≤ 0x7E) || isBeyondAscii c

def skipSpace (text : List Char) : List Char := text.dropWhile isSpace

/-- The rest behind a line break. -/
def lineBreak? : List Char → Option (List Char)
  | '\n' :: rest => some rest
  | '\r' :: '\n' :: rest => some rest
  | _ => none

def skipComment : List Char → List Char
  | '#' :: rest => rest.dropWhile isCommentChar
  | text => text

/-- The rest behind the end of a line that holds nothing more than a comment. -/
def lineEnd? (text : List Char) : Option (List Char) :=
  match skipComment (skipSpace text) with
  | [] => some []
  | rest => lineBreak? rest

/-- Skip space, comments and line breaks; so many lines at most. -/
def skipLines : Nat → List Char → Option (List Char)
  | 0, _ => none
  | limit + 1, text =>
    match skipSpace text with
    | '#' :: rest => (lineBreak? (rest.dropWhile isCommentChar)).bind (skipLines limit)
    | '\n' :: rest => skipLines limit rest
    | '\r' :: rest => (lineBreak? ('\r' :: rest)).bind (skipLines limit)
    | rest => some rest

/-! ## Digits -/

/-- The digits that go on a number.  One underscore may stand before each of them. -/
def moreDigits (base : Nat) : Reader (List Char)
  | [] => some ([], [])
  | '_' :: c :: rest =>
    if isDigitOf base c then (moreDigits base rest).map fun (digits, rest) => (c :: digits, rest) else none
  | c :: rest =>
    if c == '_' then none
    else if isDigitOf base c then (moreDigits base rest).map fun (digits, rest) => (c :: digits, rest)
    else some ([], c :: rest)

/-- At least one digit. -/
def digits (base : Nat) : Reader (List Char)
  | [] => none
  | c :: rest =>
    if isDigitOf base c then (moreDigits base rest).map fun (digits, rest) => (c :: digits, rest) else none

/-- Exactly so many decimal digits, as a number. -/
def fixedNumber (count : Nat) (text : List Char) : Option (Nat × List Char) :=
  if (text.take count).length == count && (text.take count).all isDecimal then
    some (spelled 10 (text.take count), text.drop count)
  else none

/-! ## Numbers -/

/-- A number as it is written: sign, digits before and after the point, and the power of ten. -/
structure Decimal where
  negative : Bool
  whole : List Char
  fraction : List Char
  exponent : Int

/-- An optional sign; whether it is a minus. -/
def sign : List Char → Bool × List Char
  | '+' :: rest => (false, rest)
  | '-' :: rest => (true, rest)
  | text => (false, text)

/-- The digits before the point: zero alone, or digits that do not begin with zero. -/
def wholeDigits : Reader (List Char)
  | '0' :: rest => some (['0'], rest)
  | text => digits 10 text

/-- The power of ten behind `e`. -/
def exponentPart (text : List Char) : Option (Int × List Char) :=
  let (negative, rest) := sign text
  (digits 10 rest).map fun (digits, rest) =>
    (if negative then -(spelled 10 digits : Int) else (spelled 10 digits : Int), rest)

/-- What follows the digits before the point: a fraction, a power of ten, or both; `false` where there is neither. -/
def fractionAndExponent (text : List Char) : Option ((Bool × List Char × Int) × List Char) :=
  let power (fraction : List Char) (isFloat : Bool) : List Char → Option ((Bool × List Char × Int) × List Char)
    | c :: rest =>
      if c == 'e' || c == 'E' then
        (exponentPart rest).map fun (exponent, rest) => ((true, fraction, exponent), rest)
      else some ((isFloat, fraction, 0), c :: rest)
    | [] => some ((isFloat, fraction, 0), [])
  match text with
  | '.' :: rest => (digits 10 rest).bind fun (fraction, rest) => power fraction true rest
  | text => power [] false text

/-- Whether the nearest binary64 number is beyond the finite ones.  Numbers with very many or very few digits before
the point are settled by their length. -/
def Decimal.overflows (d : Decimal) : Bool :=
  let significand := spelled 10 (d.whole ++ d.fraction)
  let power := d.exponent - d.fraction.length
  let places := (digitsOf 10 significand).length + power
  if significand == 0 then false
  else if places > 400 then true
  else if places < 300 then false
  else if power ≥ 0 then significand * Nat.pow 10 power.toNat ≥ Nat.pow 2 1024 - Nat.pow 2 970
  else significand ≥ (Nat.pow 2 1024 - Nat.pow 2 970) * Nat.pow 10 (-power).toNat

/-- An integer with a marked base. -/
def markedInteger (base : Nat) (text : List Char) : Option (Int × List Char) :=
  (digits base text).bind fun (digits, rest) =>
    if spelled base digits < Nat.pow 2 63 then some ((spelled base digits : Int), rest) else none

/-- A whole number has to fit sixty-four bits with a sign. -/
def signedInteger? (negative : Bool) (digits : List Char) : Option Int :=
  let n : Int := if negative then -(spelled 10 digits : Int) else (spelled 10 digits : Int)
  if -(Nat.pow 2 63 : Int) ≤ n && n < (Nat.pow 2 63 : Int) then some n else none

/-- A number: an integer, or `none` for one with a fraction or a power of ten.  The latter must not round to positive
infinity unless it is written as such. -/
def number (text : List Char) : Option (Option Int × List Char) :=
  match text with
  | '0' :: 'x' :: rest => (markedInteger 16 rest).map fun (n, rest) => (some n, rest)
  | '0' :: 'o' :: rest => (markedInteger 8 rest).map fun (n, rest) => (some n, rest)
  | '0' :: 'b' :: rest => (markedInteger 2 rest).map fun (n, rest) => (some n, rest)
  | text =>
    let (negative, unsigned) := sign text
    match unsigned with
    | 'i' :: 'n' :: 'f' :: rest => some (none, rest)
    | 'n' :: 'a' :: 'n' :: rest => some (none, rest)
    | unsigned => do
      let (whole, rest) ← wholeDigits unsigned
      let ((isFloat, fraction, exponent), rest) ← fractionAndExponent rest
      if isFloat then
        if !negative && (Decimal.mk negative whole fraction exponent).overflows then none else some (none, rest)
      else
        (signedInteger? negative whole).map fun n => (some n, rest)

/-! ## Dates and times -/

/-- The number of days of a month. -/
def monthLength (year month : Nat) : Nat :=
  if month == 2 then
    if year % 4 == 0 && (year % 100 != 0 || year % 400 == 0) then 29 else 28
  else if [4, 6, 9, 11].contains month then 30
  else 31

/-- What a reader that commits itself finds: nothing of its kind, a mistake, or the rest. -/
inductive Sighting where
  | absent
  | mistake
  | seen (rest : List Char)

/-- A time of day behind its hour and colon. -/
def minutesAndSeconds (text : List Char) : Option (List Char) := do
  let (minute, rest) ← fixedNumber 2 text
  if minute > 59 then none
  else match rest with
    | ':' :: rest => do
      let (second, rest) ← fixedNumber 2 rest
      if second > 60 then none
      else match rest with
        | '.' :: c :: more => if isDecimal c then some (more.dropWhile isDecimal) else some rest
        | rest => some rest
    | _ => none

/-- A time of day.  Once the colon behind the hour is there, nothing else is possible. -/
def timeOfDay (text : List Char) : Sighting :=
  match fixedNumber 2 text with
  | some (hour, ':' :: rest) =>
    if hour > 23 then .absent
    else match minutesAndSeconds rest with
      | some rest => .seen rest
      | none => .mistake
  | _ => .absent

/-- The distance from universal time, if there is one. -/
def timeOffset (text : List Char) : Option (List Char) :=
  match text with
  | c :: rest =>
    if c == 'Z' || c == 'z' then some rest
    else if c == '+' || c == '-' then
      match fixedNumber 2 rest with
      | some (hour, ':' :: rest) =>
        match fixedNumber 2 rest with
        | some (minute, rest) => if hour ≤ 23 && minute ≤ 59 then some rest else none
        | none => none
      | _ => none
    else some text
  | [] => some []

/-- A date with, optionally, a time and an offset. -/
def dateAndTime (text : List Char) : Sighting :=
  match fixedNumber 4 text with
  | some (year, '-' :: rest) =>
    match fixedNumber 2 rest with
    | some (month, '-' :: rest) =>
      match fixedNumber 2 rest with
      | some (day, rest) =>
        if 1 ≤ month && month ≤ 12 && 1 ≤ day && day ≤ monthLength year month then
          match rest with
          | c :: more =>
            if c == 'T' || c == 't' || c == ' ' then
              match timeOfDay more with
              | .absent => .seen rest
              | .mistake => .mistake
              | .seen rest =>
                match timeOffset rest with
                | some rest => .seen rest
                | none => .mistake
            else .seen rest
          | [] => .seen []
        else .mistake
      | none => .mistake
    | _ => .mistake
  | _ => .absent

/-- A date, or a time without one. -/
def instant (text : List Char) : Sighting :=
  match dateAndTime text with
  | .absent => timeOfDay text
  | other => other

/-! ## Strings -/

/-- What may stand in quotes unescaped. -/
def isBasicChar (c : Char) : Bool :=
  isCommentChar c && c != '"' && c != '\\'

/-- What may stand in apostrophes. -/
def isLiteralChar (c : Char) : Bool :=
  isCommentChar c && c != '\''

/-- A character given by so many hexadecimal digits.  It has to be a Unicode scalar value. -/
def hexChar (count : Nat) (text : List Char) : Option (Char × List Char) :=
  let digits := text.take count
  let n := spelled 16 digits
  if digits.length == count && digits.all (isDigitOf 16) && (n < 0xD800 || (0xDFFF < n && n < 0x110000)) then
    some (Char.ofNat n, text.drop count)
  else none

/-- The character that an escape stands for, behind its backslash. -/
def escape : Reader Char
  | 'b' :: rest => some ('\x08', rest)
  | 't' :: rest => some ('\t', rest)
  | 'n' :: rest => some ('\n', rest)
  | 'f' :: rest => some ('\x0C', rest)
  | 'r' :: rest => some ('\r', rest)
  | '"' :: rest => some ('"', rest)
  | '\\' :: rest => some ('\\', rest)
  | 'u' :: rest => hexChar 4 rest
  | 'U' :: rest => hexChar 8 rest
  | _ => none

/-- The rest of a quoted string on one line; so many characters at most. -/
def basicBody : Nat → Reader (List Char)
  | 0, _ => none
  | limit + 1, text =>
    match text with
    | '"' :: rest => some ([], rest)
    | '\\' :: rest => do
      let (c, rest) ← escape rest
      let (body, rest) ← basicBody limit rest
      return (c :: body, rest)
    | c :: rest =>
      if isBasicChar c then (basicBody limit rest).map fun (body, rest) => (c :: body, rest) else none
    | [] => none

/-- The rest of a string in apostrophes on one line. -/
def literalBody : Reader (List Char)
  | [] => none
  | c :: rest =>
    if c == '\'' then some ([], rest)
    else if isLiteralChar c then (literalBody rest).map fun (body, rest) => (c :: body, rest)
    else none

/-- The rest behind a backslash that ends a line: space, the break, then all space and breaks that follow. -/
def continuedLine? (text : List Char) : Option (List Char) :=
  (lineBreak? (skipSpace text)).map skipBlank
where
  /-- Skip space and line breaks. -/
  skipBlank : List Char → List Char
    | [] => []
    | '\r' :: '\n' :: rest => skipBlank rest
    | c :: rest => if isSpace c || c == '\n' then skipBlank rest else c :: rest

/-- The rest of a string over several lines, up to three marks.  One or two marks stand for themselves; of four or five
at the end, those before the last three do.  Without `escapes` a backslash is a character like any other. -/
def longBody (mark : Char) (escapes : Bool) : Nat → Reader (List Char)
  | 0, _ => none
  | limit + 1, text =>
    match text with
    | [] => none
    | c :: rest =>
      if c == mark then
        let run := 1 + (rest.takeWhile (· == mark)).length
        if run ≥ 3 then
          let kept := min (run - 3) 2
          some (List.replicate kept mark, text.drop (kept + 3))
        else (longBody mark escapes limit rest).map fun (body, rest) => (mark :: body, rest)
      else if escapes && c == '\\' then
        match continuedLine? rest with
        | some rest => longBody mark escapes limit rest
        | none => do
          let (c, rest) ← escape rest
          let (body, rest) ← longBody mark escapes limit rest
          return (c :: body, rest)
      else
        match lineBreak? text with
        | some rest => (longBody mark escapes limit rest).map fun (body, rest) => ('\n' :: body, rest)
        | none =>
          if isCommentChar c then (longBody mark escapes limit rest).map fun (body, rest) => (c :: body, rest)
          else none

/-- A string over several lines behind its opening marks.  A line break right behind them does not count. -/
def longString (mark : Char) (escapes : Bool) (text : List Char) : Option (String × List Char) :=
  let body := (lineBreak? text).getD text
  (longBody mark escapes (body.length + 1) body).map fun (body, rest) => (String.ofList body, rest)

/-- A string on one line, with its marks. -/
def shortString : Reader String
  | '"' :: rest => (basicBody (rest.length + 1) rest).map fun (body, rest) => (String.ofList body, rest)
  | '\'' :: rest => (literalBody rest).map fun (body, rest) => (String.ofList body, rest)
  | _ => none

/-- A string of any kind. -/
def string : Reader String
  | '"' :: '"' :: '"' :: rest => longString '"' true rest
  | '\'' :: '\'' :: '\'' :: rest => longString '\'' false rest
  | text => shortString text

end Toml
end DriverSurvey
