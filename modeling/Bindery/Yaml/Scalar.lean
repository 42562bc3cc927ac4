import Bindery.Text.Digits

/-!
# Plain scalars

What an unquoted text stands for: nothing, a truth value, a number, or just itself.  The rules are
those of the core schema, with binary integers, and a number with leading zeros is no number.
-/

namespace Bindery.Yaml

def nullWords : List String :=
  ["~", "null", "Null", "NULL"]

def trueWords : List String :=
  ["true", "True", "TRUE"]

def falseWords : List String :=
  ["false", "False", "FALSE"]

def isNull (text : String) : Bool :=
  text == "" || nullWords.contains text

def flag? (text : String) : Option Bool :=
  if trueWords.contains text then some true
  else if falseWords.contains text then some false
  else none

/-! ## Integers -/

/-- Whether there are several digits that start with a zero. -/
def hasLeadingZero (digits : List Char) : Bool :=
  match digits with
  | '0' :: rest => !rest.isEmpty && rest.all Char.isDigit
  | _ => false

def decimal? (digits : List Char) : Option Nat :=
  if hasLeadingZero digits then none else Text.inRadix? 10 digits

/-- A number without a sign, in one of the four radices. -/
def magnitude? (text : List Char) : Option Nat :=
  match text with
  | '0' :: 'x' :: digits => Text.inRadix? 16 digits
  | '0' :: 'o' :: digits => Text.inRadix? 8 digits
  | '0' :: 'b' :: digits => Text.inRadix? 2 digits
  | digits => decimal? digits

def integer? (text : List Char) : Option Int :=
  match text with
  | '+' :: rest => (magnitude? rest).map Int.ofNat
  | '-' :: rest => (magnitude? rest).map fun value => -(value : Int)
  | rest => (magnitude? rest).map Int.ofNat

/-! ## Numbers with a fraction or an exponent -/

/-- A decimal number `digits · 10 ^ exponent`. -/
structure DecimalNumber where
  digits : List Char
  exponent : Int

/-- An optional exponent at the end of a number. -/
def exponent? (text : List Char) : Option Int :=
  match text with
  | [] => some 0
  | c :: rest =>
    if c = 'e' ∨ c = 'E' then
      match rest with
      | '+' :: digits => (Text.inRadix? 10 digits).map Int.ofNat
      | '-' :: digits => (Text.inRadix? 10 digits).map fun value => -(value : Int)
      | digits => (Text.inRadix? 10 digits).map Int.ofNat
    else none

/-- A number without a sign: digits with a point anywhere among them, and perhaps an exponent. -/
def unsignedNumber? (text : List Char) : Option DecimalNumber := do
  let whole := text.takeWhile Char.isDigit
  let (fraction, rest) :=
    match text.dropWhile Char.isDigit with
    | '.' :: rest => (rest.takeWhile Char.isDigit, rest.dropWhile Char.isDigit)
    | rest => ([], rest)
  guard !(whole ++ fraction).isEmpty
  let exponent ← exponent? rest
  return { digits := whole ++ fraction, exponent := exponent - fraction.length }

namespace DecimalNumber

/-- Whether the number is below the point from which double precision has only infinity.  The
exponents at which that is plain to see are kept out of the computation. -/
def isFinite (number : DecimalNumber) : Bool :=
  let digits := number.digits.dropWhile (· == '0')
  let value := (Text.inRadix? 10 digits).getD 0
  let limit := (1 <<< 1024) - (1 <<< 970)
  if value == 0 then true
  else if number.exponent + digits.length > 400 then false
  else if number.exponent + digits.length < 0 then true
  else if number.exponent ≥ 0 then value * Nat.pow 10 number.exponent.toNat < limit
  else value < limit * Nat.pow 10 (-number.exponent).toNat

end DecimalNumber

def isInfinity (text : String) : Bool :=
  [".inf", ".Inf", ".INF", "+.inf", "+.Inf", "+.INF", "-.inf", "-.Inf", "-.INF"].contains text

def isNotANumber (text : String) : Bool :=
  [".nan", ".NaN", ".NAN"].contains text

def unsigned (text : List Char) : List Char :=
  match text with
  | '+' :: rest | '-' :: rest => rest
  | rest => rest

/-- Whether the text spells a number in double precision. -/
def isNumber (text : String) : Bool :=
  isInfinity text || isNotANumber text ||
    (unsignedNumber? (unsigned text.toList)).any (·.isFinite)

/-- Whether an integer has at most 128 bits, one of them for the sign if it is negative. -/
def fitsWord : Int → Bool
  | .ofNat value => value < 1 <<< 128
  | .negSucc value => value < 1 <<< 127

/-- Whether the text spells an integer of up to 128 bits. -/
def isInteger (text : String) : Bool :=
  (integer? text.toList).any fitsWord

/-- Whether an unquoted text would be read as something else than a text, or looks so much like a
number that it is better not left unquoted. -/
def looksLikeValue (text : String) : Bool :=
  isNull text || (flag? text).isSome || isInteger text || isNumber text ||
    hasLeadingZero (unsigned text.toList)

end Bindery.Yaml
