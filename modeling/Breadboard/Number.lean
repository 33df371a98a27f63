import Breadboard.Text.Basic

/-!
Numbers as conditions see them. A value is text until a condition compares it; then the longest
numeric beginning of the text counts, read as a double-precision number. A finite number is kept as
a whole multiple of the smallest positive double, so two numbers compare as two integers and
rounding is arithmetic on naturals.
-/

namespace Breadboard

inductive Number where
  | notANumber
  | infinite (negative : Bool)
  /-- `units` counts multiples of two to the power of -1074. A negative zero keeps its sign. -/
  | finite (negative : Bool) (units : Nat)
deriving DecidableEq, Repr

namespace Number

/-- Units of the number one. -/
def one : Nat := Nat.pow 2 1074

/-- Units of the power of two just beyond the largest finite number. -/
def beyond : Nat := Nat.pow 2 2098

def halfEven (num den : Nat) : Nat :=
  let quotient := num / den
  let twice := 2 * (num % den)
  if den < twice || (twice == den && quotient % 2 == 1) then quotient + 1 else quotient

/-- The double nearest to `num / den`: 53 significant bits, fewer below the normal range, and a
tie goes to the even neighbour. -/
def ofRatio (negative : Bool) (num den : Nat) : Number :=
  let scaled := num * one
  let dropped := (scaled / den).log2 + 1 - 53
  let ulp := Nat.pow 2 dropped
  let units := halfEven scaled (den * ulp) * ulp
  if beyond ≤ units then .infinite negative else .finite negative units

/-- The double nearest to `coefficient * 10 ^ exponent`. Far outside the range of doubles the
answer is known from the number of digits alone, and the power of ten is never computed. -/
def ofDecimal (negative : Bool) (coefficient : Nat) (exponent : Int) : Number :=
  let magnitude := exponent + (Nat.toDigits 10 coefficient).length
  if coefficient = 0 ∨ magnitude < -330 then .finite negative 0
  else if 310 < magnitude then .infinite negative
  else match exponent with
    | .ofNat e => ofRatio negative (coefficient * Nat.pow 10 e) 1
    | .negSucc e => ofRatio negative coefficient (Nat.pow 10 (e + 1))

/-- The double nearest to a natural number. -/
def ofNat (n : Nat) : Number :=
  ofRatio false n 1

/-- The double nearest to the product of two finite numbers. -/
def times : Number → Number → Number
  | .finite negative units, .finite negative' units' =>
      ofRatio (negative != negative') (units * units') (one * one)
  | _, _ => .notANumber

/-- The double nearest to the quotient of two finite numbers. -/
def dividedBy : Number → Number → Number
  | .finite negative units, .finite negative' (units' + 1) =>
      ofRatio (negative != negative') units (units' + 1)
  | _, _ => .notANumber

def digitsValue (digits : Text) : Nat :=
  digits.foldl (fun value d => value * 10 + (d.toNat - '0'.toNat)) 0

/-- The sign at the head of the text, if there is one. -/
def leadingSign : Text → Text
  | '-' :: _ => ['-']
  | '+' :: _ => ['+']
  | _ => []

def afterSign (t : Text) : Text :=
  t.drop (leadingSign t).length

def isNegative (t : Text) : Bool :=
  leadingSign t == ['-']

/-- The digits of the fraction, and what follows it. -/
def takeFraction : Text → Text × Text
  | '.' :: rest => (rest.takeWhile Text.isAsciiDigit, rest.dropWhile Text.isAsciiDigit)
  | rest => ([], rest)

/-- The exponent that a text consists of; nothing at all is the exponent zero. -/
def exponent? : Text → Option Int
  | [] => some 0
  | c :: rest => do
      guard (c == 'e' || c == 'E')
      let digits := afterSign rest
      guard (!digits.isEmpty && digits.all Text.isAsciiDigit)
      return if isNegative rest then -digitsValue digits else digitsValue digits

/-- The double that a whole text stands for: a decimal number, or the name of an infinity or of
not-a-number in any case. -/
def ofText? (t : Text) : Option Number :=
  let unsigned := afterSign t
  if unsigned.sameLetters "inf".toList || unsigned.sameLetters "infinity".toList then
    some (.infinite (isNegative t))
  else if unsigned.sameLetters "nan".toList then some .notANumber
  else do
    let whole := unsigned.takeWhile Text.isAsciiDigit
    let (fraction, rest) := takeFraction (unsigned.dropWhile Text.isAsciiDigit)
    guard (!(whole.isEmpty && fraction.isEmpty))
    let exponent ← exponent? rest
    return ofDecimal (isNegative t) (digitsValue (whole ++ fraction)) (exponent - fraction.length)

/-- The digits at the head of the text with the point among them. A point without digits on either
side is not part of a number. -/
def leadingMantissa (t : Text) : Text :=
  let whole := t.takeWhile Text.isAsciiDigit
  match t.dropWhile Text.isAsciiDigit with
  | '.' :: rest =>
      let fraction := rest.takeWhile Text.isAsciiDigit
      if whole.isEmpty && fraction.isEmpty then [] else whole ++ '.' :: fraction
  | _ => whole

/-- The exponent at the head of the text. A letter `e` without digits behind it is no exponent. -/
def leadingExponent : Text → Text
  | [] => []
  | c :: rest =>
      let digits := (afterSign rest).takeWhile Text.isAsciiDigit
      if (c == 'e' || c == 'E') && !digits.isEmpty then c :: leadingSign rest ++ digits else []

/-- The value of the longest numeric beginning of the text, `notANumber` if it has none. -/
def leading (t : Text) : Number :=
  let t := t.trimStart
  let unsigned := afterSign t
  if "Infinity".toList.isPrefixOf unsigned then .infinite (isNegative t)
  else
    let mantissa := leadingMantissa unsigned
    if mantissa.isEmpty then .notANumber
    else
      let exponent := leadingExponent (unsigned.drop mantissa.length)
      (ofText? (leadingSign t ++ mantissa ++ exponent)).getD .notANumber

/-- Place on the number line; an infinity lies beyond every finite number, and both zeros share
one place. -/
def place? : Number → Option Int
  | .notANumber => none
  | .infinite negative => some (if negative then -beyond else beyond)
  | .finite negative units => some (if negative then -units else units)

/-- The sixty-four bits of the interchange format; every quiet not-a-number stands for the same
value and has no pattern here. -/
def bits? : Number → Option Nat
  | .notANumber => none
  | .infinite negative => some (sign negative + 0x7FF * Nat.pow 2 52)
  | .finite negative units =>
      let raised := units.log2 - 52
      some (sign negative +
        if units < Nat.pow 2 52 then units
        else raised * Nat.pow 2 52 + units / Nat.pow 2 raised)
where
  sign (negative : Bool) : Nat := if negative then Nat.pow 2 63 else 0

end Number

end Breadboard
