import Breadboard.Json.Basic

/-!
Reading JSON. The grammar is strict: four blank characters, no comments, no sign or zero in front
of a number, nothing behind the document.
-/

namespace Breadboard.Json

namespace Reader

def isSpace (c : Char) : Bool :=
  c == ' ' || c == '\t' || c == '\n' || c == '\r'

def skipSpace (t : Text) : Text :=
  t.dropWhile isSpace

def hexDigit? (c : Char) : Option Nat :=
  if '0' ≤ c ∧ c ≤ '9' then some (c.toNat - '0'.toNat)
  else if 'a' ≤ c ∧ c ≤ 'f' then some (c.toNat - 'a'.toNat + 10)
  else if 'A' ≤ c ∧ c ≤ 'F' then some (c.toNat - 'A'.toNat + 10)
  else none

/-- A part of a string: a character, or a sixteen-bit unit written with four digits. -/
inductive StringPart where
  | char (c : Char)
  | unit (n : Nat)
deriving DecidableEq, Repr

def escape? : Char → Option Char
  | '"' => some '"'
  | '\\' => some '\\'
  | '/' => some '/'
  | 'b' => some '\x08'
  | 'f' => some '\x0c'
  | 'n' => some '\n'
  | 'r' => some '\r'
  | 't' => some '\t'
  | _ => none

/-- The parts up to the closing quote, and what follows it. -/
def parts? : Text → Option (List StringPart × Text)
  | '"' :: rest => some ([], rest)
  | '\\' :: 'u' :: a :: b :: c :: d :: rest => do
      let a ← hexDigit? a
      let b ← hexDigit? b
      let c ← hexDigit? c
      let d ← hexDigit? d
      let (parts, rest) ← parts? rest
      return (.unit (((a * 16 + b) * 16 + c) * 16 + d) :: parts, rest)
  | '\\' :: c :: rest => do
      let c ← escape? c
      let (parts, rest) ← parts? rest
      return (.char c :: parts, rest)
  | c :: rest => do
      guard (0x20 ≤ c.toNat && c != '\\')
      let (parts, rest) ← parts? rest
      return (.char c :: parts, rest)
  | [] => none

def isHighSurrogate (n : Nat) : Bool := 0xD800 ≤ n && n < 0xDC00

def isLowSurrogate (n : Nat) : Bool := 0xDC00 ≤ n && n < 0xE000

/-- The text of a string; a high and a low surrogate make one character, and neither stands
alone. -/
def joinParts? : List StringPart → Option Text
  | [] => some []
  | .char c :: rest => (joinParts? rest).map (c :: ·)
  | .unit high :: .unit low :: rest =>
      if isHighSurrogate high then
        if isLowSurrogate low then
          (joinParts? rest).map
            (Char.ofNat (0x10000 + (high - 0xD800) * 0x400 + (low - 0xDC00)) :: ·)
        else none
      else if isLowSurrogate high then none
      else (joinParts? (.unit low :: rest)).map (Char.ofNat high :: ·)
  | .unit n :: rest =>
      if isHighSurrogate n || isLowSurrogate n then none
      else (joinParts? rest).map (Char.ofNat n :: ·)

def string? (t : Text) : Option (Option Text × Text) := do
  let (parts, rest) ← parts? t
  return (joinParts? parts, rest)

/-- One digit or more, and what follows them. -/
def digits? (t : Text) : Option (Text × Text) :=
  match t.takeWhile Text.isAsciiDigit with
  | [] => none
  | digits => some (digits, t.dropWhile Text.isAsciiDigit)

/-- The digits before the point: a zero stands alone. -/
def whole? : Text → Option (Text × Text)
  | '0' :: rest => some (['0'], rest)
  | t => digits? t

def fraction? : Text → Option (Text × Text)
  | '.' :: rest => digits? rest
  | t => some ([], t)

/-- The exponent, `none` inside if there is none. -/
def exponent? : Text → Option (Option Int × Text)
  | c :: rest =>
      if c == 'e' || c == 'E' then do
        let (digits, after) ← digits? (Number.afterSign rest)
        let size : Int := Number.digitsValue digits
        return (some (if Number.isNegative rest then -size else size), after)
      else some (none, c :: rest)
  | [] => some (none, [])

/-- Digits that follow a significand, as far as it has room for them, and how many are left. -/
def extend (significand : Nat) : Text → Nat × Nat
  | [] => (significand, 0)
  | digit :: rest =>
      let longer := significand * 10 + Number.digitsValue [digit]
      if longer < Nat.pow 2 64 then extend longer rest else (significand, rest.length + 1)

def numeral? (t : Text) : Option (Numeral × Text) := do
  let (negative, unsigned) := match t with
    | '-' :: rest => (true, rest)
    | t => (false, t)
  let (whole, rest) ← whole? unsigned
  let (fraction, rest) ← fraction? rest
  let (exponent?, rest) ← exponent? rest
  let (significand, left) := extend 0 whole
  let (significand, unread) := extend significand fraction
  let n : Numeral :=
    { negative
      significand
      exponent := exponent?.getD 0 + left - (fraction.length - unread : Nat)
      plain := fraction.isEmpty && exponent?.isNone }
  return (n, rest)

mutual

/-- The value at the head of the text and what follows it. The first argument bounds the number of
calls and is never short of what the text needs. -/
def value? : Nat → Text → Option (Json × Text)
  | 0, _ => none
  | fuel + 1, t =>
    match skipSpace t with
    | 'n' :: 'u' :: 'l' :: 'l' :: rest => some (.null, rest)
    | 't' :: 'r' :: 'u' :: 'e' :: rest => some (.bool true, rest)
    | 'f' :: 'a' :: 'l' :: 's' :: 'e' :: rest => some (.bool false, rest)
    | '"' :: rest => do
        let (text?, rest) ← string? rest
        return (.string text?, rest)
    | '[' :: rest =>
      match skipSpace rest with
      | ']' :: rest => some (.array [], rest)
      | rest => do
          let (items, rest) ← items? fuel rest
          return (.array items, rest)
    | '{' :: rest =>
      match skipSpace rest with
      | '}' :: rest => some (.object [], rest)
      | rest => do
          let (entries, rest) ← entries? fuel rest
          return (.object entries, rest)
    | rest => do
        let (n, rest) ← numeral? rest
        return (.number n, rest)

/-- One item or more, up to the closing bracket. -/
def items? : Nat → Text → Option (List Json × Text)
  | 0, _ => none
  | fuel + 1, t => do
      let (item, rest) ← value? fuel t
      match skipSpace rest with
      | ']' :: rest => return ([item], rest)
      | ',' :: rest => do
          let (items, rest) ← items? fuel rest
          return (item :: items, rest)
      | _ => none

/-- One entry or more, up to the closing brace. -/
def entries? : Nat → Text → Option (List (Option Text × Json) × Text)
  | 0, _ => none
  | fuel + 1, t => do
      let rest ← (skipSpace t).dropStart? ['"']
      let (key?, rest) ← string? rest
      let rest ← (skipSpace rest).dropStart? [':']
      let (value, rest) ← value? fuel rest
      match skipSpace rest with
      | '}' :: rest => return ([(key?, value)], rest)
      | ',' :: rest => do
          let (entries, rest) ← entries? fuel rest
          return ((key?, value) :: entries, rest)
      | _ => none

end

end Reader

/-- The document in the text. Every bracket costs two calls and every separator one, so twice the
length is enough. -/
def parse? (t : Text) : Option Json := do
  let (value, rest) ← Reader.value? (2 * t.length + 2) t
  guard (Reader.skipSpace rest).isEmpty
  return value

end Breadboard.Json
