/-!
Text of programs, lessons and settings. A text is the list of its characters, so every rule of the
language is a recursion on that list. Blank means the `White_Space` property of Unicode, which is
wider than the four characters a keyboard types: a no-break space pasted from a web page separates
words too. Letter case is ignored for the letters A to Z only.
-/

namespace Breadboard

abbrev Text := List Char

namespace Text

/-- The twenty-five characters with the `White_Space` property. -/
def isBlank (c : Char) : Bool :=
  let n := c.toNat
  (9 ≤ n && n ≤ 13) || n == 0x20 || n == 0x85 || n == 0xA0 || n == 0x1680 ||
    (0x2000 ≤ n && n ≤ 0x200A) || n == 0x2028 || n == 0x2029 || n == 0x202F ||
    n == 0x205F || n == 0x3000

def trimStart (t : Text) : Text :=
  t.dropWhile isBlank

def trimEnd (t : Text) : Text :=
  (t.reverse.dropWhile isBlank).reverse

def trim (t : Text) : Text :=
  trimEnd (trimStart t)

/-- The pieces between blanks, empty ones included. -/
def cutAtBlanks : Text → List Text
  | [] => [[]]
  | c :: rest =>
      if isBlank c then [] :: cutAtBlanks rest
      else match cutAtBlanks rest with
        | [] => [[c]]
        | piece :: pieces => (c :: piece) :: pieces

def words (t : Text) : List Text :=
  (cutAtBlanks t).filter fun piece => !piece.isEmpty

/-- A carriage return right before a line feed belongs to the line end, and a final line end opens
no further line. -/
def lines : Text → List Text
  | [] => []
  | '\n' :: rest => [] :: lines rest
  | '\r' :: '\n' :: rest => [] :: lines rest
  | c :: rest =>
      match lines rest with
      | [] => [[c]]
      | line :: more => (c :: line) :: more

/-- Whether `part` stands somewhere in the text. -/
def holds (t part : Text) : Bool :=
  match t with
  | [] => part.isEmpty
  | c :: rest => part.isPrefixOf (c :: rest) || holds rest part

/-- The text in lower case as far as A to Z are concerned. -/
def asciiLower (t : Text) : Text :=
  t.map Char.toLower

/-- Equal up to the case of A to Z. -/
def sameLetters (a b : Text) : Bool :=
  a.asciiLower == b.asciiLower

def dropStart? (t start : Text) : Option Text :=
  if start.isPrefixOf t then some (t.drop start.length) else none

def dropEnd? (t tail : Text) : Option Text :=
  if tail.isSuffixOf t then some (t.take (t.length - tail.length)) else none

/-- As `dropStart?`, but in any case of A to Z. -/
def dropKeyword? (t keyword : Text) : Option Text :=
  if sameLetters (t.take keyword.length) keyword then some (t.drop keyword.length) else none

/-- As `dropEnd?`, but in any case of A to Z. -/
def dropLastKeyword? (t keyword : Text) : Option Text :=
  let kept := t.length - keyword.length
  if sameLetters (t.drop kept) keyword then some (t.take kept) else none

/-- Everything before the first character that satisfies `p`, that character, and the rest. -/
def cutAt? (p : Char → Bool) : Text → Option (Text × Char × Text)
  | [] => none
  | c :: rest =>
      if p c then some ([], c, rest)
      else (cutAt? p rest).map fun (before, found, after) => (c :: before, found, after)

def isAsciiDigit (c : Char) : Bool :=
  '0' ≤ c && c ≤ '9'

/-- Whether one of these closed intervals holds `n`. Tables of characters are lists of them. -/
def within (ranges : List (Nat × Nat)) (n : Nat) : Bool :=
  ranges.any fun (first, last) => first ≤ n && n ≤ last

/-- Lines joined by line feeds, without one at the end. -/
def joinLines : List Text → Text
  | [] => []
  | [line] => line
  | line :: more => line ++ '\n' :: joinLines more

/-- The first `skip` characters belong to an occurrence that was already replaced. -/
def replaceAfter (skip : Nat) (t part new : Text) : Text :=
  match t, skip with
  | [], _ => []
  | _ :: rest, skip + 1 => replaceAfter skip rest part new
  | c :: rest, 0 =>
      if part.isPrefixOf (c :: rest) then new ++ replaceAfter (part.length - 1) rest part new
      else c :: replaceAfter 0 rest part new

/-- Every occurrence of `part` becomes `new`, from left to right; the search goes on behind the
occurrence, so neither an overlap nor the replacement itself is searched. -/
def replace (t part new : Text) : Text :=
  replaceAfter 0 t part new

end Text

end Breadboard
