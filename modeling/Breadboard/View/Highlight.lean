import Breadboard.Screen.Paragraph
import Breadboard.Text.Letter
import Breadboard.Text.LowerCase

/-!
Colours of a program line. The line is cut into words, strings, a comment and single other
characters, and nothing is lost on the way. Keywords are recognised in any case, as they are when
the program runs.
-/

namespace Breadboard

inductive TokenKind where
  | word
  | string
  | comment
  | other
deriving DecidableEq, Repr

structure Token where
  kind : TokenKind
  text : Text
deriving DecidableEq, Repr

namespace Token

def isWordChar (c : Char) : Bool :=
  Text.isNameChar c || c == '.'

/-- What is being read: a word, possibly still empty, or a string. The characters stand in reverse
order. -/
inductive Reading where
  | word (letters : Text)
  | string (characters : Text)

def wordToken (letters : Text) : List Token :=
  if letters.isEmpty then [] else [⟨.word, letters.reverse⟩]

/-- A string runs to its closing quote or the end of the line, a comment always to the end. -/
def scan : Reading → Text → List Token
  | .word letters, [] => wordToken letters
  | .string characters, [] => [⟨.string, characters.reverse⟩]
  | .word letters, c :: rest =>
      if c = '/' ∧ rest.head? = some '/' then wordToken letters ++ [⟨.comment, c :: rest⟩]
      else if c = '"' then wordToken letters ++ scan (.string [c]) rest
      else if isWordChar c then scan (.word (c :: letters)) rest
      else wordToken letters ++ ⟨.other, [c]⟩ :: scan (.word []) rest
  | .string characters, c :: rest =>
      if c = '"' then ⟨.string, (c :: characters).reverse⟩ :: scan (.word []) rest
      else scan (.string (c :: characters)) rest

def ofLine (line : Text) : List Token :=
  scan (.word []) line

def keywords : List Text :=
  ["void".toList, "setup".toList, "loop".toList, "si".toList, "alors".toList, "sinon".toList]

def typeNames : List Text :=
  ["int".toList, "float".toList, "string".toList]

def startsWithDigit (t : Text) : Bool :=
  t.head?.any Text.isAsciiDigit

/-- `pin` and a digit, with or without an action. -/
def isPinWord (lower : Text) : Bool :=
  (lower.dropStart? "pin".toList).any startsWithDigit

def wordStyle (word : Text) : Style :=
  let lower := word.lower
  if keywords.contains lower then Palette.blue.ink.inBold
  else if typeNames.contains lower then Palette.cyan.ink
  else if isPinWord lower then Palette.yellow.ink
  else if startsWithDigit word then Palette.orange.ink
  else Palette.text.ink

def style (t : Token) : Style :=
  match t.kind with
  | .word => wordStyle t.text
  | .string => Palette.orange.ink
  | .comment => Palette.grey.ink
  | .other =>
      if [['{'], ['}'], ['('], [')']].contains t.text then Palette.blue.ink
      else Palette.text.ink

def span (t : Token) : Span := ⟨t.text, t.style⟩

end Token

def highlightLine (line : Text) : Row :=
  (Token.ofLine line).map Token.span

end Breadboard
