import Breadboard.Text.Letter
import Breadboard.Text.LowerCase
import Breadboard.Variable

/-!
One line of a program. The language is small enough that every line is one statement, and a line
that fits no rule is a statement too: whether it is an error depends on whether it ever runs. The
rules are tried in a fixed order and the first that fits decides. Keywords ignore case, names and
values keep it, and pin commands also ignore the accents that learners leave out.
-/

namespace Breadboard

inductive Brace where
  | opening
  | closing
deriving DecidableEq, Repr

inductive Statement where
  | blank
  | comment
  /-- `void setup()` -/
  | setup
  /-- `void loop()` -/
  | loop
  /-- A line that holds one brace and nothing else. -/
  | brace (brace : Brace)
  /-- `si (condition) alors {` -/
  | conditional (condition : Text)
  /-- `type name = value;` or `name = value;` -/
  | assign (name : Text) (type : ValueType) (value : Text)
  /-- `pinN;`, with the digits as written -/
  | declare (digits : Text)
  /-- `pinN_allumé;` or `pinN_éteint;` -/
  | switch (digits : Text) (on : Bool)
  | missingSemicolon
  | malformedPinCommand
  | unknownPinSyntax
  | invalid
deriving DecidableEq, Repr

namespace Statement

/-- The statements that drive the lights. -/
def isPinAction : Statement → Bool
  | .switch _ _ => true
  | _ => false

/-- Headers own the block that follows them. -/
def isHeader : Statement → Bool
  | .setup | .loop | .conditional _ => true
  | _ => false

/-- The condition of `si (condition) alors {`. -/
def condition? (line : Text) : Option Text := do
  let rest ← line.dropKeyword? "si".toList
  guard (rest.head?.any fun c => Text.isBlank c || c == '(')
  let rest ← rest.trimStart.dropStart? ['(']
  let rest ← rest.dropEnd? ['{']
  let rest ← rest.trimEnd.dropLastKeyword? "alors".toList
  let condition ← rest.trimEnd.dropEnd? [')']
  return condition.trim

/-- Name and type in front of the equals sign. -/
def target? (t : Text) : Option (Text × ValueType) :=
  match t.words with
  | [keyword, name] => do
      let type ← ValueType.ofKeyword? keyword
      guard name.isName
      return (name, type)
  | [name] => do
      guard name.isName
      return (name, .untyped)
  | _ => none

/-- `body` is the line without its semicolon. The first equals sign divides it, and a second one
right behind it would make a comparison of what has to be an assignment. -/
def assignment? (body : Text) : Option Statement := do
  let (left, _, right) ← body.cutAt? (· == '=')
  let value := right.trim
  guard (!value.isEmpty && value.head? != some '=')
  let (name, type) ← target? left
  return .assign name type value

/-- Lower case, without the accents of `e`. -/
def fold (t : Text) : Text :=
  t.lower.map fun c => if c == 'é' || c == 'è' || c == 'ê' || c == 'ë' then 'e' else c

/-- Every `pin` with digits behind it, from left to right: the digits and the text after them. -/
def pinSites : Text → List (Text × Text)
  | [] => []
  | c :: rest =>
      match Text.dropStart? (c :: rest) "pin".toList with
      | some after =>
          let digits := after.takeWhile Text.isAsciiDigit
          if digits.isEmpty then pinSites rest
          else (digits, after.dropWhile Text.isAsciiDigit) :: pinSites rest
      | none => pinSites rest

/-- The digits of the first `pinN_action`. -/
def actionPin? (action folded : Text) : Option Text :=
  (pinSites folded).findSome? fun (digits, after) =>
    if ('_' :: action).isPrefixOf after then some digits else none

/-- Whether `_word;` stands right behind the digits of a pin. -/
def isUnknownAction (after : Text) : Bool :=
  match after with
  | '_' :: rest =>
      !(rest.takeWhile Text.isNameChar).isEmpty &&
        (rest.dropWhile Text.isNameChar).head? == some ';'
  | _ => false

def declaredPin? (folded : Text) : Option Text := do
  let rest ← folded.dropStart? "pin".toList
  let digits ← rest.dropEnd? [';']
  guard (!digits.isEmpty && digits.all Text.isAsciiDigit)
  return digits

/-- The rules for a folded line that ends in a semicolon and assigns nothing. -/
def ofPinLine (folded : Text) : Statement :=
  match declaredPin? folded with
  | some digits => .declare digits
  | none =>
    match actionPin? "allume".toList folded with
    | some digits => .switch digits true
    | none =>
      match actionPin? "eteint".toList folded with
      | some digits => .switch digits false
      | none =>
        if (pinSites folded).any fun (_, after) => isUnknownAction after then .malformedPinCommand
        else if folded.holds "pin".toList then .unknownPinSyntax
        else .invalid

def ofTrimmed (line : Text) : Statement :=
  if line.isEmpty then .blank
  else if line.asciiLower.holds "void setup".toList then .setup
  else if line.asciiLower.holds "void loop".toList then .loop
  else if line = ['{'] then .brace .opening
  else if line = ['}'] then .brace .closing
  else if "//".toList.isPrefixOf line then .comment
  else match condition? line with
    | some condition => .conditional condition
    | none =>
      match line.dropEnd? [';'] with
      | none => .missingSemicolon
      | some body =>
          if line.contains '=' then (assignment? body).getD .invalid
          else ofPinLine (fold line)

/-- The statement on a line. -/
def ofLine (line : Text) : Statement :=
  ofTrimmed line.trim

end Statement

end Breadboard
