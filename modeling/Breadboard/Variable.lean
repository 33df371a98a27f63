import Breadboard.Text.Basic

/-!
Variables. A value is the text as it was written; only a condition reads it as a number.
-/

namespace Breadboard

/-- What may stand in front of an assignment; `untyped` when nothing does. -/
inductive ValueType where
  | int
  | float
  | string
  | untyped
deriving DecidableEq, Repr

namespace ValueType

def ofKeyword? (word : Text) : Option ValueType :=
  if word.sameLetters "int".toList then some .int
  else if word.sameLetters "float".toList then some .float
  else if word.sameLetters "string".toList then some .string
  else none

def label : ValueType → String
  | .int => "int"
  | .float => "float"
  | .string => "string"
  | .untyped => "sans type"

end ValueType

structure Variable where
  value : Text
  type : ValueType
deriving DecidableEq, Repr

/-- As the variable panel shows it: `5 (int)`, or just `5` when untyped. -/
def Variable.display (v : Variable) : Text :=
  match v.type with
  | .untyped => v.value
  | type => v.value ++ " (".toList ++ type.label.toList ++ [')']

end Breadboard
