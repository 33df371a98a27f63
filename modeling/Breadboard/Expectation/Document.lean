import Breadboard.Expectation
import Breadboard.Json.Reader

/-!
Expectations as documents: `pins` and `variables` are objects whose order and repetitions count. A
variable is a bare string, its value, or an object with `value` and perhaps `type`.
-/

namespace Breadboard

def ValueType.ofName? (name : Text) : Option ValueType :=
  if name = "int".toList then some .int
  else if name = "float".toList then some .float
  else if name = "string".toList ∨ name = "String".toList then some .string
  else if name = "untyped".toList then some .untyped
  else none

/-- The name of a type, or an object with that name as its only key and `null` under it. -/
def ValueType.ofJson? : Json → Option ValueType
  | .object [(some name, .null)] => ValueType.ofName? name
  | value => value.text?.bind ValueType.ofName?

/-- An array has to give both parts, an object may leave out either. -/
def PinExpectation.ofJson? (value : Json) : Option PinExpectation := do
  match ← value.fields? ["declared".toList, "on".toList] with
  | [declared, on] =>
      guard (!value.isArray || (declared.isSome && on.isSome))
      let declared ← Json.orDefault? none (Json.nullable? Json.bool?) declared
      let on ← Json.orDefault? none (Json.nullable? Json.bool?) on
      return { declared, on }
  | _ => none

/-- `depth` is how deep the value may nest: it is held in memory as a whole before it is known
which of the two forms it has. -/
def VariableExpectation.ofJson? (depth : Nat) (value : Json) : Option VariableExpectation := do
  guard (value.isReadable depth)
  match value with
  | .string text? => return { value := ← text? }
  | .object _ =>
    match ← value.fields? ["value".toList, "type".toList] with
    | [some text, type] =>
        let text ← text.text?
        let type ← Json.orDefault? none (Json.nullable? ValueType.ofJson?) type
        return { value := text, type }
    | _ => none
  | _ => none

namespace Expectation

/-- An object as a list of entries, each key read by `key?` and each value by `value?`. -/
def entriesOf? {κ α : Type} (key? : Text → Option κ) (value? : Json → Option α) (json : Json) :
    Option (List (κ × α)) := do
  let entries ← json.entries?
  entries.mapM fun (key, value) => do
    let key ← key? key
    let value ← value? value
    return (key, value)

/-- `depth` is how deep the document may still nest here. -/
def ofJson? (depth : Nat) (json : Json) : Option Expectation := do
  match ← json.fields? ["pins".toList, "variables".toList] with
  | [pins, bindings] =>
      let pins ← Json.orDefault? [] (entriesOf? Pin.ofName? PinExpectation.ofJson?) pins
      let bindings ←
        Json.orDefault? [] (entriesOf? some (VariableExpectation.ofJson? (depth - 2))) bindings
      return { pins, bindings }
  | _ => none

/-- How many arrays and objects may stand inside each other where values are held in memory. -/
def nestingLimit : Nat := 127

def parse? (document : Text) : Option Expectation := do
  let json ← Json.parse? document
  ofJson? nestingLimit json

end Expectation

end Breadboard
