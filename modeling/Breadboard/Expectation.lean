import Breadboard.State

/-!
What an exercise asks for. An expectation names pins and variables and says nothing about the rest.
Every discrepancy is listed for the learner in the order in which the exercise was written, pins
before variables.
-/

namespace Breadboard

/-- A part that is `none` is not checked. -/
structure PinExpectation where
  declared : Option Bool := none
  on : Option Bool := none
deriving DecidableEq, Repr

structure VariableExpectation where
  value : Text
  type : Option ValueType := none
deriving DecidableEq, Repr

structure Expectation where
  pins : List (Pin × PinExpectation) := []
  bindings : List (Text × VariableExpectation) := []
deriving DecidableEq, Repr

inductive Discrepancy where
  | notDeclared (pin : Pin)
  | shouldBeOn (pin : Pin)
  | shouldBeOff (pin : Pin)
  | missing (name : Text)
  | wrongValue (name value : Text)
  | wrongType (name : Text) (type : ValueType)
deriving DecidableEq, Repr

def Discrepancy.message : Discrepancy → String
  | .notDeclared pin => s!"{pin.name} n'est pas déclaré"
  | .shouldBeOn pin => s!"{pin.name} devrait être allumé"
  | .shouldBeOff pin => s!"{pin.name} ne devrait pas être allumé"
  | .missing name => s!"La variable \"{String.ofList name}\" est manquante"
  | .wrongValue name value =>
      s!"La variable \"{String.ofList name}\" devrait valoir {String.ofList value}"
  | .wrongType name type =>
      s!"La variable \"{String.ofList name}\" devrait être de type {type.label}"

/-- A pin that should not be declared is never held against a program. -/
def PinExpectation.discrepancies (e : PinExpectation) (pin : Pin) (actual : PinState) :
    List Discrepancy :=
  (if e.declared = some true ∧ !actual.declared then [.notDeclared pin] else []) ++
  (match e.on with
    | some true => if actual.on then [] else [.shouldBeOn pin]
    | some false => if actual.on then [.shouldBeOff pin] else []
    | none => [])

def VariableExpectation.discrepancies (e : VariableExpectation) (name : Text) :
    Option Variable → List Discrepancy
  | none => [.missing name]
  | some actual =>
      (if actual.value = e.value then [] else [.wrongValue name e.value]) ++
      (match e.type with
        | some type => if actual.type = type then [] else [.wrongType name type]
        | none => [])

def Expectation.discrepancies (e : Expectation) (s : State) : List Discrepancy :=
  e.pins.flatMap (fun (pin, expected) => expected.discrepancies pin (s.pins.get pin)) ++
  e.bindings.flatMap fun (name, expected) => expected.discrepancies name (s.bindings.get? name)

end Breadboard
