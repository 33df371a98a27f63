import Breadboard.Text.Basic

/-!
The four output pins wired on the board, and one value per pin.
-/

namespace Breadboard

inductive Pin where
  | pin1
  | pin2
  | pin9
  | pin10
deriving DecidableEq, Repr

namespace Pin

/-- In the order of the board. -/
def all : List Pin := [pin1, pin2, pin9, pin10]

def number : Pin → Nat
  | pin1 => 1
  | pin2 => 2
  | pin9 => 9
  | pin10 => 10

def name : Pin → String
  | pin1 => "pin1"
  | pin2 => "pin2"
  | pin9 => "pin9"
  | pin10 => "pin10"

/-- Position in `all`. -/
def index : Pin → Nat
  | pin1 => 0
  | pin2 => 1
  | pin9 => 2
  | pin10 => 3

/-- The pin with these digits. They count as written, so `01` names no pin. -/
def ofDigits? (digits : Text) : Option Pin :=
  all.find? fun pin => digits == Nat.toDigits 10 pin.number

def ofName? (name : Text) : Option Pin :=
  all.find? fun pin => name == pin.name.toList

end Pin

structure PerPin (α : Type) where
  pin1 : α
  pin2 : α
  pin9 : α
  pin10 : α
deriving DecidableEq, Repr

namespace PerPin

variable {α : Type}

def const (a : α) : PerPin α := ⟨a, a, a, a⟩

def get (values : PerPin α) : Pin → α
  | .pin1 => values.pin1
  | .pin2 => values.pin2
  | .pin9 => values.pin9
  | .pin10 => values.pin10

def set (values : PerPin α) (pin : Pin) (a : α) : PerPin α :=
  match pin with
  | .pin1 => { values with pin1 := a }
  | .pin2 => { values with pin2 := a }
  | .pin9 => { values with pin9 := a }
  | .pin10 => { values with pin10 := a }

@[simp]
theorem get_const (a : α) (pin : Pin) : (const a).get pin = a := by
  cases pin <;> rfl

@[simp]
theorem get_set (values : PerPin α) (pin other : Pin) (a : α) :
    (values.set pin a).get other = if other = pin then a else values.get other := by
  cases pin <;> cases other <;> rfl

end PerPin

end Breadboard
