import Breadboard.Condition
import Breadboard.Fault
import Breadboard.Register
import Breadboard.Variable

/-!
What a run remembers: the pins, the variables and the section it is in. A pin can only be switched
after its declaration has run, so a pin that is on is always declared.
-/

namespace Breadboard

structure PinState where
  declared : Bool := false
  on : Bool := false
deriving DecidableEq, Repr

inductive Region where
  | outside
  | setup
  | loop
deriving DecidableEq, Repr

structure State where
  pins : PerPin PinState
  bindings : Register Variable
  region : Region
deriving DecidableEq, Repr

namespace State

/-- Every pin undeclared and off, no variables. -/
def fresh : State :=
  ⟨.const {}, .empty, .outside⟩

def declare (s : State) (pin : Pin) : State :=
  { s with pins := s.pins.set pin { s.pins.get pin with declared := true } }

def switch (s : State) (pin : Pin) (on : Bool) : Except Fault State :=
  if (s.pins.get pin).declared then
    .ok { s with pins := s.pins.set pin { s.pins.get pin with on } }
  else .error (.pinNotDeclared pin)

def assign (s : State) (name : Text) (v : Variable) : State :=
  { s with bindings := s.bindings.put name v }

/-- A condition that cannot be read is at fault before a variable that does not exist. -/
def evaluate (s : State) (condition : Text) : Except Fault Bool :=
  match Condition.parse? condition with
  | none => .error .invalidCondition
  | some c =>
      match s.bindings.get? c.name with
      | none => .error (.undeclaredVariable c.name)
      | some v => .ok (c.comparison.holds (Number.leading v.value) (Number.leading c.literal))

end State

end Breadboard
