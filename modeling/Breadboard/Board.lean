import Breadboard.Event

/-!
What one panel shows of a run: the lights, the variables, the highlighted line and the error mark.
A board follows the events of its own side and ignores the others.
-/

namespace Breadboard

structure Board where
  side : Side
  lights : PerPin Bool := .const false
  bindings : Register Text := .empty
  highlighted : Option Nat := none
  /-- The line of the error mark, and its message. -/
  error : Option (Nat × String) := none
deriving DecidableEq, Repr

namespace Board

/-- Dark and without marks. -/
def blank (side : Side) : Board := { side }

def note (b : Board) : Happening → Board
  | .highlightStart line => { b with highlighted := some line }
  | .highlightEnd line =>
      if b.highlighted = some line then { b with highlighted := none } else b
  | .effect (.light pin on) => { b with lights := b.lights.set pin on }
  | .effect (.variableSet name display) => { b with bindings := b.bindings.put name display }
  | .failed line message => { b with highlighted := none, error := some (line, message) }

def apply (b : Board) (e : Event) : Board :=
  if e.side = b.side then b.note e.happening else b

def applyAll (b : Board) (events : List Event) : Board :=
  events.foldl apply b

end Board

end Breadboard
