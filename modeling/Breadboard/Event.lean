import Breadboard.Execute

/-!
What an animated run tells its spectators. There are two panels with a program each, the
demonstration of the lesson and the learner's own, and every event names its side.
-/

namespace Breadboard

inductive Side where
  | demo
  | student
deriving DecidableEq, Repr

inductive Happening where
  | highlightStart (line : Nat)
  | highlightEnd (line : Nat)
  | effect (effect : Effect)
  | failed (line : Nat) (message : String)
deriving DecidableEq, Repr

structure Event where
  side : Side
  happening : Happening
deriving DecidableEq, Repr

/-- Show something, or wait for some milliseconds. -/
inductive Cue where
  | event (event : Event)
  | pause (milliseconds : Nat)
deriving DecidableEq, Repr

/-- Pauses of an animated run, in milliseconds. -/
structure Timing where
  /-- Between the highlight of a line and its effect. -/
  highlight : Nat
  /-- After headers, braces and comments. -/
  short : Nat
  /-- After a statement that did something. -/
  medium : Nat
  /-- Between two passes over the loop. -/
  loop : Nat
  /-- For each line that is passed over. -/
  skip : Nat
deriving DecidableEq, Repr

namespace Timing

/-- The pace of a classroom. -/
def standard : Timing := ⟨100, 500, 600, 1000, 200⟩

def instant : Timing := ⟨0, 0, 0, 0, 0⟩

end Timing

end Breadboard
