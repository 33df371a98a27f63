import Breadboard.Expectation

/-!
Courses: levels in order, each with its exercises in order, and the learner's place among them.
-/

namespace Breadboard

structure Challenge where
  title : Text
  /-- In light markup. -/
  instructions : List Text
deriving DecidableEq, Repr

structure Exercise where
  number : Nat
  exampleCode : Text
  challenge : Challenge
  expectation : Expectation := {}
  /-- Whether the loop is walked before grading; open if the program decides. -/
  walkLoop : Option Bool := none
deriving DecidableEq, Repr

/-- A reminder of the rules, due when a level begins. -/
structure Popup where
  isShown : Bool := false
  title : Text := []
  content : Text := []
deriving DecidableEq, Repr

structure Level where
  number : Nat
  title : Text
  subtitle : Text
  popup : Popup := {}
  exercises : List Exercise
deriving DecidableEq, Repr

structure Course where
  levels : List Level
deriving DecidableEq, Repr

/-- Indices from zero. -/
structure Progress where
  level : Nat := 0
  exercise : Nat := 0
deriving DecidableEq, Repr

namespace Course

def level? (c : Course) (p : Progress) : Option Level :=
  c.levels[p.level]?

def exercise? (c : Course) (p : Progress) : Option Exercise :=
  (c.level? p).bind (·.exercises[p.exercise]?)

/-- Exercises in the level of the given place. -/
def levelSize (c : Course) (p : Progress) : Nat :=
  (c.level? p).elim 0 (·.exercises.length)

end Course

/-- What the next place is, seen from the last. -/
inductive Advance where
  | exercise
  | level
  /-- Nothing is left and the place is the same. -/
  | complete
deriving DecidableEq, Repr

namespace Progress

def isLastExercise (p : Progress) (c : Course) : Bool :=
  c.levelSize p ≤ p.exercise + 1

def advance (p : Progress) (c : Course) : Advance × Progress :=
  if !p.isLastExercise c then (.exercise, { p with exercise := p.exercise + 1 })
  else if p.level + 1 < c.levels.length then (.level, ⟨p.level + 1, 0⟩)
  else (.complete, p)

/-- The number of the exercise in its level, from one, and how many the level has. -/
def fraction (p : Progress) (c : Course) : Nat × Nat :=
  (p.exercise + 1, c.levelSize p)

def showsPopup (p : Progress) (c : Course) : Bool :=
  p.exercise == 0 && (c.level? p).any (·.popup.isShown)

end Progress

end Breadboard
