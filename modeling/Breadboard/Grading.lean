import Breadboard.Expectation
import Breadboard.Runner

/-!
Grading: a program runs silently and its final state is held against the expectation. A program
that fails is not compared at all.
-/

namespace Breadboard

inductive Grade where
  | passed
  /-- It ran to the end, but the board is wrong. -/
  | wrong (discrepancies : List Discrepancy)
  | failed (failure : Failure)
deriving DecidableEq, Repr

structure Feedback where
  title : String
  text : String
deriving DecidableEq, Repr

/-- What the lesson needs to know once a program is graded. -/
structure Completion where
  success : Bool
  errors : List String
  /-- The last exercise of its level was passed. -/
  lastExercise : Bool
deriving DecidableEq, Repr

/-- An empty program has no line to point at. -/
def Failure.describe (f : Failure) : String :=
  match f.fault with
  | .emptyProgram => f.fault.message
  | _ => s!"Ligne {f.line + 1}: {f.message}"

namespace Grade

def isPassed : Grade → Bool
  | .passed => true
  | _ => false

def errors : Grade → List String
  | .passed => []
  | .wrong discrepancies => discrepancies.map (·.message)
  | .failed failure => [failure.describe]

def feedback : Grade → Feedback
  | .passed =>
      ⟨"Parfait !", "Excellent travail ! Ton programme fait exactement ce qui était demandé."⟩
  | .wrong discrepancies =>
      ⟨"Pas tout à fait...",
        "Problèmes détectés : " ++ " • ".intercalate (discrepancies.map (·.message))⟩
  | .failed failure => ⟨"Erreur détectée", failure.describe⟩

def completion (g : Grade) (last : Bool) : Completion :=
  ⟨g.isPassed, g.errors, g.isPassed && last⟩

end Grade

namespace Expectation

def gradeState (e : Expectation) (s : State) : Grade :=
  match e.discrepancies s with
  | [] => .passed
  | discrepancies => .wrong discrepancies

/-- `walkLoop` says whether the loop body is walked once before grading. Left open, it is walked
if it switches a pin. -/
def grade (e : Expectation) (source : Text) (walkLoop : Option Bool) : Grade :=
  let walks := walkLoop.getD (Program.ofSource source).loopHasPinActions
  let report := runSilent source (if walks then 1 else 0)
  match report.outcome with
  | .failed failure => .failed failure
  | _ => e.gradeState report.state

end Expectation

/-- Grading has to wait while a run is active. -/
def Runner.grade (r : Runner) (e : Expectation) (source : Text) (walkLoop : Option Bool) :
    Option Grade :=
  if r.isBusy then none else some (e.grade source walkLoop)

end Breadboard
