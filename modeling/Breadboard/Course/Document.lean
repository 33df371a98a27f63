import Breadboard.Course
import Breadboard.Expectation.Document

/-!
Courses as documents. A course has at least one level, and every level at least one exercise.
-/

namespace Breadboard

def Challenge.ofJson? (json : Json) : Option Challenge := do
  match ← json.fields? ["title".toList, "instructions".toList] with
  | [some title, some instructions] =>
      let title ← title.text?
      let instructions ← (← instructions.items?).mapM Json.text?
      return { title, instructions }
  | _ => none

def Exercise.ofJson? (depth : Nat) (json : Json) : Option Exercise := do
  match ← json.fields? ["number".toList, "example_code".toList, "challenge".toList,
      "expected_state".toList, "validate_loop".toList] with
  | [some number, some exampleCode, some challenge, expectation, walkLoop] =>
      let number ← number.nat? (Nat.pow 2 32)
      let exampleCode ← exampleCode.text?
      let challenge ← Challenge.ofJson? challenge
      let expectation ← Json.orDefault? {} (Expectation.ofJson? (depth - 1)) expectation
      let walkLoop ← Json.orDefault? none (Json.nullable? Json.bool?) walkLoop
      return { number, exampleCode, challenge, expectation, walkLoop }
  | _ => none

def Popup.ofJson? (json : Json) : Option Popup := do
  match ← json.fields? ["show".toList, "title".toList, "content".toList] with
  | [some isShown, some title, some content] =>
      let isShown ← isShown.bool?
      let title ← title.text?
      let content ← content.text?
      return { isShown, title, content }
  | _ => none

def Level.ofJson? (depth : Nat) (json : Json) : Option Level := do
  match ← json.fields? ["number".toList, "title".toList, "subtitle".toList, "popup".toList,
      "exercises".toList] with
  | [some number, some title, some subtitle, popup, some exercises] =>
      let number ← number.nat? (Nat.pow 2 32)
      let title ← title.text?
      let subtitle ← subtitle.text?
      let popup ← Json.orDefault? {} Popup.ofJson? popup
      let exercises ← (← exercises.items?).mapM (Exercise.ofJson? (depth - 2))
      return { number, title, subtitle, popup, exercises }
  | _ => none

inductive CourseError where
  | unreadable (reason : String)
  | malformed
  | noLevels
  | emptyLevel (number : Nat)
deriving DecidableEq, Repr

def CourseError.message : CourseError → String
  | .unreadable reason => "cannot read course file: " ++ reason
  | .malformed => "invalid course file"
  | .noLevels => "the course has no levels"
  | .emptyLevel number => s!"level {number} has no exercises"

namespace Course

def ofJson? (json : Json) : Option Course := do
  match ← json.fields? ["levels".toList] with
  | [some levels] =>
      let levels ← (← levels.items?).mapM (Level.ofJson? (Expectation.nestingLimit - 2))
      return { levels }
  | _ => none

def checked (c : Course) : Except CourseError Course :=
  if c.levels.isEmpty then .error .noLevels
  else match c.levels.find? (·.exercises.isEmpty) with
    | some level => .error (.emptyLevel level.number)
    | none => .ok c

def parse (document : Text) : Except CourseError Course :=
  match (Json.parse? document).bind ofJson? with
  | none => .error .malformed
  | some course => course.checked

/-- The course in a file, or the reason why the file could not be read. -/
def ofFile : Except String Text → Except CourseError Course
  | .error reason => .error (.unreadable reason)
  | .ok document => parse document

end Course

end Breadboard
