import Breadboard.Course.Document
import Breadboard.Grading
import Breadboard.Settings
import Breadboard.View.Listing

/-!
A lesson in progress. Keys start and stop runs, check the learner's program and move on to the next
exercise, which is only possible once the current one has been passed. The clock delivers the
events of the active run, one burst at a time, and waits out the pauses between them.
-/

namespace Breadboard

inductive Key where
  | char (c : Char)
  | escape
  | enter
  | tab
  | up
  | down
  | other
deriving DecidableEq, Repr

namespace Key

/-- The arrows are sequences of three characters; a lone escape is the key itself. -/
def ofInput : Text → List Key
  | [] => []
  | '\x1b' :: '[' :: 'A' :: rest => .up :: ofInput rest
  | '\x1b' :: '[' :: 'B' :: rest => .down :: ofInput rest
  | '\x1b' :: '[' :: _ :: rest => .other :: ofInput rest
  | '\x1b' :: rest => .escape :: ofInput rest
  | '\t' :: rest => .tab :: ofInput rest
  | c :: rest => .char c :: ofInput rest

/-- The keys of one line of input; an empty line is the enter key. -/
def ofInputLine (line : Text) : List Key :=
  match line.filter fun c => c != '\n' && c != '\r' with
  | [] => [.enter]
  | characters => ofInput characters

end Key

structure Session where
  settings : Settings
  course : Course
  /-- The file of the learner's program. -/
  path : Option String
  source : Text
  progress : Progress := {}
  runner : Runner
  demoBoard : Board := .blank .demo
  studentBoard : Board := .blank .student
  /-- The pane that scrolls. -/
  focus : Side := .student
  demoScroll : Scroll := 0
  studentScroll : Scroll := 0
  /-- Of the last check of the current exercise. -/
  feedback : Option Feedback := none
  /-- The current exercise was checked with success. -/
  passed : Bool := false
  popupShown : Bool
  /-- The end of the pause that is waited out. -/
  resumeAt : Option Nat := none
  quitting : Bool := false
  status : String
  statusIsError : Bool := false

namespace Session

def start (settings : Settings) (course : Course) (path : Option String) (source : Text) :
    Session :=
  { settings, course, path, source
    runner := { timing := settings.timing }
    popupShown := Progress.showsPopup {} course
    status :=
      if path.isSome then "Prêt !" else "Aucun fichier: lance pinquest <programme.pin>" }

def say (s : Session) (status : String) : Session :=
  { s with status, statusIsError := false }

def exampleCode (s : Session) : Text :=
  (s.course.exercise? s.progress).elim [] (·.exampleCode)

/-- The message at the end of a run. -/
def conclude (s : Session) (report : Report) : Session :=
  match report.outcome with
  | .completed => s.say "Exécution terminée"
  | .cancelled => s.say "Exécution arrêtée"
  | .failed failure =>
      { s with status := "Erreur à la " ++ failure.report, statusIsError := true }

/-- Lets the active run go on until its next pause, unless the last one is not over. -/
def tick (s : Session) (now : Nat) : Session :=
  if s.resumeAt.any (now < ·) then s
  else
    let (events, pause?, runner) := s.runner.untilPause
    let shown :=
      { s with
        demoBoard := s.demoBoard.applyAll events
        studentBoard := s.studentBoard.applyAll events }
    match pause? with
    | some pause => { shown with runner, resumeAt := some (now + pause) }
    | none =>
      match runner.takeReport with
      | (some report, runner) => { shown with runner, resumeAt := none }.conclude report
      | (none, runner) => { shown with runner, resumeAt := none }

def alreadyRunning : String := "Une exécution est déjà en cours"

def runExample (s : Session) : Session :=
  match s.runner.start s.exampleCode .demo false with
  | (true, runner) =>
      { s with runner, demoBoard := .blank .demo, resumeAt := none }.say "Exemple en cours..."
  | (false, _) => s.say alreadyRunning

def runStudent (s : Session) : Session :=
  match s.runner.start s.source .student s.settings.looping with
  | (true, runner) =>
      { s with runner, studentBoard := .blank .student, resumeAt := none }.say
        "Ton code s'exécute..."
  | (false, _) => s.say alreadyRunning

def stop (s : Session) : Session :=
  if s.runner.isBusy then { s with runner := s.runner.stop }.say "Arrêt demandé..." else s

def grade? (s : Session) : Option Grade := do
  let exercise ← s.course.exercise? s.progress
  s.runner.grade exercise.expectation s.source exercise.walkLoop

def check (s : Session) : Session :=
  match s.grade? with
  | none => s.say "Attends la fin de l'exécution pour vérifier"
  | some grade =>
      let completion := grade.completion (s.progress.isLastExercise s.course)
      { s with feedback := some grade.feedback, passed := completion.success }.say <|
        if completion.lastExercise then "Niveau terminé ! Appuie sur n pour continuer"
        else if completion.success then "Bravo ! Appuie sur n pour l'exercice suivant"
        else "Corrige ton code puis vérifie encore"

/-- Boards, windows and feedback belong to an exercise; the source does not. -/
def enter (s : Session) (progress : Progress) : Session :=
  { s with
    progress
    demoBoard := .blank .demo
    studentBoard := .blank .student
    demoScroll := 0
    studentScroll := 0
    feedback := none
    passed := false
    popupShown := progress.showsPopup s.course }

def nextExercise (s : Session) : Session :=
  if !s.passed then s.say "Réussis d'abord cet exercice (c pour vérifier)"
  else if s.runner.isBusy then s.say alreadyRunning
  else match s.progress.advance s.course with
    | (.complete, _) => s.say "Bravo ! Tu as terminé toutes les quêtes !"
    | (_, progress) =>
        let (current, total) := progress.fraction s.course
        (s.enter progress).say s!"Exercice {current}/{total}"

/-- `file` is what reading the learner's file gives now: its text, or why it cannot be read. -/
def reload (s : Session) (file : Except String Text) : Session :=
  if s.runner.isBusy then s.say alreadyRunning
  else if s.path.isNone then s.say "Aucun fichier à recharger"
  else match file with
    | .ok source =>
        { s with
          source
          studentBoard := .blank .student
          feedback := none
          passed := false }.say "Fichier rechargé"
    | .error reason =>
        { s with status := "Lecture impossible: " ++ reason, statusIsError := true }

def scroll (s : Session) (move : Scroll → Scroll) : Session :=
  match s.focus with
  | .demo => { s with demoScroll := move s.demoScroll }
  | .student => { s with studentScroll := move s.studentScroll }

def quit (s : Session) : Session :=
  { s with runner := s.runner.stop, quitting := true }

def press (s : Session) (file : Except String Text) : Key → Session
  | .char c =>
      match c.toLower with
      | 'q' => s.quit
      | 'x' => s.runExample
      | 'r' => s.runStudent
      | 's' => s.stop
      | 'c' => s.check
      | 'n' => s.nextExercise
      | 'l' => s.reload file
      | 'h' => { s with popupShown := true }
      | _ => s
  | .tab => { s with focus := match s.focus with | .demo => .student | .student => .demo }
  | .up => s.scroll Scroll.up
  | .down => s.scroll Scroll.down
  | .escape | .enter | .other => s

/-- While the popup is shown it takes every key: some close it, `q` still quits and leaves it, and
the rest do nothing. -/
def handle (s : Session) (file : Except String Text) (key : Key) : Session :=
  if s.popupShown then
    match key with
    | .escape | .enter => { s with popupShown := false }
    | .char c =>
        match c.toLower with
        | 'h' => { s with popupShown := false }
        | 'q' => s.quit
        | _ => s
    | _ => s
  else s.press file key

end Session

end Breadboard
