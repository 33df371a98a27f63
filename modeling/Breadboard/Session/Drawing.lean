import Breadboard.Session
import Breadboard.View.Panes

/-!
The screen of a lesson: a header, three columns and a status bar. Drawing moves the windows of the
two listings, so it gives back a session as well.
-/

namespace Breadboard.Session

def studentTitle (s : Session) : Text :=
  match s.path with
  | some path => s!"Ton code ({path})".toList
  | none => "Ton code".toList

def demoListing (s : Session) : Listing :=
  { title := "Exemple".toList
    source := s.exampleCode
    highlighted := s.demoBoard.highlighted
    error := s.demoBoard.error
    focused := s.focus = .demo }

def studentListing (s : Session) : Listing :=
  { title := s.studentTitle
    source := s.source
    highlighted := s.studentBoard.highlighted
    error := s.studentBoard.error
    focused := s.focus = .student }

def statusBar (s : Session) : StatusBar :=
  ⟨s.status, s.runner.activeSide, s.statusIsError⟩

/-- A listing above a board. -/
def drawColumn (a : Area) (listing : Listing) (scroll : Scroll) (board : Board) (title : String)
    (screen : Screen) : Screen × Scroll :=
  match a.rows 0 [60, 100] with
  | [upper, lower] =>
      let (screen, scroll) := listing.draw upper scroll screen
      (board.draw lower title screen, scroll)
  | _ => (screen, scroll)

def drawHeader (s : Session) (a : Area) (screen : Screen) : Screen :=
  match s.course.level? s.progress with
  | some level =>
      let (current, total) := s.progress.fraction s.course
      level.drawHeader a current total screen
  | none => screen

def drawChallenge (s : Session) (a : Area) (screen : Screen) : Screen :=
  match s.course.exercise? s.progress with
  | some exercise => exercise.challenge.draw s.feedback s.passed a screen
  | none => screen

def drawPopup (s : Session) (screen : Screen) : Screen :=
  match s.course.level? s.progress with
  | some level => if s.popupShown then level.popup.draw screen.area screen else screen
  | none => screen

def draw (s : Session) (width height : Nat) : Screen × Session :=
  let screen := Screen.blank width height
  let header : Area := ⟨0, 0, width, min 3 (height - 1)⟩
  let middle : Area := ⟨0, 3, width, height - 4⟩
  let footer : Area := ⟨0, height - 1, width, min 1 height⟩
  match middle.columns 0 [35, 70, 100] with
  | [left, centre, right] =>
      let screen := s.drawHeader header screen
      let (screen, demoScroll) :=
        drawColumn left s.demoListing s.demoScroll s.demoBoard "Carte exemple" screen
      let (screen, studentScroll) :=
        drawColumn centre s.studentListing s.studentScroll s.studentBoard "Ta carte" screen
      let screen := s.drawChallenge right screen
      let screen := s.statusBar.draw footer screen
      (s.drawPopup screen, { s with demoScroll, studentScroll })
  | _ => (screen, s)

/-- The last turn of a lesson that is being left: what is due happens, the screen is drawn once
more, and a run that is still active is told to stop. -/
def leave (s : Session) (now width height : Nat) : Screen × Session :=
  let (screen, s) := (s.tick now).draw width height
  (screen, { s with runner := s.runner.stop })

end Breadboard.Session
