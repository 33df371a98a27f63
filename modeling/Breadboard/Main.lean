import Breadboard.Arguments
import Breadboard.Course.Standard
import Breadboard.Session.Drawing

/-!
The command line. Keys are read line by line, so each is followed by the enter key; meanwhile the
lesson goes on, and the screen is drawn again whenever it has changed.
-/

namespace Breadboard

def screenWidth : Nat := 100

def screenHeight : Nat := 40

/-- Milliseconds between two looks at the clock and the keyboard. -/
def pollInterval : Nat := 50

def readText (path : String) : IO (Except String Text) := do
  try
    return .ok (← IO.FS.readFile path).toList
  catch
    | .noFileOrDirectory .. => return .error "No such file or directory (os error 2)"
    | error => return .error error.toString

def isReload : Key → Bool
  | .char c => c.toLower == 'l'
  | _ => false

def handleKeys (s : Session) (keys : List Key) : IO Session :=
  keys.foldlM (fun s key => do
    let file ← match s.path with
      | some path => if isReload key then readText path else pure (.error "")
      | none => pure (.error "")
    return s.handle file key) s

partial def lesson (s : Session) (shown : String)
    (input : Task (Except IO.Error String)) : IO Unit := do
  let now ← IO.monoMsNow
  if s.quitting then
    let (screen, _) := s.leave now screenWidth screenHeight
    IO.println screen.ansi
  else
    let (screen, s) := (s.tick now).draw screenWidth screenHeight
    let drawn := screen.ansi
    if drawn != shown then
      IO.print drawn
      (← IO.getStdout).flush
    if ← IO.hasFinished input then
      match input.get with
      | .ok line =>
          if line.isEmpty then lesson s.quit drawn input
          else
            let s ← handleKeys s (Key.ofInputLine line.toList)
            lesson s drawn (← IO.asTask (do (← IO.getStdin).getLine))
      | .error error => throw error
    else
      let left := s.resumeAt.elim pollInterval fun deadline => min pollInterval (deadline - now)
      IO.sleep left.toUInt32
      lesson s drawn input

def loadSettings : Option String → IO (Except String Settings)
  | none => return .ok {}
  | some path => return (Settings.ofFile (← readText path)).mapError (·.message)

def loadCourse : Option String → IO (Except String Course)
  | none => return .ok .standard
  | some path => return (Course.ofFile (← readText path)).mapError (·.message)

/-- A program file that does not exist is created empty, ready for the learner to write in. -/
def loadProgram : Option String → IO Text
  | none => return []
  | some path => do
      try
        return (← IO.FS.readFile path).toList
      catch
        | .noFileOrDirectory .. =>
            IO.FS.writeFile path ""
            IO.eprintln s!"Created empty program file '{path}'"
            return []
        | error => throw error

def begin (arguments : Arguments) : IO (Except String Session) := do
  match ← loadSettings arguments.config with
  | .error message => return .error message
  | .ok settings =>
    match ← loadCourse arguments.content with
    | .error message => return .error message
    | .ok course =>
        let source ← loadProgram arguments.program
        return .ok (.start settings course arguments.program source)

end Breadboard

open Breadboard in
def main (args : List String) : IO UInt32 := do
  match Arguments.parse args with
  | .error error =>
      IO.eprintln s!"Error: {error.message}"
      IO.eprintln ""
      for line in Arguments.usage "pinquest" do IO.eprintln line
      return 1
  | .ok arguments =>
    match ← begin arguments with
    | .error message =>
        IO.eprintln s!"Error: {message}"
        return 1
    | .ok session =>
        lesson session "" (← IO.asTask (do (← IO.getStdin).getLine))
        return 0
