import Breadboard.Board
import Breadboard.Course
import Breadboard.Grading
import Breadboard.Markup
import Breadboard.Screen.Paragraph

/-!
The panes around the listings: the header of the level with its progress, the boards with their
lights, variables and errors, the instructions of the exercise with the feedback of the last check,
the popup of the level, and the bottom line with what is running, the last message and the keys.
-/

namespace Breadboard

namespace Board

def lightRow (b : Board) : Row :=
  Pin.all.flatMap fun pin =>
    let light : Span :=
      if b.lights.get pin then ⟨" ● ".toList, Palette.red.ink.inBold⟩
      else ⟨" ○ ".toList, Palette.darkLight.ink.inBold⟩
    [light, ⟨pin.name.toList ++ "  ".toList, Palette.yellow.ink⟩]

def variableRows (b : Board) : List Row :=
  if b.bindings.entries.isEmpty then [[⟨" Aucune variable".toList, Palette.grey.ink⟩]]
  else
    [⟨" Variables".toList, Palette.blue.ink.inBold⟩] ::
      b.bindings.entries.map fun (name, display) =>
        [⟨"   ".toList ++ name, Palette.text.ink⟩, ⟨" = ".toList, Palette.grey.ink⟩,
          ⟨display, Palette.orange.ink⟩]

def errorRows (b : Board) : List Row :=
  match b.error with
  | none => []
  | some (line, message) =>
      [[], [⟨s!" Ligne {line + 1}: {message}".toList, Palette.red.ink.inBold⟩]]

def draw (b : Board) (a : Area) (title : String) (s : Screen) : Screen :=
  let s := s.drawBorder a (Palette.border false) (Row.ofText s!" {title} ".toList)
  s.drawRows a.inner .wrapped (b.lightRow :: [] :: b.variableRows ++ b.errorRows)

end Board

namespace Level

/-- Columns of the gauge that are filled. The counts, their ratio and its product with the width are
doubles, and a half goes up. -/
def filledColumns (width current total : Nat) : Nat :=
  if total = 0 then 0
  else
    let ratio := (Number.ofNat (min current total)).dividedBy (.ofNat total)
    match (Number.ofNat width).times ratio with
    | .finite _ units => (2 * units + Number.one) / (2 * Number.one)
    | _ => 0

/-- The label lies over the gauge. Under it, and one column further, the filled part is drawn in
exchanged colours. -/
def drawGauge (s : Screen) (a : Area) (current total : Nat) : Screen :=
  if a.isEmpty then s
  else
    let label : Text := s!"Exercice {current}/{total}".toList
    let labelWidth := min a.width label.width
    let start := (a.width - labelWidth) / 2
    let middle := a.height / 2
    let bar : Style := Palette.green.ink.on Palette.currentLine
    let covered : Style := Palette.currentLine.ink.on Palette.green
    let filled : Area := { a with width := filledColumns a.width current total }
    let s := s.paint a bar
    let s := s.forArea filled fun s x y =>
      if x < a.x + start || a.x + start + labelWidth < x || y != a.y + middle then
        s.write x y ['█'] bar
      else s.write x y [' '] covered
    s.drawLabel (a.x + start) (a.y + middle) (a.x + start + labelWidth) { text := label }

def drawHeader (l : Level) (a : Area) (current total : Nat) (s : Screen) : Screen :=
  let title := "Quest 4 - ".toList ++ l.title
  let s := s.drawBorder a (Palette.border false)
    [⟨' ' :: title ++ [' '], Palette.blue.ink.inBold⟩]
  match a.inner.columns 0 [65, 100] with
  | [left, right] =>
      let row : Row :=
        [⟨s!" Niveau {l.number} ".toList, (Color.black.ink.on Palette.blue).inBold⟩,
          ⟨' ' :: l.subtitle ++ s!" - Exercice {current}/{total}".toList, Palette.text.ink⟩]
      drawGauge (s.drawRows left .cut [row]) right current total
  | _ => s

end Level

namespace Challenge

def feedbackRows (feedback : Feedback) (passed : Bool) : List Row :=
  let color := if passed then Palette.green else Palette.red
  [[], [⟨s!" {feedback.title} ".toList, (Color.black.ink.on color).inBold⟩],
    [⟨feedback.text.toList, color.ink⟩]] ++
  (if passed then [[], [⟨"Appuie sur n pour continuer".toList, Palette.grey.ink⟩]] else [])

def draw (c : Challenge) (feedback : Option Feedback) (passed : Bool) (a : Area) (s : Screen) :
    Screen :=
  let instructions : List Row := c.instructions.map fun instruction =>
    [⟨" • ".toList, Palette.orange.ink⟩, ⟨Markup.plainText instruction, Palette.text.ink⟩]
  let rows := instructions ++ (feedback.map (feedbackRows · passed)).getD []
  let s := s.drawBorder a (Palette.border false) (Row.ofText (' ' :: c.title ++ [' ']))
  s.drawRows a.inner .wrapped rows

end Challenge

namespace Popup

/-- Over the middle of the screen, on top of what is there. -/
def draw (p : Popup) (screen : Area) (s : Screen) : Screen :=
  let a := screen.centred 20 80
  let s := (s.clear a).paint a Palette.text.ink
  let s := s.drawBorder a Palette.yellow.ink
    [⟨' ' :: p.title ++ [' '], Palette.yellow.ink.inBold⟩]
    [⟨" h / Échap pour fermer ".toList, Palette.grey.ink⟩]
  s.drawRows a.inner .wrapped ((Markup.plainText p.content).lines.map fun line => [⟨line, .plain⟩])

end Popup

structure StatusBar where
  message : String
  running : Option Side := none
  isError : Bool := false
deriving DecidableEq, Repr

namespace StatusBar

def badge (b : StatusBar) : String × Color :=
  match b.running with
  | some .demo => (" ▶ EXEMPLE ", Palette.orange)
  | some .student => (" ▶ TON CODE ", Palette.orange)
  | none => if b.isError then (" ERREUR ", Palette.red) else (" PRÊT ", Palette.blue)

def messageRow (b : StatusBar) : Row :=
  let (text, color) := b.badge
  let ink := if b.isError then Palette.red else Palette.text
  [⟨text.toList, (Color.black.ink.on color).inBold⟩,
    ⟨" | ".toList, Palette.grey.ink.on Palette.currentLine⟩,
    ⟨s!" {b.message} ".toList, ink.ink.on Palette.currentLine⟩]

def bindings : List (String × String) :=
  [("x", "exemple"), ("r", "lancer"), ("s", "stop"), ("c", "vérifier"), ("n", "suivant"),
    ("l", "recharger"), ("h", "règle"), ("q", "quitter")]

def keyRow : Row :=
  let bar : Span := ⟨['│'], Palette.grey.ink.on Palette.currentLine⟩
  let spans := bindings.map fun (key, action) =>
    [Span.mk s!" {key} ".toList (Color.black.ink.on Palette.grey),
      Span.mk s!" {action} ".toList (Palette.text.ink.on Palette.currentLine)]
  [bar].intercalate spans

def draw (b : StatusBar) (a : Area) (s : Screen) : Screen :=
  match a.columns 0 [45, 100] with
  | [left, right] =>
      let bar : Style := Style.plain.on Palette.currentLine
      let s := (s.paint left bar).drawRows left .cut [b.messageRow]
      (s.paint right bar).drawRows right .cutToTheRight [keyRow]
  | _ => s

end StatusBar

end Breadboard
