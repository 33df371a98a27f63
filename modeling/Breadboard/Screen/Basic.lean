import Breadboard.Text.Width

/-!
A terminal screen: a rectangle of cells, each with a symbol and a style. Drawing changes cells
inside the screen and ignores the rest. A style changes only what it names, so later drawing can
recolour what earlier drawing wrote. A symbol that is wider than its cell covers the next one, and
whatever was drawn there is not shown. On a terminal the screen is shown by its characters and the
control sequences of their styles.
-/

namespace Breadboard

inductive Color where
  | rgb (red green blue : UInt8)
  | black
  | white
deriving DecidableEq, Repr

structure Style where
  foreground : Option Color := none
  background : Option Color := none
  bold : Bool := false
deriving DecidableEq, Repr

namespace Style

def plain : Style := {}

def on (s : Style) (color : Color) : Style := { s with background := some color }

def inBold (s : Style) : Style := { s with bold := true }

/-- What `top` names replaces what `s` has. -/
def patch (s top : Style) : Style :=
  ⟨top.foreground.or s.foreground, top.background.or s.background, s.bold || top.bold⟩

end Style

/-- Text in the given colour. -/
def Color.ink (color : Color) : Style := { foreground := some color }

/-! The colours of the lesson. -/

namespace Palette

def text : Color := .rgb 205 214 244
def blue : Color := .rgb 137 180 250
def orange : Color := .rgb 250 179 135
def grey : Color := .rgb 108 112 134
def green : Color := .rgb 166 227 161
def red : Color := .rgb 243 139 168
def yellow : Color := .rgb 249 226 175
def cyan : Color := .rgb 148 226 213
def currentLine : Color := .rgb 50 50 70
def darkLight : Color := .rgb 69 71 90

/-- A border, brighter where the keys go. -/
def border (focused : Bool) : Style :=
  if focused then yellow.ink.inBold else grey.ink

end Palette

structure Cell where
  symbol : Text := [' ']
  style : Style := .plain
deriving DecidableEq, Repr

/-- Whether the symbol reaches beyond its cell. -/
def Cell.coversNext (c : Cell) : Bool :=
  1 < c.symbol.width

/-- The cells as they are shown: one that is covered shows nothing. `covered` tells this of the
first. -/
def shownCells (covered : Bool) : List Cell → List Cell
  | [] => []
  | cell :: rest => (if covered then {} else cell) :: shownCells cell.coversNext rest

structure Area where
  x : Nat
  y : Nat
  width : Nat
  height : Nat
deriving DecidableEq, Repr

namespace Area

def isEmpty (a : Area) : Bool := a.width == 0 || a.height == 0

/-- Without a border of one cell. -/
def inner (a : Area) : Area :=
  ⟨a.x + min 1 a.width, a.y + min 1 a.height, a.width - 2, a.height - 2⟩

/-- Where the first `percent` of `size` cells end, to the nearest cell. -/
def share (size percent : Nat) : Nat :=
  (2 * size * percent + 100) / 200

/-- Columns whose right edges lie at these percentages. -/
def columns (a : Area) (start : Nat) : List Nat → List Area
  | [] => []
  | edge :: edges =>
      ⟨a.x + share a.width start, a.y, share a.width edge - share a.width start, a.height⟩ ::
        columns a edge edges

/-- Rows whose lower edges lie at these percentages. -/
def rows (a : Area) (start : Nat) : List Nat → List Area
  | [] => []
  | edge :: edges =>
      ⟨a.x, a.y + share a.height start, a.width, share a.height edge - share a.height start⟩ ::
        rows a edge edges

/-- The part between two percentages of the width, and as much of the height. -/
def centred (a : Area) (lower upper : Nat) : Area :=
  { x := a.x + share a.width lower
    y := a.y + share a.height lower
    width := share a.width upper - share a.width lower
    height := share a.height upper - share a.height lower }

end Area

structure Screen where
  width : Nat
  height : Nat
  cells : Array Cell
deriving Repr

namespace Screen

def blank (width height : Nat) : Screen :=
  ⟨width, height, Array.replicate (width * height) {}⟩

def area (s : Screen) : Area := ⟨0, 0, s.width, s.height⟩

def change (s : Screen) (x y : Nat) (f : Cell → Cell) : Screen :=
  if x < s.width ∧ y < s.height then
    { s with cells := s.cells.modify (y * s.width + x) f }
  else s

def write (s : Screen) (x y : Nat) (symbol : Text) (style : Style) : Screen :=
  s.change x y fun cell => ⟨symbol, cell.style.patch style⟩

/-- Adds to the symbol that is there. -/
def append (s : Screen) (x y : Nat) (symbol : Text) (style : Style) : Screen :=
  s.change x y fun cell => ⟨cell.symbol ++ symbol, cell.style.patch style⟩

def erase (s : Screen) (x y : Nat) : Screen :=
  s.change x y fun _ => {}

/-- Erases `count` cells of a row. -/
def eraseFrom (s : Screen) (x y : Nat) : Nat → Screen
  | 0 => s
  | count + 1 => (s.erase x y).eraseFrom (x + 1) y count

/-- Every cell of the area in turn, row by row. -/
def forArea (s : Screen) (a : Area) (f : Screen → Nat → Nat → Screen) : Screen :=
  (List.range a.height).foldl (fun s dy =>
    (List.range a.width).foldl (fun s dx => f s (a.x + dx) (a.y + dy)) s) s

def paint (s : Screen) (a : Area) (style : Style) : Screen :=
  s.forArea a fun s x y => s.change x y fun cell => { cell with style := cell.style.patch style }

def clear (s : Screen) (a : Area) : Screen :=
  s.forArea a erase

def row (s : Screen) (y : Nat) : List Cell :=
  (s.cells.extract (y * s.width) ((y + 1) * s.width)).toList

/-- The screen as it is shown. The cell after the last one of a row is the first of the next. -/
def shown (s : Screen) : Screen :=
  { s with cells := (shownCells false s.cells.toList).toArray }

/-- The rows that are shown, from the top. -/
def rows (s : Screen) : List (List Cell) :=
  (List.range s.height).map s.shown.row

end Screen

/-- The text of a row, without the spaces at its end. -/
def rowText (cells : List Cell) : Text :=
  ((cells.flatMap (·.symbol)).reverse.dropWhile (· == ' ')).reverse

/-- The longest runs of cells in one style. -/
def rowRuns : List Cell → List (Text × Style)
  | [] => []
  | cell :: rest =>
      match rowRuns rest with
      | (text, style) :: runs =>
          if cell.style = style then (cell.symbol ++ text, style) :: runs
          else (cell.symbol, cell.style) :: (text, style) :: runs
      | [] => [(cell.symbol, cell.style)]

/-- The codes of a colour, behind `38` for the text or `48` for what lies under it. -/
def Color.codes (layer : Nat) : Color → String
  | .rgb red green blue => s!";{layer};2;{red};{green};{blue}"
  | .black => s!";{layer};5;0"
  | .white => s!";{layer};5;15"

/-- The sequence that replaces the style in force. -/
def Style.sequence (s : Style) : String :=
  "\x1b[0" ++ (if s.bold then ";1" else "") ++ s.foreground.elim "" (·.codes 38) ++
    s.background.elim "" (·.codes 48) ++ "m"

/-- The cells to write for a row: those that a wide symbol reaches over are left out. `covered` is
how many of them come first. -/
def writtenCells (covered : Nat) : List Cell → List Cell
  | [] => []
  | cell :: rest =>
      match covered with
      | covered + 1 => writtenCells covered rest
      | 0 => cell :: writtenCells (cell.symbol.width - 1) rest

/-- Draws from the upper left corner, over what was there. -/
def Screen.ansi (s : Screen) : String :=
  let rows := s.rows.map fun row =>
    String.join ((rowRuns (writtenCells 0 row)).map fun (text, style) =>
      style.sequence ++ String.ofList text)
  "\x1b[H" ++ "\r\n".intercalate rows ++ "\x1b[0m\x1b[J"

end Breadboard
