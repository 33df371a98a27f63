import Breadboard.Screen.Basic
import Breadboard.Text.Cluster

/-!
Styled text on a screen. A row is a list of spans; it is either cut at the right edge or wrapped
between words. Clusters, not characters, fill the cells, and a wide cluster takes several.
-/

namespace Breadboard

structure Span where
  text : Text
  style : Style := .plain
deriving DecidableEq, Repr

abbrev Row := List Span

/-- What a reader sees as one character. Its width is kept, as wrapping asks for it again and
again. -/
structure Glyph where
  symbol : Text
  style : Style
  width : Nat := symbol.width
deriving DecidableEq, Repr

namespace Glyph

/-- A no-break space is not a place to wrap, a space without width is one. -/
def isBlank (g : Glyph) : Bool :=
  g.symbol = [Char.ofNat 0x200B] ||
    (g.symbol.all Text.isBlank && g.symbol != [Char.ofNat 0xA0])

end Glyph

/-- A line feed inside a span has no place in a row and is left out. -/
def Span.glyphs (s : Span) : List Glyph :=
  (s.text.clusters.filter (· != ['\n'])).map fun symbol => { symbol, style := s.style }

/-- A text without a style of its own, each of its lines in a span. -/
def Row.ofText (t : Text) : Row :=
  t.lines.map fun line => { text := line }

def Row.glyphs (r : Row) : List Glyph :=
  r.flatMap Span.glyphs

def glyphsWidth (glyphs : List Glyph) : Nat :=
  glyphs.foldr (fun g width => g.width + width) 0

/-- As many glyphs as fit into `room` columns out of `limit`; a glyph wider than the limit is left
out. -/
def cutGlyphs (limit room : Nat) : List Glyph → List Glyph
  | [] => []
  | g :: rest =>
      if limit < g.width then cutGlyphs limit room rest
      else if room < g.width then []
      else g :: cutGlyphs limit (room - g.width) rest

/-- A row in the making: the part that is settled, the blanks after it, and the word after
those. -/
structure Wrap where
  rows : List (List Glyph) := []
  line : List Glyph := []
  space : List Glyph := []
  word : List Glyph := []
  /-- Whether the last glyph that was kept is part of a word. -/
  afterWord : Bool := false

namespace Wrap

/-- Blanks that still fit at the end of the row. -/
def dropFitting (room : Nat) : List Glyph → List Glyph
  | [] => []
  | g :: rest => if room < g.width then g :: rest else dropFitting (room - g.width) rest

/-- A finished word joins the line, and so does one that would fill a line of its own. -/
def settle (limit : Nat) (w : Wrap) (g : Glyph) : Wrap :=
  if (w.afterWord && g.isBlank) ||
      (w.line.isEmpty && limit < glyphsWidth w.word + glyphsWidth w.space + g.width) then
    { w with line := w.line ++ w.space ++ w.word, space := [], word := [] }
  else w

def keep (w : Wrap) (g : Glyph) : Wrap :=
  if g.isBlank then { w with space := w.space ++ [g], afterWord := false }
  else { w with word := w.word ++ [g], afterWord := true }

/-- A full line becomes a row, and the blanks that would end it are dropped. A blank right at the
break is dropped too. -/
def push (limit : Nat) (w : Wrap) (g : Glyph) : Wrap :=
  if limit < g.width then w
  else
    let w := w.settle limit g
    let used := glyphsWidth w.line
    if limit ≤ used ||
        (0 < g.width && limit ≤ used + glyphsWidth w.space + glyphsWidth w.word) then
      let w :=
        { w with
          rows := w.rows ++ [w.line]
          line := []
          space := dropFitting (limit - used) w.space }
      if g.isBlank && w.space.isEmpty then w else w.keep g
    else w.keep g

def finish (w : Wrap) : List (List Glyph) :=
  let rows :=
    if w.line.isEmpty && w.word.isEmpty && !w.space.isEmpty then w.rows ++ [[]] else w.rows
  let last := w.line ++ w.space ++ w.word
  let rows := if last.isEmpty then rows else rows ++ [last]
  if rows.isEmpty then [[]] else rows

end Wrap

/-- The rows that one row becomes when no row may be wider than `limit`. -/
def wrapGlyphs (limit : Nat) (glyphs : List Glyph) : List (List Glyph) :=
  (glyphs.foldl (Wrap.push limit) {}).finish

inductive Flow where
  | cut
  | cutToTheRight
  | wrapped
deriving DecidableEq, Repr

namespace Screen

def drawGlyphs (s : Screen) (x y : Nat) : List Glyph → Screen
  | [] => s
  | g :: rest =>
      if g.width = 0 then s.drawGlyphs x y rest
      else (s.write x y g.symbol g.style).drawGlyphs (x + g.width) y rest

/-- Draws rows of text into an area, from the top, as far as they fit. -/
def drawRows (s : Screen) (a : Area) (flow : Flow) (rows : List Row) : Screen :=
  if a.isEmpty then s
  else
    let lines := match flow with
      | .wrapped => rows.flatMap fun row => wrapGlyphs a.width (Row.glyphs row)
      | _ => rows.map fun row => cutGlyphs a.width a.width (Row.glyphs row)
    let start (line : List Glyph) := match flow with
      | .cutToTheRight => a.x + (a.width - glyphsWidth line)
      | _ => a.x
    ((lines.take a.height).zipIdx).foldl
      (fun s (line, dy) => s.drawGlyphs (start line) (a.y + dy) line) s

/-- The later glyphs of a span that began at column `start`. One without width shares the cell
before it, and as long as the first cell is not full, all share that. -/
def drawLabelFrom (s : Screen) (start x y right : Nat) : List Glyph → Screen
  | [] => s
  | g :: rest =>
      if right < x + g.width then s
      else
        let s :=
          if x = start then s.append x y g.symbol g.style
          else if g.width = 0 then s.append (x - 1) y g.symbol g.style
          else s.write x y g.symbol g.style
        (s.eraseFrom (x + 1) y (g.width - 1)).drawLabelFrom start (x + g.width) y right rest

/-- A span up to column `right`. Cells that a wide glyph covers are emptied. -/
def drawLabel (s : Screen) (x y right : Nat) (span : Span) : Screen :=
  match span.glyphs with
  | [] => s
  | g :: rest =>
      if right < x + g.width then s
      else
        ((s.write x y g.symbol g.style).eraseFrom (x + 1) y (g.width - 1)).drawLabelFrom
          x (x + g.width) y right rest

def drawLabels (s : Screen) (x y right : Nat) : Row → Screen
  | [] => s
  | span :: rest =>
      if right ≤ x then s
      else (s.drawLabel x y right span).drawLabels (x + span.text.width) y right rest

/-- A title takes the columns of its text and no more than `room`. Letters that would melt into one
are drawn apart, so the end of such a title is cut. -/
def drawTitle (s : Screen) (x y room : Nat) (title : Row) : Screen :=
  let width := title.foldr (fun span width => span.text.width + width) 0
  s.drawLabels x y (x + min width room) title

/-- A border with a title on its upper edge and perhaps one on its lower edge. -/
def drawBorder (s : Screen) (a : Area) (style : Style) (title : Row) (footer : Row := []) :
    Screen :=
  if a.isEmpty then s
  else
    let right := a.x + a.width - 1
    let bottom := a.y + a.height - 1
    let column (s : Screen) (x : Nat) :=
      (List.range a.height).foldl (fun s dy => s.write x (a.y + dy) ['│'] style) s
    let line (s : Screen) (y : Nat) :=
      (List.range a.width).foldl (fun s dx => s.write (a.x + dx) y ['─'] style) s
    let s := line (column (line (column s a.x) a.y) right) bottom
    let s := s.write right bottom ['┘'] style
    let s := s.write right a.y ['┐'] style
    let s := s.write a.x bottom ['└'] style
    let s := s.write a.x a.y ['┌'] style
    let s := s.drawTitle (a.x + 1) a.y (a.width - 2) title
    s.drawTitle (a.x + 1) bottom (a.width - 2) footer

end Screen

end Breadboard
