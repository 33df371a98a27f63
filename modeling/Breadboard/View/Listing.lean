import Breadboard.View.Highlight

/-!
The listing of a program in a pane: line numbers, the line that runs, and the line in error with
its message. The pane shows a window of the lines, which follows the line in error or else the
line that runs.
-/

namespace Breadboard

/-- The first line of a window that scrolls. -/
abbrev Scroll := Nat

namespace Scroll

def up (offset : Scroll) : Scroll := offset - 1

/-- Scrolling down ends at the largest machine word. -/
def down (offset : Scroll) : Scroll := min (offset + 1) (Nat.pow 2 64 - 1)

/-- Brings a line into a window of `height` lines, moving as little as possible. -/
def follow (offset : Scroll) (line height : Nat) : Scroll :=
  if line < offset then line
  else if offset + height ≤ line then line + 1 - height
  else offset

end Scroll

structure Listing where
  title : Text
  source : Text
  highlighted : Option Nat := none
  error : Option (Nat × String) := none
  focused : Bool := false
deriving DecidableEq, Repr

namespace Listing

/-- Lines that a pane of this height has room for. -/
def windowHeight (height : Nat) : Nat := max (height - 2) 1

def followed? (l : Listing) : Option Nat :=
  (l.error.map Prod.fst).or l.highlighted

/-- The window after it has followed its line; it never shows more than one screen past the
end. -/
def settle (l : Listing) (height : Nat) (offset : Scroll) : Scroll :=
  let followed := match l.followed? with
    | some line => offset.follow line (windowHeight height)
    | none => offset
  min followed (l.source.lines.length - windowHeight height)

/-- The lines in the window, each with its index. -/
def window (l : Listing) (height : Nat) (offset : Scroll) : List (Text × Nat) :=
  (l.source.lines.zipIdx.drop offset).take (windowHeight height)

/-- Right-aligned in three columns. -/
def lineNumber (n : Nat) : Text :=
  let digits := Nat.toDigits 10 n
  List.replicate (3 - digits.length) ' ' ++ digits

def lineRow (l : Listing) (line : Text) (index : Nat) : Row :=
  let isCurrent := l.highlighted = some index
  let number : Text := lineNumber (index + 1) ++ [if isCurrent then '▶' else ' ', ' ']
  let code := highlightLine line
  match l.error.filter (·.1 = index) with
  | some (_, message) =>
      ⟨number, Palette.red.ink.inBold⟩ ::
        code.map (fun span => ⟨span.text, (Color.white.ink.on Palette.red).inBold⟩) ++
        [⟨"  ◀ ".toList ++ message.toList, Palette.red.ink⟩]
  | none =>
      if isCurrent then
        ⟨number, Palette.orange.ink.inBold⟩ ::
          code.map fun span => ⟨span.text, span.style.on Palette.currentLine⟩
      else ⟨number, Palette.grey.ink⟩ :: code

def rows (l : Listing) (height : Nat) (offset : Scroll) : List Row :=
  if l.source.lines.isEmpty then [[⟨"(vide)".toList, Palette.grey.ink⟩]]
  else (l.window height offset).map fun (line, index) => l.lineRow line index

/-- Draws the listing and tells where its window is now. -/
def draw (l : Listing) (a : Area) (offset : Scroll) (s : Screen) : Screen × Scroll :=
  let offset := l.settle a.height offset
  let s := s.drawBorder a (Palette.border l.focused) (Row.ofText (' ' :: l.title ++ [' ']))
  (s.drawRows a.inner .cut (l.rows a.height offset), offset)

end Listing

end Breadboard
