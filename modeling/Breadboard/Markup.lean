import Breadboard.Text.Basic

/-!
Light markup of instructions and popups as plain text for a terminal. List items become bullets,
the ends of blocks become line breaks, and all other tags vanish. Character references are decoded
after the tags are gone, so an escaped bracket never makes a tag.
-/

namespace Breadboard.Markup

/-- The first word of a tag, in lower case. -/
def tagName (tag : Text) : Text :=
  (tag.asciiLower.words.head?).getD []

def breakingTags : List Text :=
  ["/p".toList, "/li".toList, "/ul".toList, "/pre".toList, "br".toList, "br/".toList]

/-- What stands in the place of a tag. -/
def tagText (tag : Text) : Text :=
  if tagName tag = "li".toList then "\n• ".toList
  else if breakingTags.contains (tagName tag) then ['\n']
  else []

/-- The text without its tags. `tag?` holds the characters of the tag that is open, the last one
first. A tag that never closes is text. -/
def dropTags (tag? : Option Text) : Text → Text
  | [] => tag?.elim [] fun tag => '<' :: tag.reverse
  | c :: rest =>
      match tag? with
      | none => if c = '<' then dropTags (some []) rest else c :: dropTags none rest
      | some tag =>
          if c = '>' then tagText tag.reverse ++ dropTags none rest
          else dropTags (some (c :: tag)) rest

/-- The ampersand comes last, so `&amp;lt;` reads `&lt;`. -/
def decodeReferences (t : Text) : Text :=
  (((t.replace "&lt;".toList ['<']).replace "&gt;".toList ['>']).replace
    "&nbsp;".toList [' ']).replace "&amp;".toList ['&']

/-- Leaves out an empty line behind another; `afterEmpty` tells of the line before. -/
def dropRepeatedEmpty (afterEmpty : Bool) : List Text → List Text
  | [] => []
  | line :: rest =>
      if line.isEmpty && afterEmpty then dropRepeatedEmpty true rest
      else line :: dropRepeatedEmpty line.isEmpty rest

/-- Lines without blanks at their ends, without empty lines at either end of the text, and never
two empty lines in a row. -/
def tidy (t : Text) : Text :=
  let lines := dropRepeatedEmpty true (t.lines.map Text.trimEnd)
  Text.joinLines (lines.reverse.dropWhile (·.isEmpty)).reverse

def plainText (markup : Text) : Text :=
  tidy (decodeReferences (dropTags none markup))

end Breadboard.Markup
