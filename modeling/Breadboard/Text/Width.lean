import Breadboard.Text.Columns

/-!
Columns that a text takes on a terminal. Mostly they are those of its characters, but some
characters change the width of others: a selector turns a character into a picture or back into
text, joined pictures take the place of one, and in several scripts two letters are written as one.
A text is read from its end, so that a character knows what stands behind it.
-/

namespace Breadboard.Text

/-- Letters that may melt into what stands before them. A joiner in between is noted, where it
matters. -/
inductive Ligature where
  /-- Arabic alef, which melts into a lam. -/
  | alef
  /-- Hebrew lamed, which melts into a joined alef. -/
  | lamed (joined : Bool)
  /-- Buginese ya, which melts into a joined vowel sign and its letter. -/
  | ya (joined : Bool)
  | yaUnderVowel
  /-- A consonant of Tifinagh, which melts into a joined one. -/
  | tifinagh (joined : Bool)
  | tifinaghJoiner
  /-- The second part of a tone of Lisu. -/
  | lisuTone
  /-- The letter i of Old Turkic, which melts into a joined che. -/
  | orkhonI (joined : Bool)
  /-- A letter of Khmer that can be written below another. -/
  | khmer
deriving DecidableEq, Repr

/-- What stands behind a character. -/
inductive Behind where
  | nothing
  | lineFeed
  | ligature (l : Ligature)
  | skinColor
  | regionalIndicator
  | regionalIndicators
  | picture
  /-- A joiner and a picture. -/
  | joinedPicture
  /-- A keycap, a joiner and a picture. -/
  | joinedKeycap
  /-- Regional indicators, a joiner and a picture. The first indicator opens a pair, the pair is a
  picture, and what goes beyond is told by parity. -/
  | joinedIndicator
  | joinedFlag
  | joinedFlagAndIndicator
  /-- The end of a tagged flag with so many tags, a joiner and a picture. -/
  | joinedTags (count : Nat)
deriving DecidableEq, Repr

inductive Presentation where
  | text
  | picture
deriving DecidableEq, Repr

/-- A selector asks for a presentation of the character before it. -/
structure Following where
  behind : Behind := .nothing
  asked : Option Presentation := none
deriving DecidableEq, Repr

namespace Ligature

def join : Ligature → Ligature
  | .lamed _ => .lamed true
  | .ya _ => .ya true
  | .tifinagh _ => .tifinagh true
  | .orkhonI _ => .orkhonI true
  | l => l

/-- Marks that no ligature of the other scripts minds. -/
def isIgnored (c : Char) : Bool :=
  within [(0x34F, 0x34F), (0x17B4, 0x17B5), (0x180B, 0x180D), (0x180F, 0x180F), (0xFE00, 0xFE0F),
    (0xE0100, 0xE01EF)] c.toNat

def isLam (n : Nat) : Bool :=
  within [(0x644, 0x644), (0x6B5, 0x6B8), (0x76A, 0x76A), (0x8A6, 0x8A6), (0x8C7, 0x8C7)] n

def isAlef (n : Nat) : Bool :=
  within [(0x622, 0x623), (0x625, 0x625), (0x627, 0x627), (0x671, 0x673), (0x675, 0x675),
    (0x773, 0x774), (0x870, 0x882)] n

def isTifinagh (n : Nat) : Bool :=
  within [(0x2D31, 0x2D65), (0x2D6F, 0x2D6F)] n

def isKhmer (n : Nat) : Bool :=
  within [(0x1780, 0x1782), (0x1784, 0x1787), (0x1789, 0x178C), (0x178E, 0x1793), (0x1795, 0x1798),
    (0x179B, 0x179D), (0x17A0, 0x17A0), (0x17A2, 0x17A2), (0x17A7, 0x17A7), (0x17AB, 0x17AC),
    (0x17AF, 0x17AF)] n

def ofChar? (c : Char) : Option Ligature :=
  let n := c.toNat
  if isAlef n then some .alef
  else if n = 0x5DC then some (.lamed false)
  else if n = 0x1A10 then some (.ya false)
  else if isTifinagh n then some (.tifinagh false)
  else if n = 0xA4FC ∨ n = 0xA4FD then some .lisuTone
  else if n = 0x10C03 then some (.orkhonI false)
  else if isKhmer n then some .khmer
  else none

/-- The columns that the character adds in front of the letter, and what stands behind the next
one. A letter that melts takes no column; below another letter it even gives back its own. -/
def take? (l : Ligature) (c : Char) : Option (Int × Behind) :=
  let n := c.toNat
  match l with
  | .alef =>
      if isLam n then some (0, .nothing)
      else if isJoinedAcross c then some (0, .ligature .alef)
      else none
  | .lamed true => if n = 0x5D0 then some (0, .nothing) else none
  | .ya true => if n = 0x1A17 then some (0, .ligature .yaUnderVowel) else none
  | .yaUnderVowel => if n = 0x1A15 then some (0, .nothing) else none
  | .tifinagh joined =>
      if n = 0x2D7F then some (1, .ligature .tifinaghJoiner)
      else if joined && isTifinagh n then some (0, .nothing)
      else none
  | .tifinaghJoiner => if isTifinagh n then some (-1, .nothing) else none
  | .lisuTone => if within [(0xA4F8, 0xA4FB)] n then some (0, .nothing) else none
  | .orkhonI true => if n = 0x10C32 then some (0, .nothing) else none
  | .khmer => if n = 0x17D2 then some (-1, .nothing) else none
  | _ => none

end Ligature

namespace Behind

/-- What a character is to the one before it. -/
def ofChar (c : Char) : Behind :=
  if isRegionalIndicator c then .regionalIndicator
  else if isSkinColor c then .skinColor
  else if isPicture c then .picture
  else match Ligature.ofChar? c with
    | some l => .ligature l
    | none => .nothing

def isPictureToJoin : Behind → Bool
  | .picture | .regionalIndicators | .joinedFlag | .joinedFlagAndIndicator | .skinColor => true
  | _ => false

/-- The same as `Ligature.take?`, of a picture. Whatever is joined to a picture adds nothing to
it. -/
def takePicture? (b : Behind) (c : Char) : Option (Int × Behind) :=
  let n := c.toNat
  if n = 0x200D then if b.isPictureToJoin then some (0, .joinedPicture) else none
  else match b with
    | .skinColor => if hasSkin c then some (0, .picture) else none
    | .regionalIndicator | .regionalIndicators =>
        if isRegionalIndicator c then some (1, .regionalIndicators) else none
    | .joinedPicture =>
        if n = 0x20E3 then some (0, .joinedKeycap)
        else if isRegionalIndicator c then some (1, .joinedIndicator)
        else if isSkinColor c then some (0, .skinColor)
        else if n = 0xE007F then some (0, .joinedTags 0)
        else if isPicture c then some (0, .picture)
        else none
    | .joinedIndicator | .joinedFlagAndIndicator =>
        if isRegionalIndicator c then some (-1, .joinedFlag) else none
    | .joinedFlag => if isRegionalIndicator c then some (3, .joinedFlagAndIndicator) else none
    | .joinedTags count =>
        if count < 6 && within [(0xE0030, 0xE0039), (0xE0061, 0xE007A)] n then
          some (0, .joinedTags (count + 1))
        else if 3 ≤ count && n = 0x1F3F4 then some (0, .picture)
        else none
    | _ => none

def take? (b : Behind) (c : Char) : Option (Int × Behind) :=
  match b with
  | .ligature l =>
      if l ≠ .alef ∧ c.toNat = 0x200D then some (0, .ligature l.join)
      else if l ≠ .alef ∧ Ligature.isIgnored c then some (0, .ligature l)
      else l.take? c
  | b => b.takePicture? c

end Behind

namespace Following

/-- The request of a selector that was not met is forgotten, and so is all but a ligature. -/
def withoutPicture (f : Following) : Following :=
  match f.behind with
  | .ligature l => ⟨.ligature l, none⟩
  | _ => {}

/-- The selector for pictures at the head of what follows. -/
def askPicture (f : Following) : Following :=
  match f.behind with
  | .ligature _ | .joinedPicture | .joinedKeycap => { f with asked := some .picture }
  | _ => ⟨.nothing, some .picture⟩

def askText (f : Following) : Following :=
  match f.behind with
  | .ligature _ => { f with asked := some .text }
  | _ => ⟨.nothing, some .text⟩

/-- The columns of a picture that was asked for: none, if it is joined to another. -/
def pictureColumns (f : Following) : Int :=
  match f.behind with
  | .joinedPicture | .joinedKeycap => 0
  | _ => 2

/-- A character that no selector speaks about. A line feed takes no column, with or without a
carriage return; other control characters take one. -/
def takePlain (f : Following) (c : Char) : Int × Following :=
  if c = '\n' then (0, ⟨.lineFeed, none⟩)
  else if c = '\r' ∧ f.behind = .lineFeed then (0, {})
  else if c.toNat ≤ 0xA0 then (1, {})
  else match f.behind.take? c with
    | some (columns, behind) => (columns, ⟨behind, none⟩)
    | none => (columns c, ⟨.ofChar c, none⟩)

/-- The columns of a character in front of what follows, and what follows the next one. -/
def take (f : Following) (c : Char) : Int × Following :=
  if f.asked = some .picture ∧ canBePicture c then (f.pictureColumns, ⟨.picture, none⟩)
  else
    let f := if f.asked = some .picture then f.withoutPicture else f
    if c.toNat = 0xFE0F then (0, f.askPicture)
    else if c.toNat = 0xFE0E then (0, f.askText)
    else if f.asked = some .text ∧ canBeText c then (1, {})
    else f.takePlain c

end Following

/-- The columns of a text, and what it is to a character before it. -/
def widthBefore : Text → Int × Following
  | [] => (0, {})
  | c :: rest =>
      let (sum, following) := widthBefore rest
      let (columns, following) := following.take c
      (sum + columns, following)

def width (t : Text) : Nat :=
  (widthBefore t).1.toNat

end Breadboard.Text
