import Breadboard.Proofs.Screen
import Breadboard.Proofs.View.Highlight
import Breadboard.View.Listing

/-!
The window of a listing. Before it is drawn, the window moves to the line that it follows and then
back as far as it would show nothing below the last line. The second move never undoes the first: a
line that is followed is in the window, and the window is as full as it can be. Each line of the
window can then be read on the screen, behind its number and with the message of its error.
-/

namespace Breadboard

namespace Scroll

/-- One more than the largest machine word. -/
def wordLimit : Nat := Nat.pow 2 64

/-- As `follow`, but with the arithmetic of machine words: there is no result if the sum is too
large or the difference is below zero. -/
def followWord? (offset : Scroll) (line height : Nat) : Option Scroll :=
  if line < offset then some line
  else if wordLimit ≤ offset + height then none
  else if offset + height ≤ line then
    if line + 1 < height then none else some (line + 1 - height)
  else some offset

variable (offset : Scroll) (line : Nat) {height : Nat}

theorem followWord?_eq_follow (h : offset + height < wordLimit) :
    offset.followWord? line height = some (offset.follow line height) := by
  unfold followWord? follow
  by_cases habove : line < offset
  · rw [if_pos habove, if_pos habove]
  · rw [if_neg habove, if_neg habove, if_neg (Nat.not_le.mpr h)]
    by_cases hbelow : offset + height ≤ line
    · have hheight : height ≤ line + 1 := by
        unfold Scroll at *
        omega
      rw [if_pos hbelow, if_pos hbelow, if_neg (Nat.not_lt.mpr hheight)]
    · rw [if_neg hbelow, if_neg hbelow]

theorem follow_le (hheight : 0 < height) : offset.follow line height ≤ line := by
  unfold follow Scroll at *
  split
  · omega
  · split
    · omega
    · omega

theorem lt_follow_add (hheight : 0 < height) : line < offset.follow line height + height := by
  unfold follow Scroll at *
  split
  · omega
  · split
    · omega
    · omega

end Scroll

namespace Listing

variable {l : Listing} {height line : Nat} {offset : Scroll}

theorem windowHeight_pos (height : Nat) : 0 < windowHeight height := by
  unfold windowHeight
  omega

theorem settle_eq (h : l.followed? = some line) :
    l.settle height offset =
      min (offset.follow line (windowHeight height))
        (l.source.lines.length - windowHeight height) := by
  rw [settle, h]

/-- The lines in a window that does not reach beyond the last line. -/
theorem window_eq {shown : Nat} (h : shown ≤ l.source.lines.length - windowHeight height) :
    l.window height shown =
      (List.range' shown (min (windowHeight height) l.source.lines.length)).map
        fun index => (l.source.lines.getD index [], index) := by
  apply List.ext_getElem?
  intro row
  by_cases hrow : row < min (windowHeight height) l.source.lines.length
  · have hroom : row < windowHeight height := by omega
    have hline : shown + row < l.source.lines.length := by omega
    rw [window, List.getElem?_take_of_lt hroom, List.getElem?_drop, List.getElem?_zipIdx,
      List.getElem?_map, List.getElem?_range' hrow, List.getElem?_eq_getElem hline]
    simp [hline]
  · have hnone : l.source.lines.length ≤ shown + row ∨ windowHeight height ≤ row := by omega
    rw [List.getElem?_eq_none, List.getElem?_eq_none]
    · simpa using Nat.not_lt.mp hrow
    · simp only [window, List.length_take, List.length_drop, List.length_zipIdx]
      omega

/-- What stands behind a line that is in error. -/
def note (l : Listing) (index : Nat) : Text :=
  match l.error with
  | some (line, message) => if line = index then "  ◀ ".toList ++ message.toList else []
  | none => []

/-- What the row of a line says: its number, a mark on the line that runs, the line itself, and what
is wrong with it. -/
def written (l : Listing) (index : Nat) : Text :=
  (Nat.toDigits 10 (index + 1)).leftpad 3 ' ' ++
    [if l.highlighted = some index then '▶' else ' ', ' '] ++ l.source.lines.getD index [] ++
    l.note index

theorem lineNumber_eq (n : Nat) : lineNumber n = (Nat.toDigits 10 n).leftpad 3 ' ' := rfl

theorem note_eq_nil {index : Nat} (h : l.error.filter (·.1 = index) = none) :
    l.note index = [] := by
  rw [note]
  split
  · next line message herror =>
      rw [Option.filter_eq_none_iff] at h
      exact if_neg (by simpa using h _ herror)
  · rfl

theorem text_lineRow (l : Listing) (index : Nat) :
    Row.text (l.lineRow (l.source.lines.getD index []) index) = l.written index := by
  rw [written, ← lineNumber_eq]
  generalize l.source.lines.getD index [] = code
  have hcode : Row.text (highlightLine code) = code := text_highlightLine code
  unfold lineRow
  split
  · next line message hfilter =>
      obtain ⟨herror, hhere⟩ := Option.filter_eq_some_iff.mp hfilter
      have hline : line = index := of_decide_eq_true hhere
      simp [note, herror, hline, hcode]
  · next hfilter =>
      by_cases hcurrent : l.highlighted = some index
      · simp [hcurrent, hcode, note_eq_nil hfilter]
      · simp [hcurrent, hcode, note_eq_nil hfilter]

theorem rows_eq {shown : Nat} (hsome : l.source.lines ≠ [])
    (h : shown ≤ l.source.lines.length - windowHeight height) :
    (l.rows height shown).map Row.text =
      (List.range' shown (min (windowHeight height) l.source.lines.length)).map l.written := by
  have hempty : l.source.lines.isEmpty = false := by
    rw [List.isEmpty_eq_false_iff]
    exact hsome
  rw [rows, hempty, window_eq h, if_neg Bool.false_ne_true, List.map_map, List.map_map]
  apply List.map_congr_left
  intro index _
  exact l.text_lineRow index

/-- At this offset the pane lists consecutive lines, as many as it has room for or as there are, and
the given line is one of them. -/
structure Shows (l : Listing) (height : Nat) (shown : Scroll) (line : Nat) : Prop where
  above : shown ≤ line
  below : line < shown + max (height - 2) 1
  full : shown ≤ l.source.lines.length - max (height - 2) 1
  rows : (l.rows height shown).map Row.text =
    (List.range' shown (min (max (height - 2) 1) l.source.lines.length)).map l.written
  listed : line ∈ List.range' shown (min (max (height - 2) 1) l.source.lines.length)

theorem shows_settle (hfollowed : l.followed? = some line)
    (hline : line < l.source.lines.length) : l.Shows height (l.settle height offset) line := by
  have habove := offset.follow_le line (windowHeight_pos height)
  have hbelow := offset.lt_follow_add line (windowHeight_pos height)
  rw [settle_eq hfollowed]
  generalize offset.follow line (windowHeight height) = followed at habove hbelow
  unfold Scroll at *
  have hstart : min followed (l.source.lines.length - windowHeight height) ≤ line := by omega
  have hstop : line < min followed (l.source.lines.length - windowHeight height) +
      windowHeight height := by
    omega
  have hfull : min followed (l.source.lines.length - windowHeight height) ≤
      l.source.lines.length - windowHeight height := by
    omega
  constructor
  · exact hstart
  · exact hstop
  · exact hfull
  · apply rows_eq _ hfull
    intro hnil
    rw [hnil] at hline
    cases hline
  · change line ∈ List.range' _ (min (windowHeight height) _)
    apply List.mem_range'_1.mpr
    omega

/-- The screen keeps its cells. In the rows inside the border it shows the lines that are listed from
this offset on, and behind the last line what was there before. -/
structure Appears (l : Listing) (a : Area) (shown : Scroll) (before after : Screen) : Prop where
  places : ∀ x y, (after.cell? x y).isSome = (before.cell? x y).isSome
  reads : ∀ row < a.height - 2, shown + row < l.source.lines.length →
    after.Reads (a.x + 1) (a.y + 1 + row) (a.width - 2) (l.written (shown + row))
  rest : ∀ row < a.height - 2, l.source.lines.length ≤ shown + row → ∀ column < a.width - 2,
    after.cell? (a.x + 1 + column) (a.y + 1 + row) =
      before.cell? (a.x + 1 + column) (a.y + 1 + row)

section Draw

variable {a : Area} {s : Screen} {shown : Nat}

theorem Shows.length_rows (h : l.Shows height shown line) :
    (l.rows height shown).length = min (max (height - 2) 1) l.source.lines.length := by
  rw [← List.length_map (f := Row.text), h.rows, List.length_map, List.length_range']

theorem Shows.text_row (h : l.Shows height shown line) {row : Nat} (hroom : row < height - 2)
    (hline : shown + row < l.source.lines.length) :
    ∃ r, (l.rows height shown)[row]? = some r ∧ Row.text r = l.written (shown + row) := by
  have hcount : row < min (max (height - 2) 1) l.source.lines.length := by omega
  have hrows := congrArg (·[row]?) h.rows
  simp only [List.getElem?_map, List.getElem?_range' hcount, Option.map_some, Nat.one_mul,
    Option.map_eq_some_iff] at hrows
  exact hrows

theorem appears_drawRows (style : Style) (title : Row) (h : l.Shows a.height shown line) :
    l.Appears a shown s
      ((s.drawBorder a style title).drawRows a.inner .cut (l.rows a.height shown)) := by
  have hborder := s.changesOnly_drawBorder a style title []
  have hrows := (s.drawBorder a style title).changesOnly_drawRows a.inner (l.rows a.height shown)
  have htop (hheight : 0 < a.height) : a.inner.y = a.y + 1 := by
    change a.y + min 1 a.height = a.y + 1
    omega
  constructor
  · intro x y
    rw [hrows.places, hborder.places]
  · intro row hroom hline
    obtain ⟨r, hr, htext⟩ := h.text_row hroom hline
    rw [← htext]
    rcases Nat.eq_zero_or_pos a.width with hwidth | hwidth
    · rw [hwidth]
      exact Screen.reads_zero _ _ _ _
    · have hleft : a.inner.x = a.x + 1 := by
        change a.x + min 1 a.width = a.x + 1
        omega
      rw [← hleft, ← htop (by omega)]
      exact Screen.reads_drawRows hr hroom _
  · intro row hroom hline column hcolumn
    have hfull : shown ≤ l.source.lines.length - max (a.height - 2) 1 := h.full
    rw [hrows.outside, hborder.outside]
    · unfold Screen.OnBorder
      omega
    · rw [h.length_rows, htop (by omega)]
      omega

end Draw

/-- The line that a listing follows, the one in error or else the one that runs, is in view. Drawing
the pane moves the window to an offset at which it lists that line, whatever the offset was before,
and the screen shows what is listed. The arithmetic of the move stays within machine words. -/
theorem draw_follows (l : Listing) (a : Area) (offset : Scroll) (s : Screen) {line : Nat}
    (hfollowed : (l.error.map Prod.fst).or l.highlighted = some line)
    (hline : line < l.source.lines.length)
    (hword : offset + max (a.height - 2) 1 < Scroll.wordLimit) :
    l.Shows a.height (l.draw a offset s).2 line ∧
      l.Appears a (l.draw a offset s).2 s (l.draw a offset s).1 ∧
      offset.followWord? line (max (a.height - 2) 1) =
        some (offset.follow line (max (a.height - 2) 1)) := by
  have hshows : l.Shows a.height (l.draw a offset s).2 line := shows_settle hfollowed hline
  exact ⟨hshows, appears_drawRows _ _ hshows, offset.followWord?_eq_follow line hword⟩

/-- A window of two rows comes back from below the end to the line in error, not to the line that
runs, and shows it with its message, as much of it as there is room for. -/
theorem draw_follows_error :
    (draw ⟨[], "a\nb\nc\nd".toList, some 0, some (1, "!"), false⟩ ⟨0, 0, 9, 4⟩ 7
        (.blank 9 4)).2 = 1 ∧
      Shows ⟨[], "a\nb\nc\nd".toList, some 0, some (1, "!"), false⟩ 4 1 1 ∧
      (draw ⟨[], "a\nb\nc\nd".toList, some 0, some (1, "!"), false⟩ ⟨0, 0, 9, 4⟩ 7
        (.blank 9 4)).1.Reads 1 1 7 "  2  b  ◀ !".toList := by
  have hshown : (draw ⟨[], "a\nb\nc\nd".toList, some 0, some (1, "!"), false⟩ ⟨0, 0, 9, 4⟩ 7
      (.blank 9 4)).2 = 1 := by
    decide
  obtain ⟨hshows, happears, _⟩ :=
    draw_follows ⟨[], "a\nb\nc\nd".toList, some 0, some (1, "!"), false⟩
      ⟨0, 0, 9, 4⟩ 7 (.blank 9 4) rfl (by decide) (by decide)
  rw [hshown] at hshows happears
  exact ⟨hshown, hshows, happears.reads 0 (by decide) (by decide)⟩

end Listing

end Breadboard
