import Breadboard.Proofs.Text.Lines

/-!
Programs with one line exchanged. In a text the new line takes the place of the old one between the
same line ends, and the program of the edited text differs from the old program in that line and in
no other. What the edit does to the blocks is a question of shape: a block is found by looking at
the braces of lines and, as long as it has not opened, at whether they let a header wait. A line
with the same shape moves no block, and once a block has opened the braces alone matter.
-/

namespace Breadboard

namespace Text

/-- What follows the first line, from its line end on. -/
def afterLine : Text → Text
  | [] => []
  | '\n' :: rest => '\n' :: rest
  | '\r' :: '\n' :: rest => '\r' :: '\n' :: rest
  | _ :: rest => afterLine rest

/-- The text with another line in place of line `index`. Line ends stay as they are. -/
def withLine (t : Text) (index : Nat) (new : Text) : Text :=
  match t, index with
  | t, 0 => new ++ t.afterLine
  | [], _ + 1 => []
  | '\n' :: rest, index + 1 => '\n' :: withLine rest index new
  | c :: rest, index + 1 => c :: withLine rest (index + 1) new

example : withLine "a\r\nb\nc".toList 1 "new".toList = "a\r\nnew\nc".toList := by decide

/-- The line end behind the first line, and the lines that follow. -/
theorem afterLine_cases (t : Text) :
    (t.afterLine = [] ∧ t.lines.tail = []) ∨
      ∃ rest : Text, (t.afterLine = '\n' :: rest ∨ t.afterLine = '\r' :: '\n' :: rest) ∧
        t.lines.tail = rest.lines := by
  induction t using afterLine.induct with
  | case1 => exact .inl ⟨rfl, rfl⟩
  | case2 rest => exact .inr ⟨rest, .inl rfl, rfl⟩
  | case3 rest => exact .inr ⟨rest, .inr rfl, rfl⟩
  | case4 c rest hc hpair ih =>
      rw [lines_cons hc hpair, afterLine, List.tail_cons]
      · exact ih
      · exact hc
      · exact hpair

/-- As `lines_append_newline`, but only as far as lines are read. -/
private theorem exists_read_append_newline (line rest : Text) (hline : '\n' ∉ line) :
    ∃ kept, Line.ofText kept = Line.ofText line ∧
      lines (line ++ '\n' :: rest) = kept :: lines rest := by
  obtain ⟨kept, hlines, hkept⟩ := lines_append_newline line rest hline
  refine ⟨kept, ?_, hlines⟩
  rcases hkept with rfl | rfl
  · rfl
  · exact (Line.ofText_append_blank kept rfl).symm

/-- Another first line in front of the same line end. -/
private theorem lines_append_afterLine (t : Text) {new : Text} (hnew : '\n' ∉ new)
    (hkept : 1 < t.lines.length ∨ new ≠ []) :
    ∃ kept, Line.ofText kept = Line.ofText new ∧
      lines (new ++ t.afterLine) = kept :: t.lines.tail := by
  rcases afterLine_cases t with ⟨hnone, htail⟩ | ⟨rest, hend | hend, htail⟩
  · have hne : new ≠ [] := by
      rcases hkept with hmore | hne
      · have hlength := congrArg List.length htail
        rw [List.length_tail, List.length_nil] at hlength
        omega
      · exact hne
    refine ⟨new, rfl, ?_⟩
    rw [hnone, htail, List.append_nil, lines_of_newline_notMem hne hnew]
  · rw [hend, htail]
    exact exists_read_append_newline new rest hnew
  · have hreturn : '\n' ∉ new ++ ['\r'] := by simpa using hnew
    obtain ⟨kept, hread, hlines⟩ := exists_read_append_newline (new ++ ['\r']) rest hreturn
    refine ⟨kept, hread.trans (Line.ofText_append_blank new rfl), ?_⟩
    rw [hend, htail, ← hlines, List.append_assoc]
    rfl

private theorem head?_withLine_succ (t : Text) (index : Nat) (new : Text) :
    (t.withLine (index + 1) new).head? = t.head? := by
  cases t with
  | nil => rfl
  | cons c rest =>
      by_cases hc : c = '\n'
      · subst hc
        rfl
      · rw [withLine]
        · rfl
        · exact hc

/-- Exactly one line of the text is another. -/
theorem lines_withLine {t new : Text} {index : Nat} (hindex : index < t.lines.length)
    (hnew : '\n' ∉ new) (hkept : index + 1 < t.lines.length ∨ new ≠ []) :
    ∃ kept, Line.ofText kept = Line.ofText new ∧
      (t.withLine index new).lines = t.lines.set index kept := by
  induction t, index using withLine.induct with
  | case1 t =>
      obtain ⟨kept, hread, hlines⟩ := lines_append_afterLine t hnew hkept
      refine ⟨kept, hread, ?_⟩
      cases ht : t.lines with
      | nil =>
          rw [ht] at hindex
          cases hindex
      | cons first more =>
          rw [withLine, hlines, ht]
          rfl
  | case2 index => cases hindex
  | case3 rest index ih =>
      obtain ⟨kept, hread, hlines⟩ := ih (Nat.lt_of_succ_lt_succ hindex)
        (hkept.imp_left Nat.lt_of_succ_lt_succ)
      exact ⟨kept, hread, congrArg ([] :: ·) hlines⟩
  | case4 c rest index hc ih =>
      have hedited : withLine (c :: rest) (index + 1) new = c :: withLine rest (index + 1) new := by
        rw [withLine]
        exact hc
      by_cases hreturn : ∃ more, c = '\r' ∧ rest = '\n' :: more
      · obtain ⟨more, rfl, rfl⟩ := hreturn
        exact ih hindex hkept
      · have hpair : ∀ more, c = '\r' → rest ≠ '\n' :: more := by
          intro more hc' hrest
          exact hreturn ⟨more, hc', hrest⟩
        have hpair' : ∀ more, c = '\r' → withLine rest (index + 1) new ≠ '\n' :: more := by
          intro more hc' hrest
          have hhead := head?_withLine_succ rest index new
          rw [hrest] at hhead
          obtain ⟨tail, htail⟩ := List.head?_eq_some_iff.mp hhead.symm
          exact hpair tail hc' htail
        rw [lines_cons hc hpair, List.length_cons] at hindex hkept
        cases hlines : lines rest with
        | nil =>
            rw [hlines] at hindex
            exact absurd hindex (Nat.not_lt_of_le (Nat.le_add_left 1 index))
        | cons first more =>
            rw [hlines] at hindex hkept ih
            obtain ⟨kept, hread, hmore⟩ := ih hindex hkept
            refine ⟨kept, hread, ?_⟩
            rw [hedited, lines_cons hc hpair', hmore, lines_cons hc hpair, hlines]
            rfl

end Text

section Exchange

variable {l old : Line} (post : List Line) (hbraces : l.braces = old.braces)

include hbraces

theorem closingLine?_exchange (before : List Line) (index depth : Nat) :
    closingLine? index depth (before ++ l :: post) =
      closingLine? index depth (before ++ old :: post) := by
  induction before generalizing index depth with
  | nil => simp only [List.nil_append, closingLine?, hbraces]
  | cons other before ih => simp only [List.cons_append, closingLine?, ih]

theorem blockOn?_exchange (before : List Line) (index : Nat) (braces : List Brace) :
    blockOn? index braces (before ++ l :: post) =
      blockOn? index braces (before ++ old :: post) := by
  simp only [blockOn?, closingLine?_exchange post hbraces]

/-- Lines below the one on which the block opens may let a header wait or not. -/
theorem blockBelow?_exchange (before : List Line) (index : Nat)
    (hwaits : l.keepsWaiting = old.keepsWaiting ∨ ∃ other ∈ before, other.braces ≠ []) :
    blockBelow? index (before ++ l :: post) = blockBelow? index (before ++ old :: post) := by
  induction before generalizing index with
  | nil =>
      rcases hwaits with hsame | ⟨other, hmem, _⟩
      · simp only [List.nil_append, blockBelow?, hsame, hbraces]
      · cases hmem
  | cons first before ih =>
      simp only [List.cons_append, blockBelow?]
      by_cases hfirst : first.braces = []
      · have hrest : l.keepsWaiting = old.keepsWaiting ∨ ∃ other ∈ before, other.braces ≠ [] := by
          rcases hwaits with hsame | ⟨other, hmem, hother⟩
          · exact .inl hsame
          · rcases List.mem_cons.mp hmem with rfl | hmem
            · exact absurd hfirst hother
            · exact .inr ⟨other, hmem, hother⟩
        rw [ih (index + 1) hrest, blockOn?_exchange post hbraces]
      · have hopens : first.braces.isEmpty = false := by simpa using hfirst
        rw [hopens, blockOn?_exchange post hbraces]
        rfl

end Exchange

namespace Program

/-- The program with another line in place of line `index`. -/
def withLine (p : Program) (index : Nat) (l : Line) : Program :=
  ⟨p.lines.set index l⟩

theorem ofSource_withLine {source new : Text} {index : Nat} (hindex : index < source.lines.length)
    (hnew : '\n' ∉ new) (hkept : index + 1 < source.lines.length ∨ new ≠ []) :
    ofSource (source.withLine index new) = (ofSource source).withLine index (.ofText new) := by
  obtain ⟨kept, hread, hlines⟩ := Text.lines_withLine hindex hnew hkept
  rw [ofSource, hlines, List.map_set, hread]
  rfl

variable {p : Program} {index line : Nat} {l old : Line}

theorem statement?_withLine_of_ne (hne : line ≠ index) :
    (p.withLine index l).statement? line = p.statement? line := by
  rw [statement?, withLine, List.getElem?_set_ne (Ne.symm hne)]
  rfl

theorem statement?_withLine_self (hindex : index < p.length) :
    (p.withLine index l).statement? index = some l.statement := by
  rw [statement?, withLine, List.getElem?_set_self hindex]
  rfl

theorem isBlank_eq_false_of_statement? {statement : Statement}
    (hread : p.statement? line = some statement) (hblank : statement ≠ .blank) :
    p.isBlank = false := by
  obtain ⟨l, hl, rfl⟩ := Option.map_eq_some_iff.mp hread
  rw [isBlank, List.all_eq_false]
  exact ⟨l, List.mem_of_getElem? hl, by simpa using hblank⟩

/-- An edit that keeps the braces of the line and whether it is a header moves no block, provided
that it lets headers wait as before or that the block opens above it. -/
theorem block?_withLine (hold : p.lines[index]? = some old)
    (hheader : l.statement.isHeader = old.statement.isHeader) (hbraces : l.braces = old.braces)
    (hwaits : line < index → l.keepsWaiting = old.keepsWaiting ∨
      ∃ opening other, line ≤ opening ∧ opening < index ∧ p.lines[opening]? = some other ∧
        other.braces ≠ []) :
    (p.withLine index l).block? line = p.block? line := by
  obtain ⟨hlt, rfl⟩ := List.getElem?_eq_some_iff.mp hold
  rcases Nat.lt_or_ge index line with hbelow | habove
  · simp only [block?, withLine, List.drop_set_of_lt hbelow]
  -- the lines from the header on, cut at the exchanged line
  have hcut (x : Line) : (p.lines.set index x).drop line =
      (p.lines.take index).drop line ++ x :: p.lines.drop (index + 1) := by
    rw [List.set_eq_take_append_cons_drop, if_pos hlt, List.drop_append_of_le_length]
    rw [List.length_take]
    omega
  have hsame := hcut p.lines[index]
  rw [List.set_getElem_self] at hsame
  simp only [block?, withLine, hcut l, hsame]
  cases hbefore : (p.lines.take index).drop line with
  | nil => simp only [List.nil_append, hheader, hbraces]
  | cons first before =>
      simp only [List.cons_append]
      by_cases hfirst : first.braces = []
      · rw [blockBelow?_exchange _ hbraces before, blockOn?_exchange _ hbraces before]
        have hlt' : line < index := by
          have hlength := congrArg List.length hbefore
          rw [List.length_drop, List.length_take, List.length_cons] at hlength
          omega
        rcases hwaits hlt' with hsame | ⟨opening, other, hle, hopening, hother, hopens⟩
        · exact .inl hsame
        · refine .inr ⟨other, ?_, hopens⟩
          have hmem : other ∈ (p.lines.take index).drop line := by
            refine List.mem_of_getElem? (i := opening - line) ?_
            rw [List.getElem?_drop, Nat.add_sub_cancel' hle, List.getElem?_take_of_lt hopening,
              hother]
          rw [hbefore] at hmem
          rcases List.mem_cons.mp hmem with rfl | hmem
          · exact absurd hfirst hopens
          · exact hmem
      · have hopens : first.braces.isEmpty = false := by simpa using hfirst
        rw [hopens, blockOn?_exchange _ hbraces before]
        rfl

end Program

end Breadboard
