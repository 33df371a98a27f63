import Breadboard.Program

/-!
The lines of a text. Lines that are joined come apart again, at the line feeds between them and, but
for one thing, as lines. A carriage return at the end of a line is taken for a part of the line end,
so the text between two line ends may be shorter than the line that was written. To a program this
makes no difference: a carriage return is a blank, and a line is read without the blanks at its ends.
-/

namespace Breadboard

namespace Text

theorem trimEnd_append_blank (t : Text) {c : Char} (hc : isBlank c = true) :
    trimEnd (t ++ [c]) = trimEnd t := by
  simp [trimEnd, hc]

theorem trim_append_blank (t : Text) {c : Char} (hc : isBlank c = true) :
    trim (t ++ [c]) = trim t := by
  unfold trim trimStart
  rw [List.dropWhile_append]
  by_cases hall : t.dropWhile isBlank = []
  · simp [hall, hc]
  · rw [if_neg (by simpa using hall)]
    exact trimEnd_append_blank _ hc

theorem joinLines_cons (line : Text) {rest : List Text} (hrest : rest ≠ []) :
    joinLines (line :: rest) = line ++ '\n' :: joinLines rest := by
  obtain ⟨next, more, rfl⟩ := List.exists_cons_of_ne_nil hrest
  rfl

theorem joinLines_eq_intercalate (lines : List Text) :
    joinLines lines = ['\n'].intercalate lines := by
  induction lines with
  | nil => rfl
  | cons line rest ih =>
      cases rest with
      | nil => simp [joinLines, List.intercalate]
      | cons next more =>
          rw [joinLines_cons line (List.cons_ne_nil next more), ih]
          simp [List.intercalate]

/-- Every text is its lines, joined again. -/
theorem joinLines_splitOn (t : Text) : joinLines (t.splitOn '\n') = t := by
  rw [joinLines_eq_intercalate]
  exact List.intercalate_splitOn '\n'

theorem splitOn_joinLines {lines : List Text} (hne : lines ≠ [])
    (hlines : ∀ line ∈ lines, '\n' ∉ line) : (joinLines lines).splitOn '\n' = lines := by
  rw [joinLines_eq_intercalate]
  exact List.splitOn_intercalate '\n' hlines hne

theorem newline_notMem_of_mem_splitOn {t line : Text} (h : line ∈ t.splitOn '\n') :
    '\n' ∉ line := by
  induction t generalizing line with
  | nil =>
      rw [List.splitOn_nil, List.mem_singleton] at h
      rw [h]
      exact List.not_mem_nil
  | cons c rest ih =>
      obtain ⟨first, more, hrest⟩ := List.exists_cons_of_ne_nil (List.splitOn_ne_nil '\n' rest)
      rw [List.splitOn_eq_splitOnP, List.splitOnP_cons_eq_if_modifyHead,
        ← List.splitOn_eq_splitOnP] at h
      split at h
      · rcases List.mem_cons.mp h with rfl | hmem
        · exact List.not_mem_nil
        · exact ih hmem
      · next hc =>
        rw [hrest, List.modifyHead_cons] at h
        rcases List.mem_cons.mp h with rfl | hmem
        · have hfirst : '\n' ∉ first := ih (hrest ▸ List.mem_cons_self)
          have hne : '\n' ≠ c := fun heq => hc (beq_iff_eq.mpr heq.symm)
          exact List.not_mem_cons_of_ne_of_not_mem hne hfirst
        · exact ih (hrest ▸ List.mem_cons_of_mem _ hmem)

/-- A character that takes no part in a line end joins the line behind it. -/
theorem lines_cons {c : Char} {rest : Text} (hc : c ≠ '\n')
    (hpair : ∀ more, c = '\r' → rest ≠ '\n' :: more) :
    lines (c :: rest) = (c :: (lines rest).headD []) :: (lines rest).tail := by
  rw [lines]
  · cases lines rest <;> rfl
  · exact hc
  · exact hpair

theorem newline_notMem_of_mem_lines {t line : Text} (h : line ∈ t.lines) : '\n' ∉ line := by
  induction t using lines.induct generalizing line with
  | case1 => cases h
  | case2 rest ih =>
      rcases List.mem_cons.mp h with rfl | hrest
      · exact List.not_mem_nil
      · exact ih hrest
  | case3 rest ih =>
      rcases List.mem_cons.mp h with rfl | hrest
      · exact List.not_mem_nil
      · exact ih hrest
  | case4 c rest hc hpair hlines ih =>
      rw [lines_cons hc hpair, hlines] at h
      cases List.mem_singleton.mp h
      simpa using Ne.symm hc
  | case5 c rest hc hpair first more hlines ih =>
      rw [lines_cons hc hpair, hlines] at h
      rcases List.mem_cons.mp h with rfl | hrest
      · have hfirst : '\n' ∉ first := ih (hlines ▸ List.mem_cons_self)
        simpa [Ne.symm hc] using hfirst
      · exact ih (hlines ▸ List.mem_cons_of_mem _ hrest)

theorem lines_of_newline_notMem {t : Text} (hne : t ≠ []) (ht : '\n' ∉ t) : t.lines = [t] := by
  induction t with
  | nil => exact absurd rfl hne
  | cons c rest ih =>
      have hc : c ≠ '\n' := fun h => ht (h ▸ List.mem_cons_self)
      have hrest : '\n' ∉ rest := fun h => ht (List.mem_cons_of_mem _ h)
      rw [lines_cons hc ?_]
      · by_cases hlast : rest = []
        · subst hlast
          rfl
        · rw [ih hlast hrest]
          rfl
      · rintro more _ rfl
        exact hrest List.mem_cons_self

/-- The first line of a text, up to the carriage return that may go with the line end. -/
theorem lines_append_newline (line rest : Text) (hline : '\n' ∉ line) :
    ∃ kept, lines (line ++ '\n' :: rest) = kept :: lines rest ∧
      (line = kept ∨ line = kept ++ ['\r']) := by
  induction line with
  | nil => exact ⟨[], rfl, .inl rfl⟩
  | cons c line ih =>
      have hc : c ≠ '\n' := fun h => hline (h ▸ List.mem_cons_self)
      obtain ⟨kept, hlines, hkept⟩ := ih fun h => hline (List.mem_cons_of_mem _ h)
      by_cases hreturn : c = '\r' ∧ line = []
      · obtain ⟨rfl, rfl⟩ := hreturn
        exact ⟨[], rfl, .inr rfl⟩
      · refine ⟨c :: kept, ?_, ?_⟩
        · have hpair : ∀ more, ¬(c = '\r' ∧ line ++ '\n' :: rest = '\n' :: more) := by
            rintro more ⟨rfl, hmore⟩
            cases line with
            | nil => exact hreturn ⟨rfl, rfl⟩
            | cons d line =>
                cases hmore
                simp at hline
          rw [List.cons_append, lines, hlines]
          · simpa using hc
          · simpa using hpair
        · rcases hkept with rfl | rfl
          · exact .inl rfl
          · exact .inr rfl

/-- Without a carriage return at the end of a line and without an empty line at the end, joined lines
come apart as they were. -/
theorem lines_joinLines {lines : List Text} (hlines : ∀ line ∈ lines, '\n' ∉ line)
    (hreturn : ∀ line ∈ lines, line.getLast? ≠ some '\r') (hlast : lines.getLast? ≠ some []) :
    (joinLines lines).lines = lines := by
  induction lines with
  | nil => rfl
  | cons line rest ih =>
      have hline : '\n' ∉ line := hlines line List.mem_cons_self
      by_cases hrest : rest = []
      · subst hrest
        have hne : line ≠ [] := by
          rintro rfl
          exact hlast rfl
        exact lines_of_newline_notMem hne hline
      · obtain ⟨kept, hcut, hkept⟩ := lines_append_newline line (joinLines rest) hline
        have hsame : line = kept := by
          rcases hkept with hsame | rfl
          · exact hsame
          · exact absurd List.getLast?_concat (hreturn _ List.mem_cons_self)
        have hlast' : rest.getLast? ≠ some [] := by
          rwa [← List.getLast?_cons_of_ne_nil hrest]
        rw [joinLines_cons line hrest, hcut, ← hsame]
        rw [ih (fun line h => hlines line (List.mem_cons_of_mem _ h))
          (fun line h => hreturn line (List.mem_cons_of_mem _ h)) hlast']

end Text

theorem Line.ofText_append_blank (t : Text) {c : Char} (hc : Text.isBlank c = true) :
    Line.ofText (t ++ [c]) = Line.ofText t := by
  simp only [Line.ofText, Statement.ofLine, Text.trim_append_blank t hc]

/-- Joined lines are read as they were written, if the last of them is not lost for being empty. -/
theorem Program.ofSource_joinLines (init : List Text) (last : Text)
    (hinit : ∀ line ∈ init, '\n' ∉ line) (hlast : last.lines = [last]) :
    Program.ofSource (Text.joinLines (init ++ [last])) =
      ⟨(init ++ [last]).map Line.ofText⟩ := by
  induction init with
  | nil => simp [Program.ofSource, Text.joinLines, hlast]
  | cons line init ih =>
      obtain ⟨kept, hlines, hkept⟩ := Text.lines_append_newline line
        (Text.joinLines (init ++ [last])) (hinit line List.mem_cons_self)
      have hjoin : Text.joinLines (line :: init ++ [last]) =
          line ++ '\n' :: Text.joinLines (init ++ [last]) :=
        Text.joinLines_cons line (by simp)
      have hread : Line.ofText kept = Line.ofText line := by
        rcases hkept with rfl | rfl
        · rfl
        · exact (Line.ofText_append_blank kept rfl).symm
      have hrest := ih fun line hline => hinit line (List.mem_cons_of_mem _ hline)
      simp only [Program.ofSource, Program.mk.injEq] at hrest ⊢
      rw [hjoin, hlines, List.map_cons, hread, hrest]
      rfl

end Breadboard
