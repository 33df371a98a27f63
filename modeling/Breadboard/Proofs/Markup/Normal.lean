import Mathlib.Data.List.Chain
import Breadboard.Proofs.Markup.Escaping
import Breadboard.Proofs.Text.Lines

/-!
The normal form of plain text. Whatever the markup was, no line of the plain text ends in a blank,
the text neither begins nor ends with a blank line, and no two blank lines follow each other. A text
of this form is not changed by cleaning it up again, and one that holds nothing with a meaning in
markup reads as itself.

Lines are here what stands between two line feeds, so a line feed at the end of a text is a blank
line at its end.
-/

namespace Breadboard

namespace Text

/-- No blank at the end. -/
def EndsSolid (t : Text) : Prop :=
  ∀ c, t.getLast? = some c → isBlank c = false

/-- A line that ends in no blank is blank only if there is nothing on it. -/
theorem EndsSolid.isGap_iff {line : Text} (h : EndsSolid line) : IsGap line ↔ line = [] := by
  constructor
  · intro hgap
    cases hlast : line.getLast? with
    | none => exact List.getLast?_eq_none_iff.mp hlast
    | some c =>
        have hblank : isBlank c = true := hgap c (List.mem_of_getLast? hlast)
        rw [h c hlast] at hblank
        cases hblank
  · rintro rfl
    exact isGap_nil

theorem endsSolid_trimEnd (t : Text) : EndsSolid t.trimEnd :=
  (trimEnd_eq_iff.mp rfl).2

theorem EndsSolid.trimEnd_eq {t : Text} (h : EndsSolid t) : t.trimEnd = t :=
  trimEnd_eq_iff.mpr ⟨⟨[], (List.append_nil t).symm, isGap_nil⟩, h⟩

theorem misses_of_notMem {part t : Text} {c : Char} (hpart : part.head? = some c) (ht : c ∉ t) :
    misses part t = true := by
  obtain ⟨more, rfl⟩ := List.head?_eq_some_iff.mp hpart
  induction t with
  | nil => rfl
  | cons d rest ih =>
      obtain ⟨hd, hrest⟩ : c ≠ d ∧ c ∉ rest := by simpa using ht
      simp [misses, List.isPrefixOf, hd, Ne.symm hd, ih hrest]

/-- A part that begins with a character which the text does not hold is nowhere replaced. -/
theorem replace_of_notMem {part t : Text} {c : Char} (hpart : part.head? = some c) (ht : c ∉ t)
    (new : Text) : t.replace part new = t := by
  have hall := replace_append_of_misses (misses_of_notMem hpart ht) new []
  have hnil : Text.replace [] part new = [] := rfl
  rwa [List.append_nil, hnil, List.append_nil] at hall

end Text

namespace Markup

/-- Lines that end in no blank, a written one at either end, and never two blank ones in a row. -/
structure AreTidy (lines : List Text) : Prop where
  trimmed : ∀ line ∈ lines, Text.EndsSolid line
  first : ∀ line, lines.head? = some line → ¬ Text.IsGap line
  last : ∀ line, lines.getLast? = some line → ¬ Text.IsGap line
  apart : lines.IsChain fun line next => ¬ (Text.IsGap line ∧ Text.IsGap next)

/-- The normal form of a text. The empty text has no lines. -/
def IsTidy (t : Text) : Prop :=
  t ≠ [] → AreTidy (t.splitOn '\n')

section Kept

variable {afterEmpty : Bool} {lines : List Text}

theorem tidyLines_sublist : (tidyLines afterEmpty lines).Sublist lines := by
  induction lines generalizing afterEmpty with
  | nil => exact List.Sublist.refl []
  | cons line rest ih =>
      rw [tidyLines]
      split
      · exact ih.cons line
      · exact ih.cons_cons line

/-- A line with something on it is never lost. -/
theorem mem_tidyLines {line : Text} (hline : line ≠ []) (hmem : line ∈ lines) :
    line ∈ tidyLines afterEmpty lines := by
  induction lines generalizing afterEmpty with
  | nil => cases hmem
  | cons head rest ih =>
      rw [tidyLines]
      split
      · next hdropped =>
        have hhead : head = [] := by
          obtain ⟨hempty, _⟩ := Bool.and_eq_true_iff.mp hdropped
          exact List.isEmpty_iff.mp hempty
        rcases List.mem_cons.mp hmem with hsame | hrest
        · exact absurd (hsame.trans hhead) hline
        · exact ih hrest
      · rcases List.mem_cons.mp hmem with hsame | hrest
        · rw [hsame]
          exact List.mem_cons_self
        · exact List.mem_cons_of_mem _ (ih hrest)

theorem head?_tidyLines : (tidyLines true lines).head? ≠ some [] := by
  induction lines with
  | nil => simp [tidyLines]
  | cons line rest ih =>
      cases line with
      | nil => exact ih
      | cons c more => simp [tidyLines]

theorem getLast?_tidyLines : (tidyLines afterEmpty lines).getLast? ≠ some [] := by
  induction lines generalizing afterEmpty with
  | nil => simp [tidyLines]
  | cons line rest ih =>
      rw [tidyLines]
      split
      · exact ih
      · next hkept =>
        by_cases hnone : tidyLines line.isEmpty rest = []
        · -- nothing is written below, so something is on this line, or it would have gone
          have hbelow : rest.all (·.isEmpty) = true := by
            apply List.all_eq_true.mpr
            intro other hmem
            by_contra hother
            have hwritten : other ≠ [] := fun heq => hother (List.isEmpty_iff.mpr heq)
            have hstays : other ∈ tidyLines line.isEmpty rest := mem_tidyLines hwritten hmem
            rw [hnone] at hstays
            cases hstays
          rw [hnone]
          rintro ⟨⟩
          simp [hbelow] at hkept
        · rw [List.getLast?_cons_of_ne_nil hnone]
          exact ih

theorem isChain_tidyLines :
    (tidyLines afterEmpty lines).IsChain fun line next => ¬ (line = [] ∧ next = []) := by
  induction lines generalizing afterEmpty with
  | nil => exact List.isChain_nil
  | cons line rest ih =>
      rw [tidyLines]
      split
      · exact ih
      · apply List.isChain_cons.mpr
        refine ⟨?_, ih⟩
        rintro next hnext ⟨rfl, rfl⟩
        exact head?_tidyLines hnext

/-- What both passes leave is tidy. -/
theorem areTidy_tidyLines (hsolid : ∀ line ∈ lines, Text.EndsSolid line) :
    AreTidy (tidyLines true lines) := by
  have hkept : ∀ line ∈ tidyLines true lines, Text.EndsSolid line := by
    intro line hmem
    exact hsolid line (tidyLines_sublist.subset hmem)
  constructor
  · exact hkept
  · intro line hhead hgap
    have hsolid := hkept line (List.mem_of_mem_head? hhead)
    rw [hsolid.isGap_iff.mp hgap] at hhead
    exact head?_tidyLines hhead
  · intro line hlast hgap
    have hsolid := hkept line (List.mem_of_getLast? hlast)
    rw [hsolid.isGap_iff.mp hgap] at hlast
    exact getLast?_tidyLines hlast
  · apply isChain_tidyLines.imp_of_mem_imp
    intro line next hline hnext hapart
    rw [(hkept line hline).isGap_iff, (hkept next hnext).isGap_iff]
    exact hapart

/-- Where something is written on the last line, nothing is taken from lines of which no two empty
ones follow each other. `afterEmpty` stands for an empty line above them. -/
theorem tidyLines_eq_self (hfirst : afterEmpty = true → lines.head? ≠ some [])
    (hlast : lines.getLast? ≠ some [])
    (hapart : lines.IsChain fun line next => ¬ (line = [] ∧ next = [])) :
    tidyLines afterEmpty lines = lines := by
  induction lines generalizing afterEmpty with
  | nil => rfl
  | cons line rest ih =>
      obtain ⟨hnext, hrest⟩ := List.isChain_cons.mp hapart
      have hlast' : rest.getLast? ≠ some [] := by
        intro hempty
        have hne : rest ≠ [] := by
          rintro rfl
          cases hempty
        exact hlast ((List.getLast?_cons_of_ne_nil hne).trans hempty)
      have hkept : ¬ (line.isEmpty && (afterEmpty || rest.all (·.isEmpty))) = true := by
        intro hdropped
        obtain ⟨hline, hwhy⟩ := Bool.and_eq_true_iff.mp hdropped
        obtain rfl : line = [] := List.isEmpty_iff.mp hline
        rcases Bool.or_eq_true_iff.mp hwhy with hafter | hbelow
        · exact hfirst hafter rfl
        · -- the last line of all is empty, whether it is this one or one below
          cases hend : rest.getLast? with
          | none =>
              rw [List.getLast?_eq_none_iff.mp hend] at hlast
              exact hlast rfl
          | some last =>
              have hempty := List.all_eq_true.mp hbelow last (List.mem_of_getLast? hend)
              rw [List.isEmpty_iff.mp hempty] at hend
              exact hlast' hend
      rw [tidyLines, if_neg hkept, ih]
      · intro hempty hhead
        exact hnext [] hhead ⟨List.isEmpty_iff.mp hempty, rfl⟩
      · exact hlast'
      · exact hrest

theorem AreTidy.tidyLines_eq (h : AreTidy lines) : tidyLines true lines = lines := by
  apply tidyLines_eq_self
  · intro _ hhead
    exact h.first [] hhead Text.isGap_nil
  · intro hlast
    exact h.last [] hlast Text.isGap_nil
  · apply h.apart.imp
    rintro line next hapart ⟨rfl, rfl⟩
    exact hapart ⟨Text.isGap_nil, Text.isGap_nil⟩

end Kept

theorem tidy_eq_joinLines (t : Text) :
    tidy t = Text.joinLines (tidyLines true (t.lines.map Text.trimEnd)) := by
  rw [← rdropWhile_dropRepeatedEmpty]
  rfl

/-- Whatever is cleaned up is tidy. -/
theorem isTidy_tidy (t : Text) : IsTidy (tidy t) := by
  intro hne
  have hsolid : ∀ line ∈ t.lines.map Text.trimEnd, Text.EndsSolid line := by
    intro line hmem
    obtain ⟨whole, _, rfl⟩ := List.mem_map.mp hmem
    exact Text.endsSolid_trimEnd whole
  have hnewline : ∀ line ∈ t.lines.map Text.trimEnd, '\n' ∉ line := by
    intro line hmem
    obtain ⟨whole, hwhole, rfl⟩ := List.mem_map.mp hmem
    obtain ⟨⟨gap, hcut, _⟩, _⟩ := Text.trimEnd_eq_iff.mp (rfl : whole.trimEnd = _)
    have hline := Text.newline_notMem_of_mem_lines hwhole
    rw [hcut] at hline
    exact fun hin => hline (List.mem_append_left gap hin)
  rw [tidy_eq_joinLines] at hne ⊢
  have hkept : tidyLines true (t.lines.map Text.trimEnd) ≠ [] := by
    intro hnone
    rw [hnone] at hne
    exact hne rfl
  rw [Text.splitOn_joinLines hkept]
  · exact areTidy_tidyLines hsolid
  · intro line hmem
    exact hnewline line (tidyLines_sublist.subset hmem)

/-- Cleaning up a tidy text changes nothing. -/
theorem IsTidy.tidy_eq {t : Text} (h : IsTidy t) : tidy t = t := by
  by_cases hempty : t = []
  · rw [hempty]
    rfl
  · have htidy := h hempty
    have hlines : t.lines = t.splitOn '\n' := by
      have hlast : (t.splitOn '\n').getLast? ≠ some [] := by
        intro hlast
        exact htidy.last [] hlast Text.isGap_nil
      have hreturn : ∀ line ∈ t.splitOn '\n', line.getLast? ≠ some '\r' := by
        intro line hmem hend
        cases htidy.trimmed line hmem '\r' hend
      have hcut := Text.lines_joinLines (fun line => Text.newline_notMem_of_mem_splitOn)
        hreturn hlast
      rwa [Text.joinLines_splitOn] at hcut
    have htrim : (t.splitOn '\n').map Text.trimEnd = t.splitOn '\n' := by
      rw [List.map_congr_left fun line hmem => (htidy.trimmed line hmem).trimEnd_eq]
      exact List.map_id' _
    rw [tidy_eq_joinLines, hlines, htrim, htidy.tidyLines_eq, Text.joinLines_splitOn]

instance (t : Text) : Decidable (IsTidy t) :=
  decidable_of_iff (tidy t = t) ⟨fun h => h ▸ isTidy_tidy t, IsTidy.tidy_eq⟩

example : ¬ IsTidy "a\n \nb".toList ∧ ¬ IsTidy "a\n\n\nb".toList ∧ ¬ IsTidy "a\n".toList := by
  decide +kernel

theorem decodeReferences_of_notMem {t : Text} (h : '&' ∉ t) : decodeReferences t = t := by
  rw [decodeReferences, Text.replace_of_notMem rfl h, Text.replace_of_notMem rfl h,
    Text.replace_of_notMem rfl h, Text.replace_of_notMem rfl h]

/-- Plain text is in normal form, whatever the markup was. If nothing in it has a meaning in markup,
it is its own plain text. -/
theorem plainText_normal (markup : Text) :
    IsTidy (plainText markup) ∧
      ('<' ∉ plainText markup → '&' ∉ plainText markup →
        plainText (plainText markup) = plainText markup) := by
  have htidy : IsTidy (plainText markup) := isTidy_tidy _
  refine ⟨htidy, ?_⟩
  intro hless hampersand
  have htags : dropTags none (plainText markup) = plainText markup := by
    have hplain := dropTags_append_of_notMem hless []
    rwa [List.append_nil, dropTags, Option.elim_none, List.append_nil] at hplain
  rw [plainText, htags, decodeReferences_of_notMem hampersand, htidy.tidy_eq]

/-- Blanks and blank lines from tags, references, tabs and carriage returns. -/
theorem plainText_normal_blankLines :
    plainText "<br>un&nbsp;</p>\r\n\t\n<li>a\rb\r\r\n&nbsp;</ul>".toList =
        "un\n\n• a\rb".toList ∧
      IsTidy "un\n\n• a\rb".toList ∧
      plainText "un\n\n• a\rb".toList = "un\n\n• a\rb".toList := by
  have hread : plainText "<br>un&nbsp;</p>\r\n\t\n<li>a\rb\r\r\n&nbsp;</ul>".toList =
      "un\n\n• a\rb".toList := by
    decide +kernel
  have hnormal := plainText_normal "<br>un&nbsp;</p>\r\n\t\n<li>a\rb\r\r\n&nbsp;</ul>".toList
  rw [hread] at hnormal
  exact ⟨hread, hnormal.1, hnormal.2 (by decide) (by decide)⟩

end Markup

end Breadboard
