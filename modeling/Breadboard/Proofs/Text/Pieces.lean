import Mathlib.Data.List.DropRight
import Breadboard.Variable

/-!
How a text is cut into pieces. Every function that takes something off a text, at its start, at its
end or at the first place with some property, is told here by an equation: the text is this piece
and that piece, one behind the other. The equation also says what makes the cut the only one, so it
can be read in both directions, and a rule of the language becomes a way of writing a line.
-/

namespace Breadboard

namespace Text

/-- Nothing but blanks, and perhaps nothing at all. -/
def IsGap (t : Text) : Prop :=
  ∀ c ∈ t, isBlank c = true

instance (t : Text) : Decidable (IsGap t) :=
  decidable_of_iff (t.all isBlank = true) List.all_eq_true

theorem isGap_nil : IsGap [] := by
  simp [IsGap]

theorem IsGap.append {gap gap' : Text} (hgap : IsGap gap) (hgap' : IsGap gap') :
    IsGap (gap ++ gap') := by
  intro c hc
  exact (List.mem_append.mp hc).elim (hgap c) (hgap' c)

/-- A text has one cut in front of which `p` holds everywhere and behind which it fails at once. -/
theorem span_eq_iff {p : Char → Bool} {t front rest : Text} :
    t.takeWhile p = front ∧ t.dropWhile p = rest ↔
      t = front ++ rest ∧ (∀ c ∈ front, p c = true) ∧ ∀ c, rest.head? = some c → p c = false := by
  constructor
  · rintro ⟨rfl, rfl⟩
    refine ⟨List.takeWhile_append_dropWhile.symm, fun c hc => List.mem_takeWhile_imp hc, ?_⟩
    intro c hc
    have hnot := List.head?_dropWhile_not p t
    rw [hc] at hnot
    exact hnot
  · rintro ⟨rfl, hfront, hrest⟩
    rw [List.takeWhile_append_of_pos hfront, List.dropWhile_append_of_pos hfront]
    cases rest with
    | nil => simp
    | cons c rest => simp [hrest c rfl]

theorem span_spec (p : Char → Bool) (t : Text) :
    t = t.takeWhile p ++ t.dropWhile p ∧ (∀ c ∈ t.takeWhile p, p c = true) ∧
      ∀ c, (t.dropWhile p).head? = some c → p c = false :=
  span_eq_iff.mp ⟨rfl, rfl⟩

theorem span_append {p : Char → Bool} {front rest : Text} (hfront : ∀ c ∈ front, p c = true)
    (hrest : ∀ c, rest.head? = some c → p c = false) :
    (front ++ rest).takeWhile p = front ∧ (front ++ rest).dropWhile p = rest :=
  span_eq_iff.mpr ⟨rfl, hfront, hrest⟩

theorem dropStart?_eq_some_iff {t start rest : Text} :
    t.dropStart? start = some rest ↔ t = start ++ rest := by
  rw [dropStart?, Option.ite_none_right_eq_some, List.isPrefixOf_iff_prefix]
  constructor
  · rintro ⟨⟨more, rfl⟩, h⟩
    simpa using h
  · rintro rfl
    simp

theorem dropEnd?_eq_some_iff {t tail rest : Text} :
    t.dropEnd? tail = some rest ↔ t = rest ++ tail := by
  rw [dropEnd?, Option.ite_none_right_eq_some, List.isSuffixOf_iff_suffix]
  constructor
  · rintro ⟨⟨more, rfl⟩, h⟩
    simpa using h
  · rintro rfl
    simp

theorem sameLetters_iff {a b : Text} : sameLetters a b = true ↔ a.asciiLower = b.asciiLower :=
  beq_iff_eq

theorem length_asciiLower (t : Text) : t.asciiLower.length = t.length :=
  List.length_map ..

theorem dropKeyword?_eq_some_iff {t keyword rest : Text} :
    t.dropKeyword? keyword = some rest ↔
      ∃ word, t = word ++ rest ∧ word.asciiLower = keyword.asciiLower := by
  rw [dropKeyword?, Option.ite_none_right_eq_some, sameLetters_iff]
  constructor
  · rintro ⟨hletters, h⟩
    refine ⟨t.take keyword.length, ?_, hletters⟩
    rw [← Option.some.inj h, List.take_append_drop]
  · rintro ⟨word, rfl, hletters⟩
    have hlength : word.length = keyword.length := by
      rw [← length_asciiLower word, hletters, length_asciiLower]
    rw [← hlength]
    simp [hletters]

theorem dropLastKeyword?_eq_some_iff {t keyword rest : Text} :
    t.dropLastKeyword? keyword = some rest ↔
      ∃ word, t = rest ++ word ∧ word.asciiLower = keyword.asciiLower := by
  rw [dropLastKeyword?, Option.ite_none_right_eq_some, sameLetters_iff]
  constructor
  · rintro ⟨hletters, h⟩
    refine ⟨t.drop (t.length - keyword.length), ?_, hletters⟩
    rw [← Option.some.inj h, List.take_append_drop]
  · rintro ⟨word, rfl, hletters⟩
    have hlength : (rest ++ word).length - keyword.length = rest.length := by
      rw [← length_asciiLower keyword, ← hletters, length_asciiLower, List.length_append]
      omega
    rw [hlength]
    simp [hletters]

theorem trimStart_eq_iff {t rest : Text} :
    t.trimStart = rest ↔
      (∃ gap, t = gap ++ rest ∧ IsGap gap) ∧ ∀ c, rest.head? = some c → isBlank c = false := by
  constructor
  · intro h
    obtain ⟨ht, hgap, hrest⟩ := span_eq_iff.mp ⟨rfl, h⟩
    exact ⟨⟨_, ht, hgap⟩, hrest⟩
  · rintro ⟨⟨gap, ht, hgap⟩, hrest⟩
    exact (span_eq_iff.mpr ⟨ht, hgap, hrest⟩).2

theorem trimEnd_eq_iff {t rest : Text} :
    t.trimEnd = rest ↔
      (∃ gap, t = rest ++ gap ∧ IsGap gap) ∧ ∀ c, rest.getLast? = some c → isBlank c = false := by
  have hreverse : t.trimEnd = rest ↔ trimStart t.reverse = rest.reverse := by
    rw [← List.reverse_inj]
    simp [trimEnd, trimStart]
  rw [hreverse, trimStart_eq_iff, List.head?_reverse]
  apply and_congr_left'
  constructor
  · rintro ⟨gap, ht, hgap⟩
    refine ⟨gap.reverse, ?_, by simpa [IsGap] using hgap⟩
    rw [← List.reverse_inj, ht]
    simp
  · rintro ⟨gap, rfl, hgap⟩
    exact ⟨gap.reverse, by simp, by simpa [IsGap] using hgap⟩

/-- If a text begins with no blank, then no part at its start does. -/
theorem isBlank_head?_of_append {front rest : Text}
    (h : ∀ c, (front ++ rest).head? = some c → isBlank c = false) :
    ∀ c, front.head? = some c → isBlank c = false := by
  intro c hc
  apply h
  rw [List.head?_append, hc]
  rfl

/-- What is left without the blanks at both ends begins with none. -/
theorem head?_trim {t : Text} {c : Char} (h : t.trim.head? = some c) : isBlank c = false := by
  obtain ⟨⟨gap, hstart, _⟩, _⟩ := trimEnd_eq_iff.mp (rfl : t.trim = t.trim)
  have hsolid := (trimStart_eq_iff.mp (rfl : t.trimStart = t.trimStart)).2
  rw [hstart] at hsolid
  exact isBlank_head?_of_append hsolid c h

/-- No blank at either end. -/
structure IsTrimmed (t : Text) : Prop where
  start : ∀ c, t.head? = some c → isBlank c = false
  stop : ∀ c, t.getLast? = some c → isBlank c = false

theorem isTrimmed_trim (t : Text) : IsTrimmed t.trim :=
  ⟨fun _ => head?_trim, (trimEnd_eq_iff.mp rfl).2⟩

theorem isTrimmed_between {c d : Char} (hc : isBlank c = false) (hd : isBlank d = false)
    (t : Text) : IsTrimmed (c :: t ++ [d]) := by
  constructor
  · rintro e ⟨⟩
    exact hc
  · intro e he
    rw [List.getLast?_append_of_ne_nil _ (by simp)] at he
    cases he
    exact hd

theorem trim_eq_iff {t core : Text} :
    t.trim = core ↔
      (∃ gap gap', t = gap ++ core ++ gap' ∧ IsGap gap ∧ IsGap gap') ∧ IsTrimmed core := by
  constructor
  · rintro rfl
    obtain ⟨⟨gap', hstart, hgap'⟩, _⟩ := trimEnd_eq_iff.mp (rfl : t.trim = t.trim)
    obtain ⟨⟨gap, ht, hgap⟩, _⟩ := trimStart_eq_iff.mp hstart
    exact ⟨⟨gap, gap', ht.trans (List.append_assoc ..).symm, hgap, hgap'⟩, isTrimmed_trim t⟩
  · rintro ⟨⟨gap, gap', rfl, hgap, hgap'⟩, htrimmed⟩
    by_cases hcore : core = []
    · subst hcore
      have hall : trimStart (gap ++ [] ++ gap') = [] :=
        trimStart_eq_iff.mpr ⟨⟨gap ++ gap', by simp, hgap.append hgap'⟩, by simp⟩
      rw [trim, hall]
      rfl
    · apply trimEnd_eq_iff.mpr
      refine ⟨⟨gap', ?_, hgap'⟩, htrimmed.stop⟩
      refine trimStart_eq_iff.mpr ⟨⟨gap, by rw [List.append_assoc], hgap⟩, ?_⟩
      rw [List.head?_append_of_ne_nil _ hcore]
      exact htrimmed.start

theorem trim_gaps {gap gap' : Text} (hgap : IsGap gap) (hgap' : IsGap gap') (t : Text) :
    trim (gap ++ t ++ gap') = t.trim := by
  obtain ⟨⟨inner, inner', ht, hinner, hinner'⟩, htrimmed⟩ := trim_eq_iff.mp (rfl : t.trim = _)
  refine trim_eq_iff.mpr
    ⟨⟨gap ++ inner, inner' ++ gap', ?_, hgap.append hinner, hinner'.append hgap'⟩, htrimmed⟩
  calc gap ++ t ++ gap' = gap ++ (inner ++ t.trim ++ inner') ++ gap' := by rw [← ht]
    _ = gap ++ inner ++ t.trim ++ (inner' ++ gap') := by simp

theorem IsTrimmed.trim_eq {t : Text} (h : IsTrimmed t) : t.trim = t :=
  trim_eq_iff.mpr ⟨⟨[], [], by simp, isGap_nil, isGap_nil⟩, h⟩

instance (t : Text) : Decidable (IsTrimmed t) :=
  decidable_of_iff (t.trim = t) ⟨fun h => h ▸ isTrimmed_trim t, IsTrimmed.trim_eq⟩

theorem cutAt?_eq_some_iff {p : Char → Bool} {t before after : Text} {c : Char} :
    t.cutAt? p = some (before, c, after) ↔
      t = before ++ c :: after ∧ p c = true ∧ ∀ d ∈ before, p d = false := by
  induction t generalizing before with
  | nil => simp [cutAt?]
  | cons d rest ih =>
      rw [cutAt?]
      by_cases hd : p d = true
      · rw [if_pos hd]
        constructor
        · rintro ⟨⟩
          exact ⟨rfl, hd, by simp⟩
        · rintro ⟨hcut, _, hbefore⟩
          cases before with
          | nil =>
              cases hcut
              rfl
          | cons e before =>
              cases hcut
              rw [hbefore d List.mem_cons_self] at hd
              cases hd
      · rw [if_neg hd, Option.map_eq_some_iff]
        constructor
        · rintro ⟨⟨front, e, back⟩, hcut, h⟩
          cases h
          obtain ⟨rfl, hc, hfront⟩ := ih.mp hcut
          refine ⟨rfl, hc, ?_⟩
          simpa [hd] using hfront
        · rintro ⟨hcut, hc, hbefore⟩
          cases before with
          | nil =>
              cases hcut
              exact absurd hc hd
          | cons e front =>
              cases hcut
              have hfront : ∀ e ∈ front, p e = false := fun e he =>
                hbefore e (List.mem_cons_of_mem _ he)
              exact ⟨(front, c, after), ih.mpr ⟨rfl, hc, hfront⟩, rfl⟩

section Words

theorem cutAtBlanks_ne_nil (t : Text) : cutAtBlanks t ≠ [] := by
  cases t with
  | nil => simp [cutAtBlanks]
  | cons c rest =>
      rw [cutAtBlanks]
      split
      · simp
      · split <;> simp

/-- What stands in front of the first blank is one piece. -/
theorem cutAtBlanks_append {word : Text} (hword : ∀ c ∈ word, isBlank c = false) (rest : Text) :
    cutAtBlanks (word ++ rest) =
      (word ++ (cutAtBlanks rest).headD []) :: (cutAtBlanks rest).tail := by
  induction word with
  | nil =>
      cases hpieces : cutAtBlanks rest with
      | nil => exact absurd hpieces (cutAtBlanks_ne_nil rest)
      | cons piece pieces => simp [hpieces]
  | cons c word ih =>
      have hrest := ih fun d hd => hword d (List.mem_cons_of_mem _ hd)
      rw [List.cons_append, cutAtBlanks, hrest]
      simp [hword c List.mem_cons_self]

theorem words_gap_append {gap : Text} (hgap : IsGap gap) (t : Text) :
    words (gap ++ t) = words t := by
  induction gap with
  | nil => rfl
  | cons c gap ih =>
      have hrest : words (gap ++ t) = words t := ih fun d hd => hgap d (List.mem_cons_of_mem _ hd)
      rw [← hrest]
      simp [words, cutAtBlanks, hgap c List.mem_cons_self]

theorem words_of_isGap {gap : Text} (hgap : IsGap gap) : words gap = [] := by
  rw [← List.append_nil gap, words_gap_append hgap]
  rfl

/-- Something without blanks. -/
structure IsWord (t : Text) : Prop where
  nonempty : t ≠ []
  solid : ∀ c ∈ t, isBlank c = false

theorem isWord_iff {t : Text} :
    IsWord t ↔ (!t.isEmpty && t.all fun c => !isBlank c) = true := by
  simp only [Bool.and_eq_true, Bool.not_eq_true', List.isEmpty_eq_false_iff, List.all_eq_true]
  exact ⟨fun h => ⟨h.nonempty, h.solid⟩, fun ⟨hne, hsolid⟩ => ⟨hne, hsolid⟩⟩

instance (t : Text) : Decidable (IsWord t) := decidable_of_iff _ isWord_iff.symm

/-- The text begins with a gap, then comes a word that goes on up to the next blank. -/
structure BeginsWith (t word rest : Text) : Prop where
  cut : ∃ gap, t = gap ++ word ++ rest ∧ IsGap gap
  word : IsWord word
  ends : ∀ c, rest.head? = some c → isBlank c = true

theorem BeginsWith.words_eq {t word rest : Text} (h : BeginsWith t word rest) :
    words t = word :: words rest := by
  obtain ⟨gap, rfl, hgap⟩ := h.cut
  have hkept : word.isEmpty = false := by simpa using h.word.nonempty
  rw [List.append_assoc, words_gap_append hgap, words, cutAtBlanks_append h.word.solid]
  cases rest with
  | nil => simp [words, cutAtBlanks, hkept]
  | cons c rest => simp [words, cutAtBlanks, h.ends c rfl, hkept]

theorem isGap_or_beginsWith (t : Text) : IsGap t ∨ ∃ word rest, BeginsWith t word rest := by
  obtain ⟨ht, hgap, hfirst⟩ := span_spec isBlank t
  generalize t.takeWhile isBlank = gap at ht hgap
  generalize t.dropWhile isBlank = body at ht hfirst
  cases body with
  | nil =>
      rw [List.append_nil] at ht
      exact .inl (ht ▸ hgap)
  | cons c body =>
      obtain ⟨hbody, hword, hnext⟩ := span_spec (fun d => !isBlank d) (c :: body)
      refine .inr ⟨_, _, ⟨gap, ?_, hgap⟩, ⟨?_, by simpa using hword⟩, by simpa using hnext⟩
      · rw [List.append_assoc, ← hbody, ht]
      · simp [hfirst c rfl]

theorem words_eq_nil_iff {t : Text} : words t = [] ↔ IsGap t := by
  constructor
  · intro h
    rcases isGap_or_beginsWith t with hgap | ⟨word, rest, hbegins⟩
    · exact hgap
    · rw [hbegins.words_eq] at h
      cases h
  · exact words_of_isGap

theorem words_eq_cons_iff {t word : Text} {more : List Text} :
    words t = word :: more ↔ ∃ rest, BeginsWith t word rest ∧ words rest = more := by
  constructor
  · intro h
    rcases isGap_or_beginsWith t with hgap | ⟨first, rest, hbegins⟩
    · rw [words_of_isGap hgap] at h
      cases h
    · rw [hbegins.words_eq] at h
      cases h
      exact ⟨rest, hbegins, rfl⟩
  · rintro ⟨rest, hbegins, rfl⟩
    exact hbegins.words_eq

/-- A gap begins with a blank, so a text that does not begins with its first word. -/
theorem BeginsWith.eq_append {t word rest : Text} (h : BeginsWith t word rest)
    (hstart : ∀ c, t.head? = some c → isBlank c = false) : t = word ++ rest := by
  obtain ⟨gap, rfl, hgap⟩ := h.cut
  cases gap with
  | nil => rfl
  | cons c gap =>
      have hblank := hgap c List.mem_cons_self
      rw [hstart c rfl] at hblank
      cases hblank

theorem beginsWith_append {word gap : Text} (hword : IsWord word) (hgap : IsGap gap)
    (rest : Text) (hrest : gap ≠ [] ∨ rest = []) :
    BeginsWith (word ++ gap ++ rest) word (gap ++ rest) := by
  refine ⟨⟨[], by simp, isGap_nil⟩, hword, ?_⟩
  intro c hc
  cases gap with
  | nil =>
      rcases hrest with hne | rfl
      · exact absurd rfl hne
      · cases hc
  | cons d gap =>
      cases hc
      exact hgap c List.mem_cons_self

section Trimmed

variable {t : Text} (hstart : ∀ c, t.head? = some c → isBlank c = false)

include hstart

theorem words_eq_singleton_iff {word : Text} :
    words t = [word] ↔ IsWord word ∧ ∃ gap, t = word ++ gap ∧ IsGap gap := by
  rw [words_eq_cons_iff]
  constructor
  · rintro ⟨rest, hbegins, hrest⟩
    exact ⟨hbegins.word, rest, hbegins.eq_append hstart, words_eq_nil_iff.mp hrest⟩
  · rintro ⟨hword, gap, rfl, hgap⟩
    have hbegins := beginsWith_append hword hgap [] (.inr rfl)
    rw [List.append_nil, List.append_nil] at hbegins
    exact ⟨gap, hbegins, words_of_isGap hgap⟩

theorem words_eq_pair_iff {first second : Text} :
    words t = [first, second] ↔
      IsWord first ∧ IsWord second ∧
        ∃ gap gap', t = first ++ gap ++ second ++ gap' ∧ gap ≠ [] ∧ IsGap gap ∧ IsGap gap' := by
  rw [words_eq_cons_iff]
  constructor
  · rintro ⟨rest, hbegins, hrest⟩
    obtain ⟨last, hsecond, hlast⟩ := words_eq_cons_iff.mp hrest
    obtain ⟨gap, hcut, hgap⟩ := hsecond.cut
    refine ⟨hbegins.word, hsecond.word, gap, last, ?_, ?_, hgap, words_eq_nil_iff.mp hlast⟩
    · rw [hbegins.eq_append hstart, hcut]
      simp
    · -- without a gap the first word would go on
      rintro rfl
      obtain ⟨c, more, hc⟩ := List.exists_cons_of_ne_nil hsecond.word.nonempty
      have hblank := hbegins.ends c (by rw [hcut, hc]; rfl)
      rw [hsecond.word.solid c (hc ▸ List.mem_cons_self)] at hblank
      cases hblank
  · rintro ⟨hfirst, hsecond, gap, gap', rfl, hne, hgap, hgap'⟩
    refine ⟨gap ++ (second ++ gap'), ?_, ?_⟩
    · rw [List.append_assoc (first ++ gap)]
      exact beginsWith_append hfirst hgap _ (.inl hne)
    · have hbegins := beginsWith_append hsecond hgap' [] (.inr rfl)
      rw [List.append_nil, List.append_nil] at hbegins
      rw [words_gap_append hgap, hbegins.words_eq, words_of_isGap hgap']

end Trimmed

end Words

end Text

end Breadboard
