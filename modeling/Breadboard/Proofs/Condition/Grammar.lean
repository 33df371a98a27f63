import Breadboard.Proofs.Statement.Grammar
import Breadboard.State

/-!
How a condition is written: a name, a comparison and a literal, with blanks between them or none,
in any number of parentheses. The reader goes about it from the outside. It takes off blanks and
parentheses as long as there are any, cuts at the first character that can begin a comparison and
looks at the two sides last. Where it cuts is settled by the name, which holds no such character,
so a literal may hold as many of them as it likes.
-/

namespace Breadboard

namespace Text

theorem isTrimmed_of_isWord {t : Text} (h : IsWord t) : IsTrimmed t :=
  ⟨fun c hc => h.solid c (List.mem_of_head? hc), fun c hc => h.solid c (List.mem_of_getLast? hc)⟩

end Text

namespace Condition

open Text

/-- The characters that part a name from what is around it. -/
def marks : List Char := ['(', ')', '=', '!', '<', '>']

private theorem not_mem_marks_of_all {p : Char → Bool} (hall : marks.all (fun c => !p c) = true)
    {c : Char} (h : p c = true) : c ∉ marks := by
  intro hmark
  have hc := List.all_eq_true.mp hall c hmark
  rw [h] at hc
  cases hc

theorem not_mem_marks_of_isNameChar {c : Char} (h : isNameChar c = true) : c ∉ marks :=
  not_mem_marks_of_all (by decide) h

theorem not_mem_marks_of_isBlank {c : Char} (h : isBlank c = true) : c ∉ marks :=
  not_mem_marks_of_all (by decide) h

theorem mem_marks_iff {c : Char} :
    c ∈ marks ↔ c = '(' ∨ c = ')' ∨ isComparisonStart c = true := by
  simp [marks, isComparisonStart, or_assoc]

end Condition

namespace Comparison

theorem isComparisonStart_symbol (c : Comparison) (rest : Text) :
    ∀ d, (c.symbol.toList ++ rest).head? = some d → Condition.isComparisonStart d = true := by
  cases c <;> rintro d ⟨⟩ <;> rfl

/-- Only `>` and `<` begin a longer symbol. -/
theorem take?_eq_some_iff {t rest : Text} {c : Comparison} :
    take? t = some (c, rest) ↔
      t = c.symbol.toList ++ rest ∧ (c = .greater ∨ c = .less → ∀ more, rest ≠ '=' :: more) := by
  constructor
  · intro h
    unfold take? at h
    split at h <;> cases h
    case h_5 rest hlonger | h_6 rest hlonger =>
      exact ⟨rfl, fun _ more hmore => hlonger more (by rw [hmore])⟩
    all_goals exact ⟨rfl, by simp⟩
  · rintro ⟨rfl, hlonger⟩
    cases c with
    | greater =>
        change take? ('>' :: rest) = _
        rw [take?]
        exact hlonger (.inl rfl)
    | less =>
        change take? ('<' :: rest) = _
        rw [take?]
        exact hlonger (.inr rfl)
    | _ => rfl

end Comparison

namespace Condition

open Text

/-- A name and a literal, whatever the comparison. -/
structure IsProper (c : Condition) : Prop where
  name : c.name.isName = true
  literal : isLiteral c.literal = true

/-- The condition with these blanks around its comparison. -/
def written (c : Condition) (gap gap' : Text) : Text :=
  c.name ++ gap ++ c.comparison.symbol.toList ++ gap' ++ c.literal

/-- `outer` is `inner` in so many pairs of parentheses, with blanks around `inner` and each pair. -/
inductive Wrapped (inner : Text) : Nat → Text → Prop where
  | blanks {gap gap' : Text} (hgap : IsGap gap) (hgap' : IsGap gap') :
      Wrapped inner 0 (gap ++ inner ++ gap')
  | pair {pairs : Nat} {outer gap gap' : Text} (h : Wrapped inner pairs outer) (hgap : IsGap gap)
      (hgap' : IsGap gap') : Wrapped inner (pairs + 1) (gap ++ '(' :: outer ++ ')' :: gap')

theorem Wrapped.length_le {inner outer : Text} {pairs : Nat} (h : Wrapped inner pairs outer) :
    inner.length ≤ outer.length := by
  induction h with
  | blanks hgap hgap' =>
      simp only [List.length_append]
      omega
  | pair _ hgap hgap' ih =>
      simp only [List.length_append, List.length_cons]
      omega

section Literal

variable {t : Text}

/-- A literal without quotes around it holds neither blanks nor the characters that part it from the
rest. -/
theorem isLiteral_cases (h : isLiteral t = true) :
    (∃ inner, t = '"' :: inner ++ ['"']) ∨
      t ≠ [] ∧ ∀ c ∈ t, isBlank c = false ∧ c ∉ marks := by
  unfold isLiteral at h
  split at h
  · next inner hquoted =>
    obtain ⟨rest, hrest, hinner⟩ := Option.bind_eq_some_iff.mp hquoted
    rw [dropStart?_eq_some_iff] at hrest
    rw [dropEnd?_eq_some_iff] at hinner
    exact .inl ⟨inner, by rw [hrest, hinner]; rfl⟩
  · simp only [Bool.and_eq_true, Bool.not_eq_true', List.isEmpty_eq_false_iff, List.all_eq_true,
      Bool.or_eq_false_iff, beq_eq_false_iff_ne] at h
    obtain ⟨hne, hall⟩ := h
    refine .inr ⟨hne, fun c hc => ?_⟩
    obtain ⟨⟨⟨⟨⟨hblank, hstart⟩, _⟩, _⟩, hopen⟩, hclose⟩ := hall c hc
    exact ⟨hblank, by simp [mem_marks_iff, hstart, hopen, hclose]⟩

theorem ne_nil_of_isLiteral (h : isLiteral t = true) : t ≠ [] := by
  rcases isLiteral_cases h with ⟨inner, rfl⟩ | ⟨hne, _⟩
  · simp
  · exact hne

theorem isTrimmed_of_isLiteral (h : isLiteral t = true) : IsTrimmed t := by
  rcases isLiteral_cases h with ⟨inner, rfl⟩ | ⟨hne, hplain⟩
  · exact isTrimmed_between rfl rfl inner
  · exact isTrimmed_of_isWord ⟨hne, fun c hc => (hplain c hc).1⟩

theorem ne_equals_of_isLiteral (h : isLiteral t = true) (more : Text) : t ≠ '=' :: more := by
  rintro rfl
  rcases isLiteral_cases h with ⟨inner, hquoted⟩ | ⟨_, hplain⟩
  · cases hquoted
  · exact (hplain '=' List.mem_cons_self).2 (by decide)

end Literal

section Written

variable {c : Condition} {gap gap' : Text}

theorem IsProper.isTrimmed_written (h : c.IsProper) : IsTrimmed (c.written gap gap') := by
  have hname := isWord_of_isName h.name
  have hliteral := ne_nil_of_isLiteral h.literal
  have hcut : c.written gap gap' =
      c.name ++ (gap ++ c.comparison.symbol.toList ++ gap') ++ c.literal := by
    simp [written]
  constructor
  · intro d hd
    rw [hcut, List.append_assoc, List.head?_append_of_ne_nil _ hname.nonempty] at hd
    exact (isTrimmed_of_isWord hname).start d hd
  · intro d hd
    rw [hcut, List.getLast?_append_of_ne_nil _ hliteral] at hd
    exact (isTrimmed_of_isLiteral h.literal).stop d hd

theorem IsProper.head?_written (h : c.IsProper) (gap gap' : Text) :
    (c.written gap gap').head? ≠ some '(' := by
  have hname := isWord_of_isName h.name
  intro hopening
  simp only [written, List.append_assoc] at hopening
  rw [List.head?_append_of_ne_nil _ hname.nonempty] at hopening
  have hchar := isNameChar_of_isName h.name _ (List.mem_of_head? hopening)
  exact not_mem_marks_of_isNameChar hchar (by decide)

theorem IsProper.span_written (h : c.IsProper) (hgap : IsGap gap) (gap' : Text) :
    (c.written gap gap').takeWhile (fun d => !isComparisonStart d) = c.name ++ gap ∧
      (c.written gap gap').dropWhile (fun d => !isComparisonStart d) =
        c.comparison.symbol.toList ++ (gap' ++ c.literal) := by
  refine span_eq_iff.mpr ⟨by simp [written], ?_, ?_⟩
  · intro d hd
    rw [Bool.not_eq_true', Bool.eq_false_iff]
    intro hstart
    have hmark := mem_marks_iff.mpr (.inr (.inr hstart))
    rcases List.mem_append.mp hd with hname | hblank
    · exact not_mem_marks_of_isNameChar (isNameChar_of_isName h.name d hname) hmark
    · exact not_mem_marks_of_isBlank (hgap d hblank) hmark
  · intro d hd
    rw [c.comparison.isComparisonStart_symbol _ d hd]
    rfl

/-- The literal does not make the comparison longer. -/
theorem IsProper.ne_equals (h : c.IsProper) (hgap' : IsGap gap') (more : Text) :
    gap' ++ c.literal ≠ '=' :: more := by
  cases gap' with
  | nil => exact ne_equals_of_isLiteral h.literal more
  | cons d rest =>
      rintro ⟨⟩
      cases hgap' '=' List.mem_cons_self

end Written

section Bare

theorem inside?_eq_some_iff {t inner : Text} :
    inside? t = some inner ↔ t = '(' :: inner ++ [')'] ∧ isBalanced 0 inner = true := by
  simp only [inside?, Option.bind_eq_bind, Option.bind_eq_some_iff, dropStart?_eq_some_iff,
    dropEnd?_eq_some_iff, Option.guard_eq_some', Option.pure_def, Option.some.injEq]
  constructor
  · rintro ⟨rest, rfl, inner, rfl, _, hbalanced, rfl⟩
    exact ⟨rfl, hbalanced⟩
  · rintro ⟨rfl, hbalanced⟩
    exact ⟨_, rfl, inner, rfl, (), hbalanced, rfl⟩

theorem bare_of_inside? {t inner : Text} (h : inside? t.trim = some inner) :
    bare t = bare inner := by
  rw [bare]
  split
  · next other hother =>
    cases hother.symm.trans h
    rfl
  · next hnone =>
    cases hnone.symm.trans h

theorem bare_of_not_inside? {t : Text} (h : inside? t.trim = none) : bare t = t.trim := by
  rw [bare]
  split
  · next inner hinner =>
    cases hinner.symm.trans h
  · rfl

theorem isTrimmed_bare (t : Text) : IsTrimmed (bare t) := by
  fun_induction bare t with
  | case1 t inner h ih => exact ih
  | case2 t h => exact isTrimmed_trim t

/-- Nothing but blanks and pairs of parentheses is taken off. -/
theorem wrapped_bare (t : Text) : ∃ pairs, Wrapped (bare t) pairs t := by
  fun_induction bare t with
  | case1 t inner h ih =>
      obtain ⟨pairs, hinner⟩ := ih
      obtain ⟨hpair, _⟩ := inside?_eq_some_iff.mp h
      obtain ⟨⟨gap, gap', ht, hgap, hgap'⟩, _⟩ := trim_eq_iff.mp hpair
      refine ⟨pairs + 1, ?_⟩
      have houter : t = gap ++ '(' :: inner ++ ')' :: gap' := by simpa using ht
      rw [houter]
      exact .pair hinner hgap hgap'
  | case2 t h =>
      obtain ⟨⟨gap, gap', ht, hgap, hgap'⟩, _⟩ := trim_eq_iff.mp (rfl : t.trim = t.trim)
      refine ⟨0, ?_⟩
      nth_rewrite 2 [ht]
      exact .blanks hgap hgap'

/-- A text that is written without parentheses around it loses its blanks only. -/
theorem IsProper.bare_eq {c : Condition} (h : c.IsProper) {t gap gap' : Text}
    (ht : t.trim = c.written gap gap') : bare t = c.written gap gap' := by
  rw [← ht]
  apply bare_of_not_inside?
  rw [Option.eq_none_iff_forall_ne_some]
  intro inner hinner
  obtain ⟨hpair, _⟩ := inside?_eq_some_iff.mp hinner
  apply h.head?_written gap gap'
  rw [← ht, hpair]
  rfl

end Bare

/-- What is left without blanks and parentheses around it is cut in one place only. -/
theorem parse?_eq_some_iff_bare {t : Text} {c : Condition} :
    parse? t = some c ↔
      c.IsProper ∧ ∃ gap gap', bare t = c.written gap gap' ∧ IsGap gap ∧ IsGap gap' := by
  simp only [parse?, Option.bind_eq_bind, Option.bind_eq_some_iff, Option.guard_eq_some',
    Bool.and_eq_true, Option.pure_def, Option.some.injEq]
  constructor
  · rintro ⟨⟨comparison, right⟩, htake, _, ⟨hname, hliteral⟩, rfl⟩
    obtain ⟨hcut, _⟩ := span_spec (fun c => !isComparisonStart c) (bare t)
    obtain ⟨hback, _⟩ := Comparison.take?_eq_some_iff.mp htake
    rw [hback] at hcut
    generalize (bare t).takeWhile (fun c => !isComparisonStart c) = left at hname hcut
    have hproper : IsProper ⟨trim left, comparison, right.trim⟩ := ⟨hname, hliteral⟩
    obtain ⟨⟨outer, gap, hleft, houter, hgap⟩, _⟩ := trim_eq_iff.mp (rfl : trim left = _)
    obtain ⟨⟨gap', outer', hright, hgap', houter'⟩, _⟩ := trim_eq_iff.mp (rfl : right.trim = _)
    refine ⟨hproper, gap, gap', ?_, hgap, hgap'⟩
    -- blanks outside the two sides would be blanks at the ends of a text that has none
    rw [← (isTrimmed_bare t).trim_eq]
    refine trim_eq_iff.mpr ⟨⟨outer, outer', ?_, houter, houter'⟩, hproper.isTrimmed_written⟩
    calc bare t = left ++ (comparison.symbol.toList ++ right) := hcut
      _ = (outer ++ trim left ++ gap) ++
          (comparison.symbol.toList ++ (gap' ++ right.trim ++ outer')) := by
        rw [← hleft, ← hright]
      _ = _ := by simp [written]
  · rintro ⟨hproper, gap, gap', hbare, hgap, hgap'⟩
    obtain ⟨hfront, hback⟩ := hproper.span_written hgap gap'
    rw [hbare, hfront, hback]
    have hleft : trim (c.name ++ gap) = c.name := trim_eq_iff.mpr
      ⟨⟨[], gap, rfl, isGap_nil, hgap⟩, isTrimmed_of_isWord (isWord_of_isName hproper.name)⟩
    have hright : trim (gap' ++ c.literal) = c.literal := trim_eq_iff.mpr
      ⟨⟨gap', [], by simp, hgap', isGap_nil⟩, isTrimmed_of_isLiteral hproper.literal⟩
    refine ⟨(c.comparison, gap' ++ c.literal),
      Comparison.take?_eq_some_iff.mpr ⟨rfl, fun _ => hproper.ne_equals hgap'⟩, (), ?_, ?_⟩
    · rw [hleft, hright]
      exact ⟨hproper.name, hproper.literal⟩
    · rw [hleft, hright]

/-- A condition that cannot be read is the only reason for this fault. -/
theorem evaluate_eq_invalidCondition_iff {t : Text} {s : State} :
    s.evaluate t = .error .invalidCondition ↔ parse? t = none := by
  cases hread : parse? t with
  | none => simp [State.evaluate, hread]
  | some c =>
      cases hvalue : s.bindings.get? c.name with
      | none => simp [State.evaluate, hread, hvalue]
      | some v => simp [State.evaluate, hread, hvalue]

theorem IsProper.parse?_written {c : Condition} (h : c.IsProper) {outer gap gap' outer' : Text}
    (houter : IsGap outer) (hgap : IsGap gap) (hgap' : IsGap gap') (houter' : IsGap outer') :
    parse? (outer ++ c.written gap gap' ++ outer') = some c := by
  have htrim : trim (outer ++ c.written gap gap' ++ outer') = c.written gap gap' :=
    trim_eq_iff.mpr ⟨⟨outer, outer', rfl, houter, houter'⟩, h.isTrimmed_written⟩
  exact parse?_eq_some_iff_bare.mpr ⟨h, gap, gap', h.bare_eq htrim, hgap, hgap'⟩

theorem wrapped_of_parse? {t : Text} {c : Condition} (h : parse? t = some c) :
    c.IsProper ∧
      ∃ pairs gap gap', Wrapped (c.written gap gap') pairs t ∧ IsGap gap ∧ IsGap gap' := by
  obtain ⟨hproper, gap, gap', hbare, hgap, hgap'⟩ := parse?_eq_some_iff_bare.mp h
  obtain ⟨pairs, hwrapped⟩ := wrapped_bare t
  rw [hbare] at hwrapped
  exact ⟨hproper, pairs, gap, gap', hwrapped, hgap, hgap'⟩

/-- Reading undoes writing, whatever the blanks. Whatever is read was written so, in some number of
parentheses; any other text is not read, and a text that is not read is an invalid condition. -/
theorem parse?_exact :
    (∀ (c : Condition) (outer gap gap' outer' : Text), c.IsProper →
      IsGap outer → IsGap gap → IsGap gap' → IsGap outer' →
      parse? (outer ++ c.written gap gap' ++ outer') = some c) ∧
    (∀ (t : Text) (c : Condition), parse? t = some c →
      c.IsProper ∧
        ∃ pairs gap gap', Wrapped (c.written gap gap') pairs t ∧ IsGap gap ∧ IsGap gap') ∧
    (∀ t : Text,
      (¬∃ (c : Condition) (pairs : Nat) (gap gap' : Text), c.IsProper ∧
        Wrapped (c.written gap gap') pairs t ∧ IsGap gap ∧ IsGap gap') →
      parse? t = none) ∧
    ∀ (t : Text) (s : State), s.evaluate t = .error .invalidCondition ↔ parse? t = none := by
  refine ⟨?_, fun t c => wrapped_of_parse?, ?_, fun t s => evaluate_eq_invalidCondition_iff⟩
  · intro c outer gap gap' outer' hproper houter hgap hgap' houter'
    exact hproper.parse?_written houter hgap hgap' houter'
  · intro t hother
    rw [Option.eq_none_iff_forall_ne_some]
    intro c hread
    obtain ⟨hproper, pairs, gap, gap', hwritten⟩ := wrapped_of_parse? hread
    exact hother ⟨c, pairs, gap, gap', hproper, hwritten⟩

/-- A quoted literal with a comparison and a parenthesis in it, right behind the sign; a condition
in two pairs of parentheses; a text too short for a condition, and one that goes on behind it. -/
theorem parse?_exact_quotedComparison :
    parse? " nom ==\"a >= (b\" ".toList = some ⟨"nom".toList, .equal, "\"a >= (b\"".toList⟩ ∧
    (∃ pairs gap gap', Wrapped
      (written ⟨"température".toList, .greaterOrEqual, "20.5".toList⟩ gap gap') pairs
      " ((température>=20.5)) ".toList ∧ IsGap gap ∧ IsGap gap') ∧
    parse? [] = none ∧
    State.fresh.evaluate "x == 1 ou 2".toList = .error .invalidCondition := by
  obtain ⟨hwritten, hread, hother, hinvalid⟩ := parse?_exact
  refine ⟨?_, (hread _ _ (by decide +kernel)).2, hother [] ?_,
    (hinvalid _ _).mpr (by decide +kernel)⟩
  · exact hwritten ⟨"nom".toList, .equal, "\"a >= (b\"".toList⟩ [' '] [' '] [] [' ']
      ⟨by decide, by decide⟩ (by decide) (by decide) (by decide) (by decide)
  · rintro ⟨c, pairs, gap, gap', hproper, hwrapped, _⟩
    have hlength := hwrapped.length_le
    simp only [written, List.length_append, List.length_nil, Nat.le_zero, Nat.add_eq_zero_iff,
      List.length_eq_zero_iff] at hlength
    exact (isWord_of_isName hproper.name).nonempty hlength.1.1.1.1

end Condition

end Breadboard
