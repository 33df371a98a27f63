import Breadboard.Proofs.Condition.Grammar

/-!
Parentheses around a condition. A pair is taken off if the parentheses inside it match, and the
reader counts them without a look at the quotes. A parenthesis inside a quoted literal counts like
any other, so a literal of which the parentheses do not match keeps the pairs around the condition
from being taken off. Without such a literal every pair goes, however many there are.
-/

namespace Breadboard

namespace Condition

open Text

/-- Up to any place no more parentheses are closed than opened, and at the end as many. -/
structure IsMatched (t : Text) : Prop where
  never_below : ∀ front, front <+: t → front.count ')' ≤ front.count '('
  even : t.count '(' = t.count ')'

section Balance

theorem isBalanced_cons_of_ne {c : Char} (hopening : c ≠ '(') (hclosing : c ≠ ')') (depth : Nat)
    (rest : Text) : isBalanced depth (c :: rest) = isBalanced depth rest := by
  rw [isBalanced]
  · exact hopening
  · exact hclosing

private theorem forall_front_cons_iff {p : Text → Prop} {c : Char} {rest : Text} :
    (∀ front, front <+: c :: rest → p front) ↔ p [] ∧ ∀ front, front <+: rest → p (c :: front) := by
  simp only [List.prefix_cons_iff]
  constructor
  · intro h
    exact ⟨h [] (.inl rfl), fun front hfront => h (c :: front) (.inr ⟨front, rfl, hfront⟩)⟩
  · rintro ⟨hnil, hcons⟩ front (rfl | ⟨front, rfl, hfront⟩)
    · exact hnil
    · exact hcons front hfront

theorem isBalanced_iff {depth : Nat} {t : Text} :
    isBalanced depth t = true ↔
      (∀ front, front <+: t → front.count ')' ≤ depth + front.count '(') ∧
        depth + t.count '(' = t.count ')' := by
  fun_induction isBalanced depth t with
  | case1 depth => simp
  | case2 depth rest ih =>
      rw [ih, forall_front_cons_iff]
      simp [Nat.add_assoc, Nat.add_comm 1]
  | case3 rest =>
      simp only [Bool.false_eq_true, false_iff]
      rintro ⟨hbelow, _⟩
      have hfirst := hbelow [')'] (List.prefix_append [')'] rest)
      simp at hfirst
  | case4 rest depth ih =>
      rw [ih, forall_front_cons_iff]
      simp [Nat.add_right_comm _ 1]
  | case5 depth c rest hopening hclosing ih =>
      rw [ih, forall_front_cons_iff]
      simp [List.count_cons_of_ne hopening, List.count_cons_of_ne hclosing]

theorem isMatched_iff {t : Text} : IsMatched t ↔ isBalanced 0 t = true := by
  rw [isBalanced_iff]
  simp only [Nat.zero_add]
  exact ⟨fun h => ⟨h.never_below, h.even⟩, fun h => ⟨h.1, h.2⟩⟩

instance (t : Text) : Decidable (IsMatched t) := decidable_of_iff _ isMatched_iff.symm

/-- What is balanced leaves the count as it was. -/
theorem isBalanced_append {depth : Nat} {t : Text} (h : isBalanced depth t = true) (more : Nat)
    (rest : Text) : isBalanced (depth + more) (t ++ rest) = isBalanced more rest := by
  fun_induction isBalanced depth t with
  | case1 depth =>
      obtain rfl : depth = 0 := by simpa using h
      simp
  | case2 depth t ih =>
      rw [← ih h, Nat.add_right_comm]
      rfl
  | case3 t => cases h
  | case4 t depth ih =>
      rw [← ih h, Nat.succ_add]
      rfl
  | case5 depth c t hopening hclosing ih =>
      rw [← ih h]
      exact isBalanced_cons_of_ne hopening hclosing ..

def isParenthesis (c : Char) : Bool :=
  c == '(' || c == ')'

/-- Only the parentheses of a text count. -/
theorem isBalanced_filter (depth : Nat) (t : Text) :
    isBalanced depth (t.filter isParenthesis) = isBalanced depth t := by
  fun_induction isBalanced depth t with
  | case1 depth => rfl
  | case2 depth t ih => exact ih
  | case3 t => rfl
  | case4 t depth ih => exact ih
  | case5 depth c t hopening hclosing ih =>
      have hother : isParenthesis c = false := by
        simpa [isParenthesis] using ⟨hopening, hclosing⟩
      rw [List.filter_cons_of_neg (by simp [hother]), ih]

theorem filter_isParenthesis_eq_nil {t : Text} (h : ∀ c ∈ t, c ∉ marks) :
    t.filter isParenthesis = [] := by
  rw [List.filter_eq_nil_iff]
  intro c hc hparenthesis
  apply h c hc
  rcases Bool.or_eq_true_iff.mp hparenthesis with hopening | hclosing
  · exact mem_marks_iff.mpr (.inl (beq_iff_eq.mp hopening))
  · exact mem_marks_iff.mpr (.inr (.inl (beq_iff_eq.mp hclosing)))

theorem isBalanced_gaps {gap gap' : Text} (hgap : IsGap gap) (hgap' : IsGap gap') (depth : Nat)
    (t : Text) : isBalanced depth (gap ++ t ++ gap') = isBalanced depth t := by
  rw [← isBalanced_filter, ← isBalanced_filter depth t, List.filter_append, List.filter_append,
    filter_isParenthesis_eq_nil fun c hc => not_mem_marks_of_isBlank (hgap c hc),
    filter_isParenthesis_eq_nil fun c hc => not_mem_marks_of_isBlank (hgap' c hc),
    List.nil_append, List.append_nil]

/-- Of a condition only the literal can have parentheses. -/
theorem IsProper.isBalanced_written {c : Condition} (h : c.IsProper) {gap gap' : Text}
    (hgap : IsGap gap) (hgap' : IsGap gap') (depth : Nat) :
    isBalanced depth (c.written gap gap') = isBalanced depth c.literal := by
  have hname : c.name.filter isParenthesis = [] := filter_isParenthesis_eq_nil fun d hd =>
    not_mem_marks_of_isNameChar (isNameChar_of_isName h.name d hd)
  have hsymbol : c.comparison.symbol.toList.filter isParenthesis = [] := by
    cases c.comparison <;> rfl
  rw [← isBalanced_filter, ← isBalanced_filter depth c.literal]
  simp only [written, List.filter_append, hname, hsymbol,
    filter_isParenthesis_eq_nil fun c hc => not_mem_marks_of_isBlank (hgap c hc),
    filter_isParenthesis_eq_nil fun c hc => not_mem_marks_of_isBlank (hgap' c hc),
    List.nil_append]

theorem isBalanced_pair {t : Text} (h : isBalanced 0 t = true) {gap gap' : Text} (hgap : IsGap gap)
    (hgap' : IsGap gap') : isBalanced 0 (gap ++ ('(' :: t ++ [')']) ++ gap') = true := by
  rw [isBalanced_gaps hgap hgap']
  exact isBalanced_append h 1 [')']

end Balance

section Layers

variable {t gap gap' : Text}

theorem bare_of_trim_eq {other : Text} (h : t.trim = other.trim) : bare t = bare other := by
  cases hinside : inside? t.trim with
  | none => rw [bare_of_not_inside? hinside, bare_of_not_inside? (h ▸ hinside), h]
  | some inner => exact (bare_of_inside? hinside).trans (bare_of_inside? (h ▸ hinside)).symm

theorem trim_pair (hgap : IsGap gap) (hgap' : IsGap gap') (t : Text) :
    trim (gap ++ '(' :: t ++ ')' :: gap') = '(' :: t ++ [')'] := by
  have hpair : gap ++ '(' :: t ++ ')' :: gap' = gap ++ ('(' :: t ++ [')']) ++ gap' := by simp
  exact trim_eq_iff.mpr ⟨⟨gap, gap', hpair, hgap, hgap'⟩, isTrimmed_between rfl rfl t⟩

theorem parse?_of_bare_eq {other : Text} (h : bare t = bare other) : parse? t = parse? other := by
  simp only [parse?, h]

theorem parse?_pair (h : isBalanced 0 t = true) (hgap : IsGap gap) (hgap' : IsGap gap') :
    parse? (gap ++ '(' :: t ++ ')' :: gap') = parse? t := by
  apply parse?_of_bare_eq
  apply bare_of_inside?
  exact inside?_eq_some_iff.mpr ⟨trim_pair hgap hgap' t, h⟩

/-- What a pair cannot be taken off begins with a parenthesis, and no name does. -/
theorem parse?_pair_of_not_isBalanced (h : isBalanced 0 t = false) (hgap : IsGap gap)
    (hgap' : IsGap gap') : parse? (gap ++ '(' :: t ++ ')' :: gap') = none := by
  have hinside : inside? (trim (gap ++ '(' :: t ++ ')' :: gap')) = none := by
    rw [Option.eq_none_iff_forall_ne_some]
    intro inner hinner
    obtain ⟨hpair, hbalanced⟩ := inside?_eq_some_iff.mp hinner
    rw [trim_pair hgap hgap'] at hpair
    obtain rfl : t = inner := by simpa using hpair
    rw [h] at hbalanced
    cases hbalanced
  rw [Option.eq_none_iff_forall_ne_some]
  intro c hread
  obtain ⟨hproper, inside, inside', hbare, _⟩ := parse?_eq_some_iff_bare.mp hread
  rw [bare_of_not_inside? hinside, trim_pair hgap hgap'] at hbare
  apply hproper.head?_written inside inside'
  rw [← hbare]
  rfl

theorem parse?_gaps (hgap : IsGap gap) (hgap' : IsGap gap') (t : Text) :
    parse? (gap ++ t ++ gap') = parse? t :=
  parse?_of_bare_eq (bare_of_trim_eq (trim_gaps hgap hgap' t))

/-- A text is as balanced as the literal of its condition: what stands in parentheses is balanced,
or it would not have been read, and what does not has parentheses in its literal only. -/
theorem isBalanced_of_parse? {c : Condition} (h : parse? t = some c) :
    isBalanced 0 t = isBalanced 0 c.literal := by
  fun_induction bare t with
  | case1 t inner hinside ih =>
      obtain ⟨hpair, hbalanced⟩ := inside?_eq_some_iff.mp hinside
      obtain ⟨⟨gap, gap', ht, hgap, hgap'⟩, _⟩ := trim_eq_iff.mp hpair
      rw [parse?_of_bare_eq (bare_of_inside? hinside)] at h
      rw [← ih h, hbalanced, ht]
      exact isBalanced_pair hbalanced hgap hgap'
  | case2 t hinside =>
      obtain ⟨hproper, inside, inside', hbare, hgap, hgap'⟩ := parse?_eq_some_iff_bare.mp h
      rw [bare_of_not_inside? hinside] at hbare
      obtain ⟨⟨outer, outer', ht, houter, houter'⟩, _⟩ := trim_eq_iff.mp hbare
      rw [ht, isBalanced_gaps houter houter', hproper.isBalanced_written hgap hgap']

end Layers

section Wrapped

variable {t outer : Text} {pairs : Nat}

theorem Wrapped.isBalanced (h : Wrapped t pairs outer) (hbalanced : isBalanced 0 t = true) :
    Condition.isBalanced 0 outer = true := by
  induction h with
  | blanks hgap hgap' => rw [isBalanced_gaps hgap hgap', hbalanced]
  | pair _ hgap hgap' ih => simpa using isBalanced_pair ih hgap hgap'

theorem Wrapped.parse?_eq (h : Wrapped t pairs outer)
    (hbalanced : Condition.isBalanced 0 t = true) : parse? outer = parse? t := by
  induction h with
  | blanks hgap hgap' => exact parse?_gaps hgap hgap' t
  | pair hinner hgap hgap' ih => rw [parse?_pair (hinner.isBalanced hbalanced) hgap hgap', ih]

/-- A pair further out may be taken off, but never the innermost. -/
theorem Wrapped.parse?_eq_none (h : Wrapped t pairs outer) (hpairs : 0 < pairs)
    (hbalanced : Condition.isBalanced 0 t = false) : parse? outer = none := by
  induction h with
  | blanks hgap hgap' => cases hpairs
  | @pair pairs outer gap gap' hinner hgap hgap' ih =>
      by_cases houter : Condition.isBalanced 0 outer = true
      · rw [parse?_pair houter hgap hgap']
        cases hinner with
        | blanks hblank hblank' =>
            rw [isBalanced_gaps hblank hblank', hbalanced] at houter
            cases houter
        | pair _ _ _ => exact ih (Nat.succ_pos _)
      · exact parse?_pair_of_not_isBalanced (Bool.eq_false_iff.mpr houter) hgap hgap'

/-- Pairs of parentheses around a condition change nothing, unless the parentheses in its literal do
not match. Such a literal is in quotes, and a single pair around its condition makes it invalid. -/
theorem wrapped_parse?_exact {c : Condition} (hread : parse? t = some c)
    (hwrapped : Wrapped t pairs outer) :
    (pairs = 0 ∨ IsMatched c.literal → parse? outer = some c) ∧
    (0 < pairs → ¬IsMatched c.literal → parse? outer = none) ∧
    (¬IsMatched c.literal → ∃ inner, c.literal = '"' :: inner ++ ['"']) := by
  have hbalanced := isBalanced_of_parse? hread
  refine ⟨?_, ?_, ?_⟩
  · rintro (rfl | hmatched)
    · cases hwrapped with
      | blanks hgap hgap' => rw [parse?_gaps hgap hgap', hread]
    · rw [hwrapped.parse?_eq (hbalanced.trans (isMatched_iff.mp hmatched)), hread]
  · intro hpairs hmatched
    apply hwrapped.parse?_eq_none hpairs
    rw [hbalanced, Bool.eq_false_iff]
    exact fun h => hmatched (isMatched_iff.mpr h)
  · intro hmatched
    obtain ⟨hproper, _⟩ := parse?_eq_some_iff_bare.mp hread
    rcases isLiteral_cases hproper.literal with hquoted | ⟨_, hplain⟩
    · exact hquoted
    · exfalso
      apply hmatched
      rw [isMatched_iff, ← isBalanced_filter,
        filter_isParenthesis_eq_nil fun d hd => (hplain d hd).2]
      rfl

/-- Three pairs, with blanks around one of them, and a literal that holds both parentheses. -/
theorem wrapped_parse?_exact_matchedLiteral :
    parse? "x == \"f(1)\"".toList = some ⟨"x".toList, .equal, "\"f(1)\"".toList⟩ ∧
    parse? "(( (x == \"f(1)\") ))".toList = some ⟨"x".toList, .equal, "\"f(1)\"".toList⟩ := by
  have hread : parse? "x == \"f(1)\"".toList =
      some ⟨"x".toList, .equal, "\"f(1)\"".toList⟩ := by decide +kernel
  have hwrapped : Wrapped "x == \"f(1)\"".toList 3 "(( (x == \"f(1)\") ))".toList :=
    .pair (.pair (.pair (.blanks isGap_nil isGap_nil) (by decide : IsGap [' '])
      (by decide : IsGap [' '])) isGap_nil isGap_nil) isGap_nil isGap_nil
  exact ⟨hread, (wrapped_parse?_exact hread hwrapped).1 (.inr (by decide))⟩

/-- A closing parenthesis in quotes: the condition is read, and is not any more in parentheses. -/
theorem quoted_parenthesis_keeps_pair :
    parse? "x == \")\"".toList = some ⟨"x".toList, .equal, "\")\"".toList⟩ ∧
    Wrapped "x == \")\"".toList 1 "(x == \")\")".toList ∧
    parse? "(x == \")\")".toList = none :=
  ⟨by decide +kernel, .pair (.blanks isGap_nil isGap_nil) isGap_nil isGap_nil, by decide +kernel⟩

end Wrapped

end Condition

end Breadboard
