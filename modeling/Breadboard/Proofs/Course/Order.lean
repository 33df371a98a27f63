import Breadboard.Course.Document

/-!
The order of a course. Places are compared by level and then by exercise, which is the order of the
document. A course that was read has an exercise to begin with, and from any place that holds one
`advance` leads to the nearest place behind it that does, or finds that there is none.
-/

namespace Breadboard

/-- Earlier in the document. -/
def Progress.Before (p q : Progress) : Prop :=
  p.level < q.level ∨ (p.level = q.level ∧ p.exercise < q.exercise)

theorem Progress.Before.asymm {p q : Progress} (h : p.Before q) : ¬ q.Before p := by
  unfold Progress.Before at *
  omega

theorem Progress.eq_or_before {p q : Progress}
    (h : p.level < q.level ∨ (p.level = q.level ∧ p.exercise ≤ q.exercise)) :
    p = q ∨ p.Before q := by
  rcases h with hlevel | ⟨hlevel, hexercise⟩
  · exact .inr (.inl hlevel)
  · rcases Nat.eq_or_lt_of_le hexercise with heq | hlt
    · cases p
      cases q
      cases hlevel
      cases heq
      exact .inl rfl
    · exact .inr (.inr ⟨hlevel, hlt⟩)

namespace Course

def Holds (c : Course) (p : Progress) : Prop :=
  ∃ exercise, c.exercise? p = some exercise

/-- `q` is the next place after `p` that holds an exercise. -/
structure Follows (c : Course) (p q : Progress) : Prop where
  holds : c.Holds q
  before : p.Before q
  nearest : ∀ r, c.Holds r → p.Before r → q = r ∨ q.Before r

/-- What reading a course makes sure of. -/
structure IsChecked (c : Course) : Prop where
  levels : c.levels ≠ []
  exercises : ∀ level ∈ c.levels, level.exercises ≠ []

variable {c : Course} {p q r : Progress}

theorem isChecked_of_checked {c' : Course} (h : c.checked = .ok c') : c'.IsChecked := by
  unfold checked at h
  split at h
  · cases h
  · next hlevels =>
    split at h
    · cases h
    · next hnone =>
      cases h
      refine ⟨by simpa using hlevels, ?_⟩
      intro level hlevel
      simpa using List.find?_eq_none.mp hnone level hlevel

theorem isChecked_of_parse {document : Text} (h : parse document = .ok c) : c.IsChecked := by
  unfold parse at h
  split at h
  · cases h
  · exact isChecked_of_checked h

theorem parse_eq_ok {document : Text} (h : (parse document).toOption = some c) :
    parse document = .ok c := by
  cases hresult : parse document with
  | error reason =>
      rw [hresult] at h
      cases h
  | ok read =>
      rw [hresult] at h
      rw [Option.some.inj h]

theorem holds_iff : c.Holds p ↔ p.exercise < c.levelSize p := by
  unfold Holds exercise? levelSize
  cases c.level? p with
  | none => simp
  | some level => simp [← Option.isSome_iff_exists]

theorem levelSize_eq (h : p.level = q.level) : c.levelSize p = c.levelSize q := by
  rw [levelSize, levelSize, level?, level?, h]

theorem IsChecked.holds_first (h : c.IsChecked) {level : Nat} (hlevel : level < c.levels.length) :
    c.Holds ⟨level, 0⟩ := by
  have hexercises := h.exercises _ (List.getElem_mem hlevel)
  rw [holds_iff, levelSize, level?, List.getElem?_eq_getElem hlevel]
  exact List.length_pos_iff.mpr hexercises

theorem IsChecked.holds_start (h : c.IsChecked) : c.Holds {} :=
  h.holds_first (List.length_pos_iff.mpr h.levels)

theorem level_lt_of_holds (h : c.Holds p) : p.level < c.levels.length := by
  obtain ⟨exercise, hexercise⟩ := h
  obtain ⟨level, hlevel, _⟩ := Option.bind_eq_some_iff.mp hexercise
  exact (List.getElem?_eq_some_iff.mp hlevel).1

theorem Follows.unique (h : c.Follows p q) (h' : c.Follows p r) : q = r := by
  rcases h.nearest r h'.holds h'.before with heq | hqr
  · exact heq
  · rcases h'.nearest q h.holds h.before with heq | hrq
    · exact heq.symm
    · exact absurd hrq hqr.asymm

/-- No place behind the last exercise of a level is in that level. -/
theorem level_lt_of_isLastExercise (hlast : p.isLastExercise c = true) (hq : c.Holds q)
    (hbefore : p.Before q) : p.level < q.level := by
  rcases hbefore with hlevel | ⟨hlevel, hexercise⟩
  · exact hlevel
  · have hsize : c.levelSize p ≤ p.exercise + 1 := of_decide_eq_true hlast
    have hholds := holds_iff.mp hq
    rw [← levelSize_eq hlevel] at hholds
    omega

/-- Moving on leads to the next exercise of the course, unless there is none. -/
theorem IsChecked.advance_spec (h : c.IsChecked) (p : Progress) :
    (p.advance c = (.complete, p) ∧ ∀ q, c.Holds q → ¬ p.Before q) ∨
      ((p.advance c).1 ≠ .complete ∧ c.Follows p (p.advance c).2) := by
  unfold Progress.advance
  split
  · next hlast =>
    have hlast : p.exercise + 1 < c.levelSize p := by
      simpa [Progress.isLastExercise] using hlast
    refine .inr ⟨by simp, holds_iff.mpr hlast, .inr ⟨rfl, Nat.lt_succ_self _⟩, ?_⟩
    intro r _ hbefore
    exact Progress.eq_or_before hbefore
  · next hlast =>
    have hlast : p.isLastExercise c = true := by simpa using hlast
    split
    · next hlevel =>
      refine .inr ⟨by simp, h.holds_first hlevel, .inl (Nat.lt_succ_self _), ?_⟩
      intro r hr hbefore
      have hbehind := level_lt_of_isLastExercise hlast hr hbefore
      refine Progress.eq_or_before ?_
      rcases Nat.eq_or_lt_of_le (Nat.succ_le_of_lt hbehind) with heq | hlt
      · exact .inr ⟨heq, Nat.zero_le _⟩
      · exact .inl hlt
    · next hlevel =>
      refine .inl ⟨rfl, ?_⟩
      intro q hq hbefore
      have hbehind := level_lt_of_isLastExercise hlast hq hbefore
      exact hlevel (Nat.lt_of_le_of_lt hbehind (level_lt_of_holds hq))

end Course

end Breadboard
