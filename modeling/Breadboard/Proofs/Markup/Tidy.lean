import Mathlib.Data.List.DropRight
import Breadboard.Markup

/-!
What is left of the lines of a text. `tidy` works in two passes: one from the top that leaves out an
empty line behind another, and behind nothing, and one from the bottom that takes away the empty
lines at the end. The outcome can be told for each line by itself. A line stays unless it is empty
and stands at the beginning, at the end, or right behind another empty one.
-/

namespace Breadboard.Markup

/-- An empty line with nothing written above it, or nothing below it, or an empty line before it. -/
def FallsAway (lines : List Text) (place : Nat) : Prop :=
  lines[place]? = some [] ∧
    ((∀ line ∈ lines.take place, line = []) ∨ (∀ line ∈ lines.drop (place + 1), line = []) ∨
      0 < place ∧ lines[place - 1]? = some [])

instance (lines : List Text) (place : Nat) : Decidable (FallsAway lines place) :=
  inferInstanceAs (Decidable (_ ∧ _))

/-- The lines without blanks at their ends, less those that fall away. -/
def cleanUp (t : Text) : Text :=
  let lines := t.lines.map Text.trimEnd
  Text.joinLines ((List.range lines.length).filterMap fun place =>
    if FallsAway lines place then none else lines[place]?)

/-- Both passes in one. `afterEmpty` tells of the line before. -/
def tidyLines (afterEmpty : Bool) : List Text → List Text
  | [] => []
  | line :: rest =>
      if line.isEmpty && (afterEmpty || rest.all (·.isEmpty)) then tidyLines true rest
      else line :: tidyLines line.isEmpty rest

section Passes

variable {afterEmpty : Bool} {lines : List Text}

/-- The pass from the top loses no written line. -/
theorem all_dropRepeatedEmpty :
    (dropRepeatedEmpty afterEmpty lines).all (·.isEmpty) = lines.all (·.isEmpty) := by
  induction lines generalizing afterEmpty with
  | nil => rfl
  | cons line rest ih =>
      rw [dropRepeatedEmpty, List.all_cons]
      split
      · next hempty =>
        obtain ⟨hline, _⟩ := Bool.and_eq_true_iff.mp hempty
        rw [ih, hline, Bool.true_and]
      · rw [List.all_cons, ih]

/-- Only when nothing is left behind it does a line at the front go with the end. -/
theorem rdropWhile_cons (line : Text) (rest : List Text) :
    (line :: rest).rdropWhile (·.isEmpty) =
      if line.isEmpty && rest.all (·.isEmpty) then []
      else line :: rest.rdropWhile (·.isEmpty) := by
  rw [List.rdropWhile, List.reverse_cons, List.dropWhile_append]
  by_cases hrest : rest.all (·.isEmpty) = true
  · have hnone : rest.rdropWhile (·.isEmpty) = [] := by
      apply List.rdropWhile_eq_nil_iff.mpr
      exact List.all_eq_true.mp hrest
    have hgone : rest.reverse.dropWhile (·.isEmpty) = [] := List.reverse_eq_nil_iff.mp hnone
    rw [hgone, hnone, hrest]
    cases line with
    | nil => rfl
    | cons c more => rfl
  · have hsome : rest.rdropWhile (·.isEmpty) ≠ [] := by
      intro hnone
      exact hrest (List.all_eq_true.mpr (List.rdropWhile_eq_nil_iff.mp hnone))
    have hkept : rest.reverse.dropWhile (·.isEmpty) ≠ [] :=
      fun hnone => hsome (List.reverse_eq_nil_iff.mpr hnone)
    simp [hrest, hkept, List.rdropWhile]

theorem rdropWhile_dropRepeatedEmpty :
    (dropRepeatedEmpty afterEmpty lines).rdropWhile (·.isEmpty) = tidyLines afterEmpty lines := by
  induction lines generalizing afterEmpty with
  | nil => rfl
  | cons line rest ih =>
      rw [dropRepeatedEmpty, tidyLines]
      cases line with
      | cons c more => simp [rdropWhile_cons, ih]
      | nil =>
          cases afterEmpty with
          | true => simp [ih]
          | false =>
              simp only [List.isEmpty_nil, Bool.and_false, Bool.false_eq_true, if_false,
                rdropWhile_cons, Bool.true_and, Bool.false_or, all_dropRepeatedEmpty, ih]
              split
              · next hrest =>
                rw [← ih, eq_comm]
                apply List.rdropWhile_eq_nil_iff.mpr
                apply List.all_eq_true.mp
                rw [all_dropRepeatedEmpty]
                exact hrest
              · rfl

end Passes

/-- Whether nothing or an empty line comes right before. -/
def isAfterEmpty (before : List Text) : Bool :=
  before.getLast?.all (·.isEmpty)

theorem isAfterEmpty_iff {before : List Text} :
    isAfterEmpty before = true ↔ before = [] ∨ before.getLast? = some [] := by
  unfold isAfterEmpty
  cases hlast : before.getLast? with
  | none => simp [List.getLast?_eq_none_iff.mp hlast]
  | some last =>
      have hsome : before ≠ [] := by
        intro hnil
        rw [hnil] at hlast
        cases hlast
      simp [hsome]

/-- For a line at its place, with what stands before it and behind it. -/
theorem fallsAway_iff {before rest : List Text} {line : Text} :
    FallsAway (before ++ line :: rest) before.length ↔
      (line.isEmpty && (isAfterEmpty before || rest.all (·.isEmpty))) = true := by
  have hhere : (before ++ line :: rest)[before.length]? = some line := by simp
  have habove : (before ++ line :: rest).take before.length = before := List.take_left
  have hbelow : (before ++ line :: rest).drop (before.length + 1) = rest := by simp
  have hlast : 0 < before.length →
      (before ++ line :: rest)[before.length - 1]? = before.getLast? := by
    intro hpositive
    rw [List.getElem?_append_left (by omega), List.getLast?_eq_getElem?]
  rw [FallsAway, hhere, habove, hbelow, Bool.and_eq_true, Bool.or_eq_true, Option.some.injEq,
    List.isEmpty_iff]
  apply and_congr_right
  intro _
  rw [isAfterEmpty_iff]
  constructor
  · intro h
    rcases h with hall | hrest | ⟨hpositive, hempty⟩
    · cases hbefore : before.getLast? with
      | none => exact .inl (.inl (List.getLast?_eq_none_iff.mp hbefore))
      | some last => exact .inl (.inr (by rw [hall last (List.mem_of_getLast? hbefore)]))
    · right
      simpa using hrest
    · left
      right
      rw [← hlast hpositive, hempty]
  · intro h
    rcases h with (hnil | hempty) | hrest
    · left
      simp [hnil]
    · right
      right
      have hpositive : 0 < before.length := by
        apply List.length_pos_of_mem
        exact List.mem_of_getLast? hempty
      exact ⟨hpositive, (hlast hpositive).trans hempty⟩
    · right
      left
      simpa using hrest

theorem filterMap_fallsAway (before rest : List Text) :
    ((List.range' before.length rest.length).filterMap fun place =>
      if FallsAway (before ++ rest) place then none else (before ++ rest)[place]?) =
      tidyLines (isAfterEmpty before) rest := by
  induction rest generalizing before with
  | nil => rfl
  | cons line rest ih =>
      have hgrown := ih (before ++ [line])
      have hline : isAfterEmpty (before ++ [line]) = line.isEmpty := by simp [isAfterEmpty]
      rw [List.append_assoc, List.singleton_append, List.length_append, List.length_singleton,
        hline] at hgrown
      have hhere : (before ++ line :: rest)[before.length]? = some line := by simp
      rw [List.length_cons, List.range'_succ, List.filterMap_cons, tidyLines, hhere, hgrown]
      by_cases hfalls : FallsAway (before ++ line :: rest) before.length
      · have hempty := fallsAway_iff.mp hfalls
        have hline : line.isEmpty = true := (Bool.and_eq_true_iff.mp hempty).1
        rw [if_pos hfalls, if_pos hempty, hline]
      · rw [if_neg hfalls, if_neg (mt fallsAway_iff.mpr hfalls)]

theorem tidy_eq_cleanUp (t : Text) : tidy t = cleanUp t := by
  have hlines := filterMap_fallsAway [] (t.lines.map Text.trimEnd)
  rw [List.nil_append, List.length_nil, ← List.range_eq_range'] at hlines
  have hpasses : tidy t = Text.joinLines ((dropRepeatedEmpty true
      (t.lines.map Text.trimEnd)).rdropWhile (·.isEmpty)) := rfl
  rw [hpasses, rdropWhile_dropRepeatedEmpty, cleanUp]
  exact congrArg Text.joinLines hlines.symm

end Breadboard.Markup
