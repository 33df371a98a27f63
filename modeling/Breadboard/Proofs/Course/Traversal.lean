import Mathlib.Logic.Function.Iterate
import Breadboard.Proofs.Course.Order

/-!
The way through a course. A place in a course is a pair of indices, and nothing in the pair says
that they are in range: this rests on the checks made when the course was read. Counting the
exercises in front of a place turns the pair into one number, the index of its exercise in the
document. Moving on raises that number by one until it is the last, so the places come in the order
of the document and none is left out.
-/

namespace Breadboard

theorem Progress.before_or_eq_or_before (p q : Progress) : p.Before q ∨ p = q ∨ q.Before p := by
  by_cases h : p.level < q.level ∨ (p.level = q.level ∧ p.exercise ≤ q.exercise)
  · rcases Progress.eq_or_before h with heq | hbefore
    · exact .inr (.inl heq)
    · exact .inl hbefore
  · right
    right
    unfold Progress.Before
    omega

namespace Course

/-- All exercises, in the order of the document. -/
def exercises (c : Course) : List Exercise :=
  c.levels.flatMap (·.exercises)

/-- The place after moving on this many times from the start. -/
def place (c : Course) (calls : Nat) : Progress :=
  (fun p => (Progress.advance p c).2)^[calls] {}

/-- How many exercises come before the levels from this one on. -/
def offset (c : Course) (level : Nat) : Nat :=
  ((c.levels.take level).flatMap (·.exercises)).length

/-- How many exercises come before a place. -/
def index (c : Course) (p : Progress) : Nat :=
  c.offset p.level + p.exercise

variable {c : Course} {p q : Progress}

theorem offset_mono {first second : Nat} (h : first ≤ second) :
    c.offset first ≤ c.offset second := by
  have hstart : c.levels.take first <+: c.levels.take second := List.take_prefix_take_left h
  obtain ⟨between, hbetween⟩ := hstart
  simp only [offset, ← hbetween, List.flatMap_append, List.length_append]
  omega

theorem offset_length : c.offset c.levels.length = c.exercises.length := by
  rw [offset, List.take_length, exercises]

/-- The level behind the one of a place begins behind the exercises of that level. -/
theorem offset_succ_level (h : c.Holds p) :
    c.offset (p.level + 1) = c.offset p.level + c.levelSize p := by
  have hlevel := level_lt_of_holds h
  rw [offset, List.take_succ_eq_append_getElem hlevel, List.flatMap_append, List.length_append,
    offset]
  simp [levelSize, level?, hlevel]

/-- The index of a place is where its exercise stands in the document. -/
theorem getElem?_exercises_index (h : c.Holds p) : c.exercises[c.index p]? = c.exercise? p := by
  have hlevel := level_lt_of_holds h
  have hexercise := holds_iff.mp h
  have hsize : c.levelSize p = c.levels[p.level].exercises.length := by
    simp [levelSize, level?, hlevel]
  have hcut : c.exercises = (c.levels.take p.level).flatMap (·.exercises) ++
      (c.levels[p.level].exercises ++ (c.levels.drop (p.level + 1)).flatMap (·.exercises)) := by
    conv => lhs; rw [exercises, ← List.take_append_drop p.level c.levels]
    rw [List.flatMap_append, List.drop_eq_getElem_cons hlevel, List.flatMap_cons]
  calc c.exercises[c.index p]?
      = (c.levels[p.level].exercises ++
          (c.levels.drop (p.level + 1)).flatMap (·.exercises))[p.exercise]? := by
        rw [hcut, index, offset, List.getElem?_append_right (Nat.le_add_right _ _),
          Nat.add_sub_cancel_left]
    _ = c.levels[p.level].exercises[p.exercise]? := List.getElem?_append_left (by omega)
    _ = c.exercise? p := by simp [exercise?, level?, hlevel]

theorem index_lt_length (h : c.Holds p) : c.index p < c.exercises.length := by
  obtain ⟨exercise, hexercise⟩ := h
  have hindex := getElem?_exercises_index ⟨exercise, hexercise⟩
  rw [hexercise] at hindex
  exact (List.getElem?_eq_some_iff.mp hindex).1

theorem index_lt_of_before (hp : c.Holds p) (hbefore : p.Before q) : c.index p < c.index q := by
  unfold index
  rcases hbefore with hlevel | ⟨hlevel, hexercise⟩
  · have hsize := holds_iff.mp hp
    have hnext := offset_succ_level hp
    have hmono : c.offset (p.level + 1) ≤ c.offset q.level := offset_mono hlevel
    omega
  · rw [hlevel]
    omega

/-- Two places that hold an exercise are the same if as many exercises come before them. -/
theorem eq_of_index_eq (hp : c.Holds p) (hq : c.Holds q) (h : c.index p = c.index q) : p = q := by
  rcases p.before_or_eq_or_before q with hbefore | heq | hbehind
  · have hlt := index_lt_of_before hp hbefore
    omega
  · exact heq
  · have hlt := index_lt_of_before hq hbehind
    omega

/-- What moving on does to the index, and what it answers. -/
theorem advance_cases (h : c.Holds p) :
    (p.advance c = (.complete, p) ∧ c.index p + 1 = c.exercises.length) ∨
      (c.index (p.advance c).2 = c.index p + 1 ∧
        (p.advance c).1 = if (p.advance c).2.level = p.level then .exercise else .level) := by
  have hsize := holds_iff.mp h
  have hlevel := level_lt_of_holds h
  have hnext := offset_succ_level h
  unfold Progress.advance
  split
  · right
    constructor
    · simp only [index]
      omega
    · simp
  · next hlast =>
    have hlast : c.levelSize p ≤ p.exercise + 1 := by
      simpa [Progress.isLastExercise] using hlast
    split
    · right
      constructor
      · simp only [index]
        omega
      · simp
    · next hend =>
      left
      have hlastLevel : p.level + 1 = c.levels.length := by omega
      refine ⟨rfl, ?_⟩
      rw [← offset_length, ← hlastLevel, hnext, index]
      omega

theorem place_succ (c : Course) (calls : Nat) :
    c.place (calls + 1) = ((c.place calls).advance c).2 :=
  Function.iterate_succ_apply' ..

namespace IsChecked

variable (h : c.IsChecked)

include h

theorem holds_place (calls : Nat) : c.Holds (c.place calls) := by
  induction calls with
  | zero => exact h.holds_start
  | succ calls ih =>
      rw [place_succ]
      rcases h.advance_spec (c.place calls) with ⟨hcomplete, _⟩ | ⟨_, hfollows⟩
      · rw [hcomplete]
        exact ih
      · exact hfollows.holds

/-- Every call moves on by one exercise, as long as there is one. -/
theorem index_place (calls : Nat) (hcalls : calls < c.exercises.length) :
    c.index (c.place calls) = calls := by
  induction calls with
  | zero => rfl
  | succ calls ih =>
      have hbefore := ih (by omega)
      rw [place_succ]
      rcases advance_cases (h.holds_place calls) with ⟨_, hlast⟩ | ⟨hmoved, _⟩
      · omega
      · rw [hmoved, hbefore]

/-- The last place answers every further call, and keeps the learner where they are. -/
theorem place_of_length_le {calls : Nat} (hcalls : c.exercises.length ≤ calls + 1) :
    c.place calls = c.place (c.exercises.length - 1) ∧
      (c.place calls).advance c = (.complete, c.place calls) := by
  have hsome := index_lt_length h.holds_start
  obtain ⟨more, rfl⟩ : ∃ more, calls = c.exercises.length - 1 + more :=
    ⟨calls - (c.exercises.length - 1), by omega⟩
  induction more with
  | zero =>
      refine ⟨rfl, ?_⟩
      have hindex := h.index_place (c.exercises.length - 1) (by omega)
      rcases advance_cases (h.holds_place (c.exercises.length - 1)) with
        ⟨hcomplete, _⟩ | ⟨hmoved, _⟩
      · exact hcomplete
      · have hholds := h.holds_place (c.exercises.length - 1 + 1)
        rw [place_succ] at hholds
        have hlt := index_lt_length hholds
        omega
  | succ more ih =>
      obtain ⟨hsame, hcomplete⟩ := ih (by omega)
      rw [← Nat.add_assoc, place_succ, hcomplete]
      exact ⟨hsame, hcomplete⟩

theorem advance_place {calls : Nat} (hcalls : calls + 1 < c.exercises.length) :
    ((c.place calls).advance c).1 =
      if (c.place (calls + 1)).level = (c.place calls).level then .exercise else .level := by
  have hindex := h.index_place calls (by omega)
  rw [place_succ]
  rcases advance_cases (h.holds_place calls) with ⟨_, hlast⟩ | ⟨_, hanswer⟩
  · omega
  · exact hanswer

/-- Every place that holds an exercise is visited, once. -/
theorem existsUnique_place (hp : c.Holds p) :
    ∃! calls, calls < c.exercises.length ∧ c.place calls = p := by
  have hlt := index_lt_length hp
  refine ⟨c.index p, ⟨hlt, ?_⟩, ?_⟩
  · apply eq_of_index_eq (h.holds_place _) hp
    exact h.index_place _ hlt
  · rintro calls ⟨hcalls, rfl⟩
    exact (h.index_place calls hcalls).symm

end IsChecked

/-- The way through a course is complete and never leaves it. Moving on from the start visits the
exercises in the order of the document, each of them once, and says whether the level is another.
After the last one every answer is that the course is complete, and the place stays. -/
theorem traversal_complete {document : Text} (hparse : parse document = .ok c) :
    let total := c.exercises.length
    0 < total ∧
    (∀ calls, ∃ level exercise, c.level? (c.place calls) = some level ∧
      c.exercise? (c.place calls) = some exercise) ∧
    (∀ calls < total, c.exercise? (c.place calls) = c.exercises[calls]?) ∧
    (∀ p exercise, c.exercise? p = some exercise → ∃! calls, calls < total ∧ c.place calls = p) ∧
    (∀ calls, calls + 1 < total → ((c.place calls).advance c).1 =
      if (c.place (calls + 1)).level = (c.place calls).level then .exercise else .level) ∧
    (∀ calls, total ≤ calls + 1 → c.place calls = c.place (total - 1) ∧
      (c.place calls).advance c = (.complete, c.place calls)) ∧
    ∀ calls, 1 ≤ ((c.place calls).fraction c).1 ∧
      ((c.place calls).fraction c).1 ≤ ((c.place calls).fraction c).2 := by
  intro total
  have h := isChecked_of_parse hparse
  refine ⟨Nat.zero_lt_of_lt (index_lt_length h.holds_start), ?_, ?_, ?_,
    fun calls => h.advance_place, fun calls => h.place_of_length_le, ?_⟩
  · intro calls
    obtain ⟨exercise, hexercise⟩ := h.holds_place calls
    obtain ⟨level, hlevel, _⟩ := Option.bind_eq_some_iff.mp hexercise
    exact ⟨level, exercise, hlevel, hexercise⟩
  · intro calls hcalls
    rw [← getElem?_exercises_index (h.holds_place calls), h.index_place calls hcalls]
  · intro p exercise hexercise
    exact h.existsUnique_place ⟨exercise, hexercise⟩
  · intro calls
    constructor
    · exact Nat.succ_pos _
    · exact holds_iff.mp (h.holds_place calls)

/-- Two exercises in the first level and one in the second. -/
theorem traversal_complete_twoLevels :
    let challenge : Text :=
      "\"challenge\":\x7b\"title\":\"\",\"instructions\":[]\x7d".toList
    let document : Text :=
      "\x7b\"levels\":[\x7b\"number\":1,\"title\":\"\",\"subtitle\":\"\",\"exercises\":[".toList ++
      "\x7b\"number\":1,\"example_code\":\"\",".toList ++ challenge ++ "\x7d,".toList ++
      "\x7b\"number\":2,\"example_code\":\"\",".toList ++ challenge ++ "\x7d]\x7d,".toList ++
      "\x7b\"number\":2,\"title\":\"\",\"subtitle\":\"\",\"exercises\":[".toList ++
      "\x7b\"number\":3,\"example_code\":\"\",".toList ++ challenge ++ "\x7d]\x7d]\x7d".toList
    let exercise (number : Nat) : Exercise := ⟨number, [], ⟨[], []⟩, {}, none⟩
    let course : Course :=
      ⟨[⟨1, [], [], {}, [exercise 1, exercise 2]⟩, ⟨2, [], [], {}, [exercise 3]⟩]⟩
    parse document = .ok course ∧ course.exercises.length = 3 ∧
      [course.place 0, course.place 1, course.place 2] = [⟨0, 0⟩, ⟨0, 1⟩, ⟨1, 0⟩] ∧
      (∀ calls < 3, course.exercise? (course.place calls) = course.exercises[calls]?) ∧
      ∀ calls, 3 ≤ calls + 1 → course.place calls = course.place 2 ∧
        (course.place calls).advance course = (.complete, course.place calls) := by
  intro challenge document exercise course
  have hparse : parse document = .ok course := parse_eq_ok (by decide +kernel)
  obtain ⟨_, _, hdocument, _, _, hend, _⟩ := traversal_complete hparse
  exact ⟨hparse, rfl, rfl, hdocument, hend⟩

end Course

end Breadboard
