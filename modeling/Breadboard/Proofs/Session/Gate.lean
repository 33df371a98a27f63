import Breadboard.Proofs.Course.Order
import Breadboard.Proofs.Walk.Silent
import Breadboard.Session

/-!
The gate between two exercises. `passed` is remembered from the last check, while the source, the
place in the course and the exercise can change behind its back. It stays true to them because every
key that changes one of them clears it. What an input can do to these fields is said once, in
`Gate.Change`; that the gate is sound follows from its cases.
-/

namespace Breadboard

/-- What happens to a session: a key, with what the learner's file would give if it were read now,
or a look at the clock. -/
inductive Input where
  | key (file : Except String Text) (key : Key)
  | tick (now : Nat)

/-- The key that moves on. -/
def Input.IsNext : Input → Prop
  | .key _ pressed => pressed = .char 'n' ∨ pressed = .char 'N'
  | .tick _ => False

/-- The part of a session that the gate depends on. -/
structure Gate where
  course : Course
  source : Text
  progress : Progress
  passed : Bool

namespace Session

def receive (s : Session) : Input → Session
  | .key file pressed => s.handle file pressed
  | .tick now => s.tick now

def receiveAll (s : Session) (inputs : List Input) : Session :=
  inputs.foldl receive s

def gate (s : Session) : Gate :=
  ⟨s.course, s.source, s.progress, s.passed⟩

/-- Nothing keeps the learner from moving on. -/
structure IsOpen (s : Session) : Prop where
  passed : s.passed = true
  popup : s.popupShown = false
  idle : s.runner.isBusy = false

end Session

/-- What an input can do to the gate. -/
inductive Gate.Change (s : Session) (input : Input) : Gate → Prop where
  | same (hnext : input.IsNext → s.IsOpen → (s.progress.advance s.course).1 = .complete) :
      Change s input s.gate
  | checked (hnext : ¬ input.IsNext) (exercise : Exercise)
      (hexercise : s.course.exercise? s.progress = some exercise) :
      Change s input
        { s.gate with
          passed := (exercise.expectation.grade s.source exercise.walkLoop).isPassed }
  | reloaded (hnext : ¬ input.IsNext) (source : Text) :
      Change s input { s.gate with source, passed := false }
  | advanced (hnext : input.IsNext) (hopen : s.IsOpen)
      (hadvance : (s.progress.advance s.course).1 ≠ .complete) :
      Change s input
        { s.gate with progress := (s.progress.advance s.course).2, passed := false }

namespace Session

variable (s : Session)

theorem gate_conclude (report : Report) : (s.conclude report).gate = s.gate := by
  unfold conclude
  split <;> rfl

theorem gate_tick (now : Nat) : (s.tick now).gate = s.gate := by
  unfold tick
  split
  · rfl
  · dsimp only
    split
    · rfl
    · split
      · exact gate_conclude _ _
      · rfl

theorem gate_runExample : s.runExample.gate = s.gate := by
  unfold runExample
  split <;> rfl

theorem gate_runStudent : s.runStudent.gate = s.gate := by
  unfold runStudent
  split <;> rfl

theorem gate_stop : s.stop.gate = s.gate := by
  unfold stop
  split <;> rfl

theorem gate_scroll (move : Scroll → Scroll) : (s.scroll move).gate = s.gate := by
  unfold scroll
  split <;> rfl

end Session

private theorem toLower_eq_n {c : Char} : c.toLower = 'n' ↔ c = 'n' ∨ c = 'N' := by
  refine ⟨?_, by rintro (rfl | rfl) <;> rfl⟩
  intro h
  unfold Char.toLower at h
  split at h
  · have hval : c.val + 32 = 110 := congrArg Char.val h
    have hupper : c.val = 110 - 32 := by rw [← hval, UInt32.add_sub_cancel]
    exact .inr (Char.ext hupper)
  · exact .inl h

namespace Gate

variable {s : Session} {input : Input}

/-- An input that does not ask to move on and leaves the gate alone. -/
private theorem Change.of_eq {g : Gate} (hnext : ¬ input.IsNext) (h : g = s.gate) :
    Change s input g := by
  rw [h]
  exact .same fun hnext' => absurd hnext' hnext

private theorem change_check (hnext : ¬ input.IsNext) : Change s input s.check.gate := by
  unfold Session.check
  split
  · exact .of_eq hnext rfl
  · next grade hgrade =>
    obtain ⟨exercise, hexercise, hrunner⟩ := Option.bind_eq_some_iff.mp hgrade
    have hgraded : exercise.expectation.grade s.source exercise.walkLoop = grade := by
      unfold Runner.grade at hrunner
      split at hrunner
      · cases hrunner
      · exact Option.some.inj hrunner
    have hchange := Change.checked hnext exercise hexercise
    rw [hgraded] at hchange
    exact hchange

private theorem change_reload (hnext : ¬ input.IsNext) (file : Except String Text) :
    Change s input (s.reload file).gate := by
  unfold Session.reload
  split
  · exact .of_eq hnext rfl
  · split
    · exact .of_eq hnext rfl
    · split
      · next source => exact .reloaded hnext source
      · exact .of_eq hnext rfl

private theorem change_nextExercise (hnext : input.IsNext) (hpopup : s.popupShown = false) :
    Change s input s.nextExercise.gate := by
  unfold Session.nextExercise
  split
  · next hpassed =>
    refine .same fun _ hopen => absurd hpassed ?_
    simp [hopen.passed]
  · next hpassed =>
    split
    · next hbusy =>
      refine .same fun _ hopen => absurd hbusy ?_
      simp [hopen.idle]
    · next hbusy =>
      have hopen : s.IsOpen := ⟨by simpa using hpassed, hpopup, by simpa using hbusy⟩
      split
      · next hcomplete => exact .same fun _ _ => congrArg Prod.fst hcomplete
      · next advance progress hadvance hresult =>
        have hchange := Change.advanced hnext hopen (by
          rw [hresult]
          exact hadvance)
        rw [hresult] at hchange
        exact hchange

/-- While the popup is shown no key gets as far as the gate. -/
private theorem gate_handle_of_popup (hpopup : s.popupShown = true) (file : Except String Text)
    (pressed : Key) : (s.handle file pressed).gate = s.gate := by
  unfold Session.handle
  rw [if_pos hpopup]
  split
  · rfl
  · rfl
  · split <;> rfl
  · rfl

private theorem change_char (hpopup : s.popupShown = false) (file : Except String Text) (c : Char) :
    Change s (.key file (.char c)) (s.press file (.char c)).gate := by
  have other {letter : Char} (hletter : c.toLower = letter) (hn : letter ≠ 'n') :
      ¬ (Input.key file (.char c)).IsNext := by
    intro hnext
    have hc : c = 'n' ∨ c = 'N' := by simpa [Input.IsNext] using hnext
    exact hn (hletter.symm.trans (toLower_eq_n.mpr hc))
  unfold Session.press
  dsimp only
  split
  · next h => exact .of_eq (other h (by decide)) rfl
  · next h => exact .of_eq (other h (by decide)) s.gate_runExample
  · next h => exact .of_eq (other h (by decide)) s.gate_runStudent
  · next h => exact .of_eq (other h (by decide)) s.gate_stop
  · next h => exact change_check (other h (by decide))
  · next h =>
    refine change_nextExercise ?_ hpopup
    simpa [Input.IsNext] using toLower_eq_n.mp h
  · next h => exact change_reload (other h (by decide)) file
  · next h => exact .of_eq (other h (by decide)) rfl
  · next hn _ _ => exact .of_eq (other rfl hn) rfl

/-- Every input does one of these things. -/
theorem change_receive (s : Session) (input : Input) : Change s input (s.receive input).gate := by
  cases input with
  | tick now => exact .of_eq id (s.gate_tick now)
  | key file pressed =>
      cases hpopup : s.popupShown with
      | true =>
          rw [Session.receive, gate_handle_of_popup hpopup]
          exact .same fun _ hopen => absurd (hopen.popup.symm.trans hpopup) (by decide)
      | false =>
          have hpress : s.receive (.key file pressed) = s.press file pressed := by
            unfold Session.receive Session.handle
            exact if_neg (by simp [hpopup])
          rw [hpress]
          cases pressed with
          | char c => exact change_char hpopup file c
          | up => exact .of_eq (by simp [Input.IsNext]) (s.gate_scroll _)
          | down => exact .of_eq (by simp [Input.IsNext]) (s.gate_scroll _)
          | _ => exact .of_eq (by simp [Input.IsNext]) rfl

end Gate

/-- The gate is sound: the place holds an exercise, and `passed` is only remembered of a program
that passes it. -/
structure Gate.IsSound (g : Gate) : Prop where
  place : g.course.Holds g.progress
  passed : g.passed = true → ∃ exercise, g.course.exercise? g.progress = some exercise ∧
    exercise.expectation.grade g.source exercise.walkLoop = .passed

theorem Grade.eq_passed {grade : Grade} (h : grade.isPassed = true) : grade = .passed := by
  cases grade with
  | passed => rfl
  | _ => cases h

namespace Gate

variable {s : Session} {input : Input} {g : Gate}

theorem Change.course_eq (h : Change s input g) : g.course = s.course := by
  cases h <;> rfl

theorem Change.isSound (hcourse : s.course.IsChecked) (hsound : s.gate.IsSound)
    (h : Change s input g) : g.IsSound := by
  cases h with
  | same => exact hsound
  | checked hnext exercise hexercise =>
      exact ⟨hsound.place, fun hpassed => ⟨exercise, hexercise, Grade.eq_passed hpassed⟩⟩
  | reloaded => exact ⟨hsound.place, nofun⟩
  | advanced hnext hopen hadvance =>
      refine ⟨?_, nofun⟩
      rcases hcourse.advance_spec s.progress with ⟨hcomplete, _⟩ | ⟨_, hfollows⟩
      · exact absurd (congrArg Prod.fst hcomplete) hadvance
      · exact hfollows.holds

end Gate

namespace Session

variable {course : Course}

theorem start_isSound (hcourse : course.IsChecked) (settings : Settings) (path : Option String)
    (source : Text) : (start settings course path source).gate.IsSound :=
  ⟨hcourse.holds_start, nofun⟩

/-- No sequence of inputs makes the gate unsound. -/
theorem receiveAll_isSound {s : Session} (hcourse : s.course.IsChecked) (hsound : s.gate.IsSound)
    (inputs : List Input) :
    (s.receiveAll inputs).course = s.course ∧ (s.receiveAll inputs).gate.IsSound := by
  induction inputs generalizing s with
  | nil => exact ⟨rfl, hsound⟩
  | cons input rest ih =>
      have hchange := Gate.change_receive s input
      have hsame : (s.receive input).course = s.course := hchange.course_eq
      obtain ⟨hrest, hgate⟩ := ih (hsame ▸ hcourse) (hchange.isSound hcourse hsound)
      exact ⟨hrest.trans hsame, hgate⟩

/-- The place changes exactly when the gate is open, the learner asks to move on and there is a next
exercise, which is then the new place. -/
theorem progress_receive_eq_iff {s : Session} (hcourse : s.course.IsChecked) (input : Input)
    {place : Progress} (hplace : place ≠ s.progress) :
    (s.receive input).progress = place ↔
      input.IsNext ∧ s.IsOpen ∧ s.course.Follows s.progress place := by
  have hchange := Gate.change_receive s input
  generalize hgate : (s.receive input).gate = g at hchange
  rw [show (s.receive input).progress = g.progress from congrArg Gate.progress hgate]
  cases hchange with
  | same hnext =>
      refine ⟨fun hmoved => absurd hmoved.symm hplace, ?_⟩
      rintro ⟨hn, hopen, hfollows⟩
      rcases hcourse.advance_spec s.progress with ⟨_, hnone⟩ | ⟨hadvance, _⟩
      · exact absurd hfollows.before (hnone place hfollows.holds)
      · exact absurd (hnext hn hopen) hadvance
  | checked hnext => exact ⟨fun h => absurd h.symm hplace, fun h => absurd h.1 hnext⟩
  | reloaded hnext => exact ⟨fun h => absurd h.symm hplace, fun h => absurd h.1 hnext⟩
  | advanced hnext hopen hadvance =>
      rcases hcourse.advance_spec s.progress with ⟨hcomplete, _⟩ | ⟨_, hfollows⟩
      · exact absurd (congrArg Prod.fst hcomplete) hadvance
      · refine ⟨?_, fun h => hfollows.unique h.2.2⟩
        rintro rfl
        exact ⟨hnext, hopen, hfollows⟩

/-- The gate between two exercises is sound. Take a course that was accepted, any settings, any
program to begin with, and any keys, looks at the clock and contents of the learner's file. Whenever
the current exercise counts as passed, the learner's program as it is now passes it. The place
always holds an exercise. It changes on the key `n` alone, when the exercise is passed, the popup
hidden and no run active, and then to the next exercise of the course. -/
theorem gate_sound {document : Text} (hparse : Course.parse document = .ok course)
    (settings : Settings) (path : Option String) (source : Text) (inputs : List Input) :
    let s := (start settings course path source).receiveAll inputs
    (s.passed = true → ∃ exercise, course.exercise? s.progress = some exercise ∧
        exercise.expectation.grade s.source exercise.walkLoop = .passed) ∧
      (∃ exercise, course.exercise? s.progress = some exercise) ∧
      ∀ input place, place ≠ s.progress →
        ((s.receive input).progress = place ↔
          input.IsNext ∧ s.passed = true ∧ s.popupShown = false ∧ s.runner.isBusy = false ∧
            course.Follows s.progress place) := by
  intro s
  have hchecked := Course.isChecked_of_parse hparse
  obtain ⟨hcourse, hsound⟩ : s.course = course ∧ s.gate.IsSound :=
    receiveAll_isSound (s := start settings course path source) hchecked
      (start_isSound hchecked settings path source) inputs
  refine ⟨hcourse ▸ hsound.passed, hcourse ▸ hsound.place, ?_⟩
  intro input place hne
  rw [progress_receive_eq_iff (hcourse ▸ hchecked) input hne, hcourse]
  exact ⟨fun ⟨hnext, hopen, hfollows⟩ =>
      ⟨hnext, hopen.passed, hopen.popup, hopen.idle, hfollows⟩,
    fun ⟨hnext, hpassed, hpopup, hidle, hfollows⟩ => ⟨hnext, ⟨hpassed, hpopup, hidle⟩, hfollows⟩⟩

/-- A course with two exercises, and a check that passes the first. -/
theorem gate_sound_twoExercises :
    let challenge : Text :=
      "\"challenge\":\x7b\"title\":\"\",\"instructions\":[]\x7d".toList
    let document : Text :=
      "\x7b\"levels\":[\x7b\"number\":1,\"title\":\"\",\"subtitle\":\"\",\"exercises\":[".toList ++
      "\x7b\"number\":1,\"example_code\":\"\",".toList ++ challenge ++ "\x7d,".toList ++
      "\x7b\"number\":2,\"example_code\":\"\",".toList ++ challenge ++ "\x7d]\x7d]\x7d".toList
    let course : Course :=
      ⟨[⟨1, [], [], {}, [⟨1, [], ⟨[], []⟩, {}, none⟩, ⟨2, [], ⟨[], []⟩, {}, none⟩]⟩]⟩
    let s := (start {} course none "x = 1;".toList).receiveAll
      [.key (.error "") (.char 'c'), .tick 0]
    Course.parse document = .ok course ∧ s.passed = true ∧
      (∃ exercise, course.exercise? s.progress = some exercise ∧
        exercise.expectation.grade s.source exercise.walkLoop = .passed) ∧
      ∀ input place, place ≠ s.progress →
        ((s.receive input).progress = place ↔
          input.IsNext ∧ s.passed = true ∧ s.popupShown = false ∧ s.runner.isBusy = false ∧
            course.Follows s.progress place) := by
  intro challenge document course s
  have hparse : Course.parse document = .ok course := Course.parse_eq_ok (by decide +kernel)
  have hstopped : ((Walk.step false)^[3] (Walk.silent (.ofSource "x = 1;".toList) 0)).phase =
      .stopped .completed := by
    decide +kernel
  have hgrade : Expectation.grade ⟨[], []⟩ "x = 1;".toList none = .passed := by
    have hloop : (Program.ofSource "x = 1;".toList).loopHasPinActions = false := by decide +kernel
    simp only [Expectation.grade, Option.getD_none, hloop, Bool.false_eq_true, if_false,
      runSilent_eq_of_reaches ⟨3, rfl⟩ hstopped]
    decide +kernel
  have hcheck : (start {} course none "x = 1;".toList).grade? = some .passed := by
    rw [← hgrade]
    rfl
  have hpassed : s.passed = true := by
    have htick := congrArg Gate.passed (gate_tick (start {} course none "x = 1;".toList).check 0)
    change s.passed = (check _).passed at htick
    rw [htick, check, hcheck]
    rfl
  obtain ⟨hpasses, _, hmoves⟩ := gate_sound hparse {} none "x = 1;".toList
    [.key (.error "") (.char 'c'), .tick 0]
  exact ⟨hparse, hpassed, hpasses hpassed, hmoves⟩

end Session

end Breadboard
