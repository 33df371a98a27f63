import Breadboard.Proofs.Walk.Agreement
import Breadboard.Proofs.Walk.Invariant

/-!
A silent run step by step. `silentAt` is the walk after some number of steps; there is a last one,
and behind it nothing changes. So the report of a run, the line that a step is about to run and the
state it finds there can all be named by a number of steps.

Between two steps a walk knows its program only through what the next step looks at: whether there
is anything in it at all, and the statement and the block of a single line. Another program that
gives the same answers there takes the same step, and one that gives them all along has the same
run.
-/

namespace Breadboard

/-- The line that the next step looks at. -/
def Phase.line? : Phase → Option Nat
  | .setup cursor _ => some cursor
  | .loop block cursor _ => if cursor < block.bodyEnd then some cursor else none
  | _ => none

namespace Walk

/-- The silent walk after this many steps. -/
def silentAt (program : Program) (passes steps : Nat) : Walk :=
  (step false)^[steps] (silent program passes)

section Run

variable (program : Program) (passes steps : Nat)

theorem silentAt_succ :
    silentAt program passes (steps + 1) = (silentAt program passes steps).step false :=
  Function.iterate_succ_apply' ..

theorem reaches_silentAt : (silent program passes).Reaches (silentAt program passes steps) :=
  ⟨steps, rfl⟩

theorem isSilent_silentAt : (silentAt program passes steps).IsSilent passes :=
  (isSilent_silent program passes).reaches (reaches_silentAt program passes steps)

theorem visits_silentAt :
    (fresh program (.silent passes) .student .instant).Visits (silentAt program passes steps) := by
  induction steps with
  | zero => exact .start
  | succ steps ih =>
      rw [silentAt_succ]
      exact .step false ih (isSilent_silentAt program passes steps).pending

@[simp]
theorem program_silentAt : (silentAt program passes steps).program = program := by
  induction steps with
  | zero => rfl
  | succ steps ih => rw [silentAt_succ, program_step, ih]

theorem fits_silentAt : (silentAt program passes steps).Fits := by
  induction steps with
  | zero => trivial
  | succ steps ih =>
      rw [silentAt_succ]
      exact ih.step false

/-- Only before its first step is a run idle. -/
theorem silentAt_of_idle (h : (silentAt program passes steps).phase = .idle) :
    silentAt program passes steps = silent program passes := by
  cases steps with
  | zero => rfl
  | succ steps =>
      rw [silentAt_succ] at h
      exact absurd h (phase_step_ne_idle false _)

/-- A run has a last step. -/
theorem exists_last_silentAt : ∃ last outcome, 0 < (silentAt program passes last).phase.rank ∧
    (silentAt program passes (last + 1)).phase = .stopped outcome := by
  obtain ⟨last, outcome, hrunning, hstopped⟩ :=
    exists_last_step (isSilent_silent program passes) (Nat.zero_lt_succ 2)
  exact ⟨last, outcome, hrunning last (Nat.le_refl _), hstopped⟩

end Run

variable {w : Walk} {program q : Program} {passes steps later : Nat} {raised : Bool}
  {outcome : Outcome}

/-- A run that has stopped stays as it is. -/
theorem silentAt_of_stopped (h : (silentAt program passes steps).phase = .stopped outcome)
    (hle : steps ≤ later) : silentAt program passes later = silentAt program passes steps := by
  induction later, hle using Nat.le_induction with
  | base => rfl
  | succ later _ ih => rw [silentAt_succ, ih, step_of_stopped h]

theorem not_runs_of_stopped (h : w.phase = .stopped outcome) (line : Nat) (statement : Statement) :
    ¬w.Runs line statement := by
  intro hruns
  cases hruns with
  | setup closing? hphase => cases h.symm.trans hphase
  | loop block passes hphase => cases h.symm.trans hphase

/-- The statement that a walk is about to run is that of the line. -/
theorem Runs.statement?_eq {line : Nat} {statement : Statement} (h : w.Runs line statement) :
    w.program.statement? line = some statement := by
  cases h with
  | setup closing? hphase hregion hread => exact hread
  | loop block passes hphase hinside hread => exact hread

/-- A step looks at the line that it runs. -/
theorem Runs.line?_eq {line : Nat} {statement : Statement} (h : w.Runs line statement) :
    w.phase.line? = some line := by
  cases h with
  | setup closing? hphase =>
      rw [hphase]
      rfl
  | loop block passes hphase hinside =>
      rw [hphase]
      exact if_pos hinside

/-- The walk in front of another program. -/
def withProgram (w : Walk) (q : Program) : Walk :=
  { w with program := q }

section Exchange

theorem moveTo_withProgram (next : Nat) :
    (w.withProgram q).moveTo next = (w.moveTo next).withProgram q := by
  rw [moveTo_eq, moveTo_eq]
  rfl

variable (exec : Executor)

theorem runLine_withProgram {line : Nat} (hblock : q.block? line = w.program.block? line)
    (statement : Statement) :
    (w.withProgram q).runLine exec line statement =
      (w.runLine exec line statement).withProgram q := by
  have hread : (w.withProgram q).program.block? line = w.program.block? line := hblock
  have hstate : (w.withProgram q).state = w.state := rfl
  unfold runLine
  simp only [hread, hstate, highlight_eq_queue, release_eq_queue, emit_eq_queue, pauses_eq_queue,
    fail_eq_queue, moveTo_eq]
  cases exec line statement (w.program.block? line) w.state with
  | error fault => rfl
  | ok result =>
      obtain ⟨transition, state⟩ := result
      cases transition with
      | branch taken block => cases taken <;> rfl
      | _ => rfl

theorem enterSetup_withProgram {line : Nat} (hblock : q.block? line = w.program.block? line) :
    (w.withProgram q).enterSetup line = (w.enterSetup line).withProgram q := by
  have hread : (w.withProgram q).program.block? line = w.program.block? line := hblock
  unfold enterSetup
  simp only [hread, highlight_eq_queue, release_eq_queue, fail_eq_queue, moveTo_eq]
  cases w.program.block? line <;> rfl

theorem enterLoop_withProgram {line : Nat} (hblock : q.block? line = w.program.block? line) :
    (w.withProgram q).enterLoop line = (w.enterLoop line).withProgram q := by
  have hread : (w.withProgram q).program.block? line = w.program.block? line := hblock
  have hmode : (w.withProgram q).mode.repeats = w.mode.repeats := rfl
  unfold enterLoop
  simp only [hread, hmode, highlight_eq_queue, release_eq_queue, fail_eq_queue]
  cases w.program.block? line with
  | none => rfl
  | some block => cases w.mode.repeats <;> rfl

theorem stepSetup_withProgram {cursor : Nat}
    (hread : q.statement? cursor = w.program.statement? cursor)
    (hblock : q.block? cursor = w.program.block? cursor) :
    (w.withProgram q).stepSetup exec cursor = (w.stepSetup exec cursor).withProgram q := by
  have hread : (w.withProgram q).program.statement? cursor = w.program.statement? cursor := hread
  have hstate : (w.withProgram q).state = w.state := rfl
  unfold stepSetup
  rw [hread, hstate]
  split
  · rfl
  · exact moveTo_withProgram _
  · exact enterSetup_withProgram hblock
  · exact enterLoop_withProgram hblock
  · split
    · exact runLine_withProgram exec hblock _
    · simp only [highlight_eq_queue, release_eq_queue]
      exact moveTo_withProgram (w := (w.queue _).queue _) _

theorem stepLoop_withProgram {block : Block} {cursor done : Nat}
    (hread : cursor < block.bodyEnd → q.statement? cursor = w.program.statement? cursor)
    (hblock : cursor < block.bodyEnd → q.block? cursor = w.program.block? cursor) :
    (w.withProgram q).stepLoop exec block cursor done =
      (w.stepLoop exec block cursor done).withProgram q := by
  unfold stepLoop
  split
  · have hmode : (w.withProgram q).mode.continues (done + 1) = w.mode.continues (done + 1) := rfl
    rw [endPass_eq_queue, endPass_eq_queue, hmode]
    split <;> rfl
  · next hend =>
    have hinside : cursor < block.bodyEnd := Nat.lt_of_not_le hend
    have hread : (w.withProgram q).program.statement? cursor = w.program.statement? cursor :=
      hread hinside
    rw [hread]
    split
    · rfl
    · rw [pause_eq_queue, pause_eq_queue]
      exact moveTo_withProgram (w := w.queue _) _
    · exact runLine_withProgram exec (hblock hinside) _

/-- A step does not look further than its line. -/
theorem step_withProgram (hblank : w.phase = .idle → q.isBlank = w.program.isBlank)
    (hread : ∀ line, w.phase.line? = some line → q.statement? line = w.program.statement? line)
    (hblock : ∀ line, w.phase.line? = some line → q.block? line = w.program.block? line) :
    (w.withProgram q).step raised = (w.step raised).withProgram q := by
  have hphase : (w.withProgram q).phase = w.phase := rfl
  unfold step stepBy
  rw [hphase]
  split
  · next hidle =>
    unfold begin
    dsimp only [withProgram]
    rw [hblank hidle]
    simp only [fail_eq_queue]
    split <;> rfl
  · next cursor closing? hsetup =>
    rw [hsetup] at hread hblock
    split
    · rfl
    · exact stepSetup_withProgram _ (hread cursor rfl) (hblock cursor rfl)
  · next block cursor done hloop =>
    rw [hloop] at hread hblock
    split
    · rfl
    · refine stepLoop_withProgram _ ?_ ?_
      · intro hinside
        exact hread cursor (if_pos hinside)
      · intro hinside
        exact hblock cursor (if_pos hinside)
  · rfl

/-- Two runs stay together for as long as the steps do. -/
theorem silentAt_withProgram
    (h : ∀ earlier < steps, ((silentAt program passes earlier).withProgram q).step false =
      ((silentAt program passes earlier).step false).withProgram q) :
    silentAt q passes steps = (silentAt program passes steps).withProgram q := by
  induction steps with
  | zero => rfl
  | succ steps ih =>
      rw [silentAt_succ, ih fun earlier hearlier => h earlier (Nat.lt_succ_of_lt hearlier),
        h steps (Nat.lt_succ_self _), silentAt_succ]

end Exchange

end Walk

end Breadboard
