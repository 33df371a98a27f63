import Breadboard.Proofs.Execute
import Breadboard.Proofs.Walk.Silent

/-!
Walks that are at the same place. Where a step leads depends on the program, the state and the
phase. Side, timing and what is pending have no say in it, and the mode only decides whether the
loop is entered and whether another pass follows. So two walks that are alike stay alike, step by
step, for as long as their modes give the same answer to these two questions. They also have the
same to tell: their cues differ in the side that is named and in the pauses, and in nothing else.
-/

namespace Breadboard

/-- What some cues tell, on whichever side. -/
def Cue.told (cues : List Cue) : List Happening :=
  (Cue.shown cues).map (·.happening)

@[simp]
theorem Cue.told_append (cues more : List Cue) :
    Cue.told (cues ++ more) = Cue.told cues ++ Cue.told more := by
  simp [told, shown_append]

@[simp]
theorem Cue.told_event (side : Side) (happening : Happening) :
    Cue.told [.event ⟨side, happening⟩] = [happening] :=
  rfl

@[simp]
theorem Cue.told_pause (milliseconds : Nat) : Cue.told [.pause milliseconds] = [] :=
  rfl

@[simp]
theorem Cue.told_wait (milliseconds : Nat) : Cue.told (Cue.wait milliseconds) = [] := by
  simp [told]

theorem Mode.told_heard {cues more : List Cue} (mode : Mode) (h : Cue.told cues = Cue.told more) :
    Cue.told (mode.heard cues) = Cue.told (mode.heard more) := by
  cases mode with
  | animated looping => exact h
  | silent passes => rfl

namespace Walk

section Telling

variable (w : Walk)

@[simp]
theorem told_opened (line : Nat) : Cue.told (w.opened line) = [.highlightStart line] := by
  simp [Cue.told, shown_opened]

@[simp]
theorem told_closed (line milliseconds : Nat) :
    Cue.told (w.closed line milliseconds) = [.highlightEnd line] := by
  simp [Cue.told, shown_closed]

@[simp]
theorem told_skipped (count : Nat) : Cue.told (w.skipped count) = [] := by
  simp [Cue.told, shown_skipped]

end Telling

structure Alike (w v : Walk) : Prop where
  program : w.program = v.program
  state : w.state = v.state
  phase : w.phase = v.phase

/-- From `w` and `v` the same move leads to `w'` and `v'`: to one state and one phase, with cues
that tell the same. -/
def SameMove (w v w' v' : Walk) : Prop :=
  ∃ state phase cues more, Cue.told cues = Cue.told more ∧
    w' = w.changed state phase cues ∧ v' = v.changed state phase more

theorem step_of_endOfPass {w : Walk} {block : Block} {cursor done : Nat}
    (hphase : w.phase = .loop block cursor done) (hend : block.bodyEnd ≤ cursor) :
    w.step false = w.endPass block done := by
  unfold step stepBy
  rw [hphase]
  simp [stepLoop, hend]

namespace SameMove

variable {w v w' v' : Walk} (h : SameMove w v w' v')

include h

theorem queue {cues more : List Cue} (htold : Cue.told cues = Cue.told more) :
    SameMove w v (w'.queue cues) (v'.queue more) := by
  obtain ⟨state, phase, first, second, hbefore, rfl, rfl⟩ := h
  refine ⟨state, phase, first ++ cues, second ++ more, ?_, queue_changed .., queue_changed ..⟩
  simp [hbefore, htold]

theorem moveTo (next : Nat) : SameMove w v (w'.moveTo next) (v'.moveTo next) := by
  obtain ⟨state, phase, cues, more, htold, rfl, rfl⟩ := h
  exact ⟨_, _, cues, more, htold, moveTo_changed .., moveTo_changed ..⟩

theorem withState (state : State) : SameMove w v { w' with state } { v' with state } := by
  obtain ⟨_, phase, cues, more, htold, rfl, rfl⟩ := h
  exact ⟨state, phase, cues, more, htold, rfl, rfl⟩

theorem withPhase (phase : Phase) : SameMove w v { w' with phase } { v' with phase } := by
  obtain ⟨state, _, cues, more, htold, rfl, rfl⟩ := h
  exact ⟨state, phase, cues, more, htold, rfl, rfl⟩

theorem insideSetup (line closing : Nat) :
    SameMove w v (w'.insideSetup line closing) (v'.insideSetup line closing) := by
  obtain ⟨state, phase, cues, more, htold, rfl, rfl⟩ := h
  exact ⟨state.inRegion .setup, _, cues, more, htold, rfl, rfl⟩

theorem insideLoop (block : Block) :
    SameMove w v (w'.insideLoop block) (v'.insideLoop block) := by
  obtain ⟨state, phase, cues, more, htold, rfl, rfl⟩ := h
  exact ⟨state.inRegion .loop, _, cues, more, htold, rfl, rfl⟩

theorem alike (halike : w.Alike v) : w'.Alike v' := by
  obtain ⟨state, phase, cues, more, _, rfl, rfl⟩ := h
  exact ⟨halike.program, rfl, rfl⟩

end SameMove

namespace Alike

variable {w v : Walk} (h : w.Alike v)

include h

theorem stay : SameMove w v w v := by
  refine ⟨w.state, w.phase, [], [], rfl, (queue_nil w).symm, ?_⟩
  rw [h.state, h.phase]
  exact (queue_nil v).symm

theorem finish (outcome : Outcome) : SameMove w v (w.finish outcome) (v.finish outcome) :=
  h.stay.withPhase (.stopped outcome)

theorem runLine (exec : Executor) (line : Nat) (statement : Statement) :
    SameMove w v (w.runLine exec line statement) (v.runLine exec line statement) := by
  have hshown : SameMove w v (w.queue (w.opened line)) (v.queue (v.opened line)) :=
    h.stay.queue (by simp)
  unfold Walk.runLine
  simp only [highlight_eq_queue, release_eq_queue, emit_eq_queue, pauses_eq_queue, fail_eq_queue,
    h.program, h.state]
  split
  · exact (hshown.queue (by simp)).withPhase _
  · next transition state _ =>
    have hran := hshown.withState state
    cases transition with
    | quiet => exact (hran.queue (by simp)).moveTo _
    | effect effect => exact ((hran.queue (by simp)).queue (by simp)).moveTo _
    | branch taken block =>
        cases taken with
        | true => exact (hran.queue (by simp)).moveTo _
        | false => exact ((hran.queue (by simp)).queue (by simp)).moveTo _

theorem begin : SameMove w v w.begin v.begin := by
  have hfresh := h.stay.withState .fresh
  have hblank : w.program.isBlank = v.program.isBlank := by rw [h.program]
  unfold Walk.begin
  simp only [fail_eq_queue, hblank]
  split
  · exact (hfresh.queue (by simp)).withPhase _
  · exact hfresh.withPhase _

theorem enterSetup (line : Nat) : SameMove w v (w.enterSetup line) (v.enterSetup line) := by
  have hshown : SameMove w v (w.queue (w.opened line)) (v.queue (v.opened line)) :=
    h.stay.queue (by simp)
  unfold Walk.enterSetup
  simp only [highlight_eq_queue, release_eq_queue, fail_eq_queue, h.program]
  split
  · exact (hshown.queue (by simp)).withPhase _
  · exact ((hshown.queue (by simp)).insideSetup _ _).moveTo _

/-- Whether the mode repeats the loop matters only where there is a loop to enter. -/
theorem enterLoop {line : Nat}
    (hrepeats : ∀ block, v.program.block? line = some block → w.mode.repeats = v.mode.repeats) :
    SameMove w v (w.enterLoop line) (v.enterLoop line) := by
  have hshown : SameMove w v (w.queue (w.opened line)) (v.queue (v.opened line)) :=
    h.stay.queue (by simp)
  unfold Walk.enterLoop
  simp only [highlight_eq_queue, release_eq_queue, fail_eq_queue, h.program]
  split
  · exact (hshown.queue (by simp)).withPhase _
  · next block hblock =>
    rw [hrepeats block hblock]
    split
    · exact (hshown.queue (by simp)).insideLoop block
    · exact ((hshown.queue (by simp)).insideLoop block).withPhase _

theorem stepSetup (exec : Executor) {cursor : Nat}
    (hrepeats : ∀ block, v.program.statement? cursor = some .loop →
      v.program.block? cursor = some block → w.mode.repeats = v.mode.repeats) :
    SameMove w v (w.stepSetup exec cursor) (v.stepSetup exec cursor) := by
  unfold Walk.stepSetup
  rw [h.program, h.state]
  split
  · exact h.finish _
  · exact h.stay.moveTo _
  · exact h.enterSetup _
  · next hread => exact h.enterLoop fun block => hrepeats block hread
  · split
    · exact h.runLine exec _ _
    · simp only [highlight_eq_queue, release_eq_queue]
      exact ((h.stay.queue (by simp)).queue (by simp)).moveTo _

theorem stepLoop (exec : Executor) {block : Block} {cursor done : Nat}
    (hcontinues : block.bodyEnd ≤ cursor →
      w.mode.continues (done + 1) = v.mode.continues (done + 1)) :
    SameMove w v (w.stepLoop exec block cursor done) (v.stepLoop exec block cursor done) := by
  unfold Walk.stepLoop
  rw [h.program]
  split
  · next hend =>
    rw [endPass_eq_queue, endPass_eq_queue, hcontinues hend]
    split
    · exact (h.stay.withPhase (.loop block block.bodyStart (done + 1))).queue (by simp)
    · exact h.finish _
  · split
    · exact h.finish _
    · simp only [pause_eq_queue]
      exact (h.stay.queue (by simp)).moveTo _
    · exact h.runLine exec _ _

/-- A step makes the same move from walks that are alike, unless their modes differ on the loop and
the step is to enter it. -/
theorem move_of (raised : Bool)
    (hrepeats : ∀ cursor closing? block, v.phase = .setup cursor closing? →
      v.program.statement? cursor = some .loop → v.program.block? cursor = some block →
      w.mode.repeats = v.mode.repeats)
    (hcontinues : ∀ block cursor done, v.phase = .loop block cursor done →
      block.bodyEnd ≤ cursor → w.mode.continues (done + 1) = v.mode.continues (done + 1)) :
    SameMove w v (w.step raised) (v.step raised) := by
  unfold Walk.step Walk.stepBy
  rw [h.phase]
  split
  · exact h.begin
  · next cursor closing? hphase =>
    split
    · exact h.finish _
    · exact h.stepSetup _ fun block => hrepeats cursor closing? block hphase
  · next block cursor done hphase =>
    split
    · exact h.finish _
    · exact h.stepLoop _ (hcontinues block cursor done hphase)
  · exact h.stay

/-- A step makes the same move from walks that are alike. -/
theorem move (raised : Bool) (hrepeats : w.mode.repeats = v.mode.repeats)
    (hcontinues : ∀ block cursor done, v.phase = .loop block cursor done →
      block.bodyEnd ≤ cursor → w.mode.continues (done + 1) = v.mode.continues (done + 1)) :
    SameMove w v (w.step raised) (v.step raised) :=
  h.move_of raised (fun _ _ _ _ _ _ => hrepeats) hcontinues

/-- A step leads walks that are alike to walks that are alike. -/
theorem step (raised : Bool) (hrepeats : w.mode.repeats = v.mode.repeats)
    (hcontinues : ∀ block cursor done, v.phase = .loop block cursor done →
      block.bodyEnd ≤ cursor → w.mode.continues (done + 1) = v.mode.continues (done + 1)) :
    (w.step raised).Alike (v.step raised) :=
  (h.move raised hrepeats hcontinues).alike h

end Alike

end Walk

end Breadboard
