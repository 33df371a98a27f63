import Mathlib.Logic.Function.Iterate
import Breadboard.Proofs.Walk.Change

/-!
Silent runs. Nothing is ever pending in a silent walk, so its first cue is asked for and never
comes: `next` takes steps until the walk has stopped. `Reaches` is such a sequence of steps, and the
report of a silent run is read off the stopped walk at its end.
-/

namespace Breadboard

/-- The line on which a walk goes on. -/
def Transition.target (line : Nat) : Transition → Nat
  | .branch false block => block.closing + 1
  | _ => line + 1

namespace Walk

variable {raised : Bool} {w v u : Walk} {outcome : Outcome}

theorem next_of_pending {cue : Cue} {rest : List Cue} (h : w.pending = cue :: rest) :
    w.next raised = (some cue, { w with pending := rest }) := by
  rw [next]
  split
  · next hcues =>
    cases h.symm.trans hcues
    rfl
  · next hcues => cases h.symm.trans hcues

theorem next_of_running (hpending : w.pending = []) (hrunning : 0 < w.phase.rank) :
    w.next raised = (w.step raised).next raised := by
  rw [next]
  split
  · next hcues => cases hpending.symm.trans hcues
  · rw [dif_pos hrunning]

theorem next_of_stopped (hpending : w.pending = []) (hstopped : w.phase = .stopped outcome) :
    w.next raised = (none, w) := by
  rw [next]
  split
  · next hcues => cases hpending.symm.trans hcues
  · rw [dif_neg (by simp [hstopped, Phase.rank])]

/-- `v` comes some number of steps after `w`, with the signal down. -/
def Reaches (w v : Walk) : Prop :=
  ∃ count, (step false)^[count] w = v

theorem Reaches.refl (w : Walk) : w.Reaches w :=
  ⟨0, rfl⟩

theorem Reaches.trans (h : w.Reaches v) (h' : v.Reaches u) : w.Reaches u := by
  obtain ⟨count, rfl⟩ := h
  obtain ⟨count', rfl⟩ := h'
  exact ⟨count' + count, Function.iterate_add_apply ..⟩

theorem Reaches.next (hstep : w.step false = u) (h : u.Reaches v) : w.Reaches v := by
  obtain ⟨count, rfl⟩ := h
  subst hstep
  exact ⟨count + 1, rfl⟩

theorem Reaches.eq_of_stopped (h : w.Reaches v) (hstopped : w.phase = .stopped outcome) :
    v = w := by
  obtain ⟨count, rfl⟩ := h
  exact Function.iterate_fixed (step_of_stopped hstopped) count

/-- What silence means for a walk between two steps. -/
structure IsSilent (w : Walk) (passes : Nat) : Prop where
  mode : w.mode = .silent passes
  pending : w.pending = []

theorem isSilent_silent (program : Program) (passes : Nat) :
    (silent program passes).IsSilent passes :=
  ⟨rfl, rfl⟩

theorem IsSilent.step {passes : Nat} (h : w.IsSilent passes) : (w.step raised).IsSilent passes := by
  refine ⟨(mode_step raised w).trans h.mode, ?_⟩
  obtain ⟨state, phase, cues, hstep⟩ := step_eq_changed raised w
  rw [hstep, changed, pending_queue, h.mode, h.pending]
  rfl

theorem IsSilent.reaches {passes : Nat} (h : w.IsSilent passes) (hreaches : w.Reaches v) :
    v.IsSilent passes := by
  obtain ⟨count, rfl⟩ := hreaches
  induction count generalizing w with
  | zero => exact h
  | succ count ih => exact ih h.step

/-- A silent walk delivers nothing and runs to its end. -/
theorem IsSilent.next_eq {passes : Nat} (h : w.IsSilent passes) (hreaches : w.Reaches v)
    (hstopped : v.phase = .stopped outcome) : w.next false = (none, v) := by
  obtain ⟨count, hcount⟩ := hreaches
  induction count generalizing w with
  | zero =>
      cases hcount
      exact next_of_stopped h.pending hstopped
  | succ count ih =>
      rcases w.running_or_stopped with hrunning | ⟨outcome', hstopped'⟩
      · rw [next_of_running h.pending hrunning]
        exact ih h.step hcount
      · have hv : v = w := Reaches.eq_of_stopped ⟨count + 1, hcount⟩ hstopped'
        rw [hv]
        exact next_of_stopped h.pending hstopped'

/-- Every silent walk stops. -/
theorem IsSilent.exists_stopped {passes : Nat} (h : w.IsSilent passes) :
    ∃ v outcome, w.Reaches v ∧ v.phase = .stopped outcome := by
  induction w using next.induct false with
  | case1 w cue rest hpending => cases h.pending.symm.trans hpending
  | case2 w hpending hrunning ih =>
      obtain ⟨v, outcome, hreaches, hstopped⟩ := ih h.step
      exact ⟨v, outcome, .next rfl hreaches, hstopped⟩
  | case3 w hpending hrunning =>
      rcases w.running_or_stopped with hrunning' | ⟨outcome, hstopped⟩
      · exact absurd hrunning' hrunning
      · exact ⟨w, outcome, .refl w, hstopped⟩

theorem IsSilent.runLine_of_error {passes line : Nat} {statement : Statement} {fault : Fault}
    (h : w.IsSilent passes)
    (hexec : execute statement (w.program.block? line) w.state = .error fault) :
    w.runLine .standard line statement = w.finish (.failed ⟨line, fault⟩) := by
  unfold runLine
  simp only [highlight_eq_queue, fail_eq_queue, queue_of_silent h.mode, hexec]

theorem IsSilent.runLine_of_ok {passes line : Nat} {statement : Statement} {state : State}
    {transition : Transition} (h : w.IsSilent passes)
    (hexec : execute statement (w.program.block? line) w.state = .ok (transition, state)) :
    w.runLine .standard line statement = { w with state }.moveTo (transition.target line) := by
  have hqueue (cues : List Cue) : { w with state }.queue cues = { w with state } :=
    queue_of_silent (w := { w with state }) h.mode cues
  unfold runLine
  simp only [highlight_eq_queue, release_eq_queue, emit_eq_queue, pauses_eq_queue,
    queue_of_silent h.mode, hexec, hqueue]
  cases transition with
  | branch taken block => cases taken <;> rfl
  | _ => rfl

theorem step_of_idle (hphase : w.phase = .idle) (hblank : w.program.isBlank = false) :
    w.step raised = { w with state := .fresh, phase := .setup 0 none } := by
  unfold step stepBy
  rw [hphase]
  simp [begin, hblank]

theorem IsSilent.step_setupHeader {passes line : Nat} {closing? : Option Nat} {block : Block}
    (h : w.IsSilent passes) (hphase : w.phase = .setup line closing?)
    (hread : w.program.statement? line = some .setup)
    (hblock : w.program.block? line = some block) :
    w.step false = (w.insideSetup line block.closing).moveTo (line + 1) := by
  unfold Walk.step Walk.stepBy
  rw [hphase]
  simp only [Bool.false_eq_true, if_false, stepSetup, hread, enterSetup, hblock,
    highlight_eq_queue, release_eq_queue, queue_of_silent h.mode]

theorem IsSilent.step_loopHeader {passes line : Nat} {closing? : Option Nat} {block : Block}
    (h : w.IsSilent passes) (hphase : w.phase = .setup line closing?)
    (hread : w.program.statement? line = some .loop)
    (hblock : w.program.block? line = some block) :
    w.step false =
      if 0 < passes then w.insideLoop block else (w.insideLoop block).finish .completed := by
  unfold Walk.step Walk.stepBy
  rw [hphase]
  simp only [Bool.false_eq_true, if_false, stepSetup, hread, enterLoop, hblock,
    highlight_eq_queue, release_eq_queue, queue_of_silent h.mode, h.mode, Mode.repeats,
    decide_eq_true_eq]

theorem IsSilent.endPass_eq {passes : Nat} (h : w.IsSilent passes) (block : Block) (done : Nat) :
    w.endPass block done =
      if done + 1 < passes then { w with phase := .loop block block.bodyStart (done + 1) }
      else w.finish .completed := by
  let ahead : Walk := { w with phase := .loop block block.bodyStart (done + 1) }
  rw [endPass_eq_queue, queue_of_silent (w := ahead) h.mode, h.mode]
  simp only [Mode.continues, decide_eq_true_eq, ahead, ← h.mode]

end Walk

/-- The report of a silent run is that of the stopped walk it reaches. -/
theorem runSilent_eq_of_reaches {source : Text} {passes : Nat} {v : Walk} {outcome : Outcome}
    (hreaches : (Walk.silent (.ofSource source) passes).Reaches v)
    (hstopped : v.phase = .stopped outcome) : runSilent source passes = ⟨v.state, outcome⟩ := by
  rw [runSilent, (Walk.isSilent_silent _ _).next_eq hreaches hstopped]
  simp only [Walk.report, hstopped]

end Breadboard
