import Breadboard.Proofs.Walk.Play
import Breadboard.Proofs.Walk.Sections

/-!
The walks that calls for cues can lead to. A call goes round: it delivers what is pending, and with
nothing pending it takes a step and looks again. `Visits` is made of such rounds, with a signal that
may change from one to the next. So it holds of the walks between two calls, of those in the middle
of a call, and of both when the signal is raised while a call is under way.
-/

namespace Breadboard

theorem Phase.rank_eq_three {phase : Phase} : phase.rank = 3 ↔ phase = .idle := by
  cases phase <;> simp [rank]

theorem Phase.rank_le_three (phase : Phase) : phase.rank ≤ 3 := by
  cases phase <;> simp [rank]

namespace Walk

/-- A walk before its first step. -/
def fresh (program : Program) (mode : Mode) (side : Side) (timing : Timing) : Walk :=
  { program, mode, side, timing }

inductive Visits (w : Walk) : Walk → Prop where
  | start : Visits w w
  | delivery {v : Walk} (cue : Cue) (rest : List Cue) (hv : Visits w v)
      (hpending : v.pending = cue :: rest) : Visits w { v with pending := rest }
  | step {v : Walk} (raised : Bool) (hv : Visits w v) (hpending : v.pending = []) :
      Visits w (v.step raised)

variable {w v : Walk}

theorem Visits.trans {u : Walk} (h : w.Visits u) (h' : u.Visits v) : w.Visits v := by
  induction h' with
  | start => exact h
  | delivery cue rest _ hpending ih => exact .delivery cue rest ih hpending
  | step raised _ hpending ih => exact .step raised ih hpending

/-- Whatever the signal is at each call, calls visit the walks they lead to. -/
theorem visits_play (w : Walk) (signal : Nat → Bool) (count : Nat) :
    w.Visits (w.play signal count).2 :=
  play_invariant (P := fun _ v => w.Visits v) .start
    (fun _ _ cue rest hpending hv => .delivery cue rest hv hpending)
    (fun raised _ _ hpending _ hv => .step raised hv hpending) signal count

theorem Visits.program_eq (hv : w.Visits v) : v.program = w.program := by
  induction hv with
  | start => rfl
  | delivery cue rest _ _ ih => exact ih
  | step raised _ _ ih => exact (program_step raised _).trans ih

theorem Visits.mode_eq (hv : w.Visits v) : v.mode = w.mode := by
  induction hv with
  | start => rfl
  | delivery cue rest _ _ ih => exact ih
  | step raised _ _ ih => exact (mode_step raised _).trans ih

/-- The sections come in their order, whatever the signal does. -/
theorem Visits.rank_le (hv : w.Visits v) : v.phase.rank ≤ w.phase.rank := by
  induction hv with
  | start => exact Nat.le_refl _
  | delivery cue rest _ _ ih => exact ih
  | step raised _ _ ih => exact Nat.le_trans (rank_step_le raised _) ih

/-- A walk that has stopped keeps its outcome and its state. -/
theorem Visits.of_stopped {outcome : Outcome} (hv : w.Visits v)
    (hstopped : w.phase = .stopped outcome) :
    v.phase = .stopped outcome ∧ v.state = w.state := by
  induction hv with
  | start => exact ⟨hstopped, rfl⟩
  | delivery cue rest _ _ ih => exact ih
  | step raised _ _ ih => rwa [step_of_stopped ih.1]

theorem phase_step_ne_idle (raised : Bool) (w : Walk) : (w.step raised).phase ≠ .idle := by
  intro hidle
  have hrank := rank_step_le raised w
  rw [Phase.rank_eq_three.mpr hidle] at hrank
  have hphase : w.phase = .idle :=
    Phase.rank_eq_three.mp (Nat.le_antisymm w.phase.rank_le_three hrank)
  unfold step stepBy at hidle
  rw [hphase] at hidle
  unfold begin at hidle
  dsimp only at hidle
  split at hidle <;> cases hidle

/-- A fresh walk that is still idle has not been touched. -/
theorem Visits.eq_of_idle (hv : w.Visits v) (hpending : w.pending = []) (hidle : v.phase = .idle) :
    v = w := by
  induction hv with
  | start => rfl
  | delivery cue rest _ hcues ih =>
      rw [ih hidle, hpending] at hcues
      cases hcues
  | step raised _ _ _ => exact absurd hidle (phase_step_ne_idle raised _)

/-- The call that answers nothing leaves a walk that has stopped, with nothing pending. -/
theorem finished_of_next {raised : Bool} (h : w.next raised = (none, v)) :
    v.pending = [] ∧ ∃ outcome, v.phase = .stopped outcome := by
  induction w using next.induct raised with
  | case1 w cue rest hpending =>
      rw [next_of_pending hpending] at h
      cases h
  | case2 w hpending hrunning ih =>
      rw [next_of_running hpending hrunning] at h
      exact ih h
  | case3 w hpending hrunning =>
      rcases w.running_or_stopped with hrunning' | ⟨outcome, hstopped⟩
      · exact absurd hrunning' hrunning
      · rw [next_of_stopped hpending hstopped] at h
        cases h
        exact ⟨hpending, outcome, hstopped⟩

/-- Once a call has answered nothing, so do all others, and nothing changes any more. -/
theorem next_of_next_none {raised : Bool} (h : w.next raised = (none, v)) (later : Bool) :
    v.next later = (none, v) := by
  obtain ⟨hpending, outcome, hstopped⟩ := finished_of_next h
  exact next_of_stopped hpending hstopped

end Walk

end Breadboard
