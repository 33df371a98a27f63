import Breadboard.Proofs.Walk.Visits

/-!
What a raised signal does. A walk looks at the signal before each step, and what it has queued by
then is still delivered. So a signal that is raised and stays up lets the queue run dry and ends the
walk there: no line more is run, no cue is taken back and none is added. `play_drained` says this of
any walk in terms of the call that finds the queue empty; the phases differ only in what that call
does.
-/

namespace Breadboard

theorem Program.isBlank_eq_false_iff {p : Program} :
    p.isBlank = false ↔ ∃ line ∈ p.lines, line.statement ≠ .blank := by
  simp [isBlank]

namespace Walk

variable {w u : Walk} {raised : Bool}

theorem step_of_raised (hidle : w.phase ≠ .idle) (hrunning : 0 < w.phase.rank) :
    w.step true = w.finish .cancelled := by
  unfold step stepBy
  cases hphase : w.phase with
  | idle => exact absurd hphase hidle
  | setup cursor closing? => rfl
  | loop block cursor passes => rfl
  | stopped outcome =>
      rw [hphase] at hrunning
      exact absurd hrunning (Nat.lt_irrefl 0)

/-- If the call that finds the queue empty answers nothing, then the calls before it deliver the
queue, and those after it answer nothing and change nothing. -/
theorem play_drained (hdry : { w with pending := [] }.next raised = (none, u)) (calls : Nat) :
    (w.play (fun _ => raised) calls).2 =
      if calls ≤ w.pending.length then { w with pending := w.pending.drop calls } else u := by
  induction calls with
  | zero => rfl
  | succ calls ih =>
      by_cases hle : calls + 1 ≤ w.pending.length
      · rw [if_pos hle, play_of_le_pending _ hle]
      · rw [if_neg hle, play_succ, ih]
        by_cases hlast : calls ≤ w.pending.length
        · obtain rfl : calls = w.pending.length := by omega
          rw [if_pos hlast, List.drop_length, hdry]
        · rw [if_neg hlast, next_of_next_none hdry]

theorem answer_drained (hdry : { w with pending := [] }.next raised = (none, u)) (calls : Nat) :
    w.answer (fun _ => raised) calls = w.pending[calls]? := by
  rw [answer, play_drained hdry]
  rcases Nat.lt_trichotomy calls w.pending.length with hlt | rfl | hgt
  · rw [if_pos (Nat.le_of_lt hlt), List.getElem?_eq_getElem hlt,
      next_of_pending (w := { w with pending := w.pending.drop calls })
        (List.drop_eq_getElem_cons hlt)]
  · rw [if_pos (Nat.le_refl _), List.drop_length, hdry, List.getElem?_eq_none (Nat.le_refl _)]
  · rw [if_neg (Nat.not_le.mpr hgt), next_of_next_none hdry,
      List.getElem?_eq_none (Nat.le_of_lt hgt)]

/-- In the setup and in the loop the signal ends the walk as soon as nothing is pending. -/
theorem next_of_raised (hpending : w.pending = []) (hidle : w.phase ≠ .idle)
    (hrunning : 0 < w.phase.rank) : w.next true = (none, w.finish .cancelled) := by
  rw [next_of_running hpending hrunning, step_of_raised hidle hrunning]
  exact next_of_stopped hpending rfl

/-- An idle walk begins before it looks at the signal, which shows in a state made anew. -/
theorem next_of_idle_raised (hpending : w.pending = []) (hidle : w.phase = .idle)
    (hblank : w.program.isBlank = false) :
    w.next true = (none, { w with state := .fresh, phase := .stopped .cancelled }) := by
  have hrunning : 0 < w.phase.rank := by simp [hidle, Phase.rank]
  rw [next_of_running hpending hrunning, step_of_idle hidle hblank]
  exact next_of_raised (w := { w with state := .fresh, phase := .setup 0 none }) hpending
    (by simp) Nat.zero_lt_two

theorem report_of_running (hrunning : 0 < w.phase.rank) : w.report = ⟨w.state, .cancelled⟩ := by
  unfold report
  split
  · next outcome hphase =>
    rw [hphase] at hrunning
    exact absurd hrunning (Nat.lt_irrefl 0)
  · rfl

/-- In the setup and in the loop the queue runs dry and the state stays. -/
theorem drains_of_running (hidle : w.phase ≠ .idle) (hrunning : 0 < w.phase.rank) (calls : Nat) :
    let later := (w.play (fun _ => true) calls).2
    w.answer (fun _ => true) calls = w.pending[calls]? ∧ later.state = w.state ∧
      later.report.outcome = .cancelled ∧
      (w.pending.length < calls → later.phase = .stopped .cancelled) := by
  have hdry := next_of_raised (w := { w with pending := [] }) rfl hidle hrunning
  intro later
  refine ⟨answer_drained hdry calls, ?_⟩
  simp only [later, play_drained hdry]
  split
  · next hle =>
    -- nobody has told the walk yet, and it is a walk that has not stopped whose report is asked for
    have hreport := report_of_running (w := { w with pending := w.pending.drop calls }) hrunning
    refine ⟨rfl, congrArg Report.outcome hreport, ?_⟩
    intro hlt
    omega
  · exact ⟨rfl, rfl, fun _ => rfl⟩

/-- An idle walk with something to run is cancelled by the first call. -/
theorem drains_of_idle (hpending : w.pending = []) (hidle : w.phase = .idle)
    (hstate : w.state = .fresh) (hblank : w.program.isBlank = false) (calls : Nat) :
    let later := (w.play (fun _ => true) calls).2
    w.answer (fun _ => true) calls = none ∧ later.report = ⟨.fresh, .cancelled⟩ ∧
      (0 < calls → later.phase = .stopped .cancelled) := by
  have hdry : { w with pending := [] }.next true =
      (none, { w with state := .fresh, phase := .stopped .cancelled, pending := [] }) :=
    next_of_idle_raised (w := { w with pending := [] }) rfl hidle hblank
  intro later
  have hanswer := answer_drained hdry calls
  rw [hpending, List.getElem?_nil] at hanswer
  refine ⟨hanswer, ?_⟩
  simp only [later, play_drained hdry]
  split
  · next hle =>
    have hrunning : 0 < w.phase.rank := by simp [hidle, Phase.rank]
    have hreport := report_of_running (w := { w with pending := w.pending.drop calls }) hrunning
    refine ⟨hreport.trans (congrArg (Report.mk · .cancelled) hstate), ?_⟩
    rw [hpending, List.length_nil] at hle
    omega
  · exact ⟨rfl, fun _ => rfl⟩

/-- A walk that has stopped does not look at the signal. -/
theorem drains_of_stopped {outcome : Outcome} (hstopped : w.phase = .stopped outcome)
    (calls : Nat) :
    let later := (w.play (fun _ => true) calls).2
    w.answer (fun _ => true) calls = w.pending[calls]? ∧ later.state = w.state ∧
      later.phase = .stopped outcome := by
  have hdry : { w with pending := [] }.next true = (none, { w with pending := [] }) :=
    next_of_stopped rfl hstopped
  intro later
  refine ⟨answer_drained hdry calls, ?_⟩
  simp only [later, play_drained hdry]
  split
  · exact ⟨rfl, hstopped⟩
  · exact ⟨rfl, hstopped⟩

/-- Cancellation is exact. Let the signal be raised in any walk and stay raised. In the setup and in
the loop the following calls deliver what is pending, in order, and then nothing for ever; the state
never changes again and the outcome is a cancellation. A walk that has not begun delivers nothing,
and one that has stopped delivers what is pending and keeps its outcome. -/
theorem cancellation_exact {program : Program} {mode : Mode} {side : Side} {timing : Timing}
    {w : Walk} (hw : (fresh program mode side timing).Visits w) :
    let later (calls : Nat) := (w.play (fun _ => true) calls).2
    let answer (calls : Nat) := w.answer (fun _ => true) calls
    (((∃ cursor closing?, w.phase = .setup cursor closing?) ∨
        ∃ block cursor passes, w.phase = .loop block cursor passes) →
      ∀ calls, answer calls = w.pending[calls]? ∧ (later calls).state = w.state ∧
        (later calls).report.outcome = .cancelled ∧
        (w.pending.length < calls → (later calls).phase = .stopped .cancelled)) ∧
    (w.phase = .idle → (∃ line ∈ program.lines, line.statement ≠ .blank) →
      ∀ calls, answer calls = none ∧ (later calls).report = ⟨.fresh, .cancelled⟩ ∧
        (0 < calls → (later calls).phase = .stopped .cancelled)) ∧
    ∀ outcome, w.phase = .stopped outcome →
      ∀ calls, answer calls = w.pending[calls]? ∧ (later calls).state = w.state ∧
        (later calls).phase = .stopped outcome := by
  intro later answer
  refine ⟨?_, ?_, fun outcome hstopped => drains_of_stopped hstopped⟩
  · rintro (⟨cursor, closing?, hphase⟩ | ⟨block, cursor, passes, hphase⟩)
    · exact drains_of_running (by simp [hphase]) (by simp [hphase, Phase.rank])
    · exact drains_of_running (by simp [hphase]) (by simp [hphase, Phase.rank])
  · intro hidle hline
    obtain rfl := hw.eq_of_idle rfl hidle
    exact drains_of_idle rfl rfl rfl (Program.isBlank_eq_false_iff.mpr hline)

/-- The signal is raised after one call, inside a setup block and with a cue pending. -/
theorem cancellation_exact_insideSetup :
    let program : Program := .ofSource "void setup()\n\x7b\npin1;\n\x7d".toList
    let start := fresh program (.animated true) .student .instant
    let w := (start.play (fun _ => false) 1).2
    start.Visits w ∧ w.phase = .setup 1 (some 3) ∧
      w.pending = [.event ⟨.student, .highlightEnd 0⟩] ∧
      ∀ calls, w.answer (fun _ => true) calls = w.pending[calls]? ∧
        (w.play (fun _ => true) calls).2.state = w.state ∧
        (w.play (fun _ => true) calls).2.report.outcome = .cancelled ∧
        (w.pending.length < calls →
          (w.play (fun _ => true) calls).2.phase = .stopped .cancelled) := by
  intro program start w
  let inside := (start.step false).step false
  have hcues : inside.pending =
      [.event ⟨.student, .highlightStart 0⟩, .event ⟨.student, .highlightEnd 0⟩] := by decide
  have hcall : w = { inside with pending := [.event ⟨.student, .highlightEnd 0⟩] } := by
    change (start.next false).2 = _
    rw [next_of_running rfl (by decide), next_of_running (by decide) (by decide),
      next_of_pending hcues]
  have hphase : w.phase = .setup 1 (some 3) := by
    rw [hcall]
    decide
  have hvisits : start.Visits w := visits_play start _ 1
  exact ⟨hvisits, hphase, by rw [hcall],
    (cancellation_exact hvisits).1 (.inl ⟨1, some 3, hphase⟩)⟩

end Walk

end Breadboard
