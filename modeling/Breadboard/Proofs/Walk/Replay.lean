import Breadboard.Proofs.Execute.InPlace
import Breadboard.Proofs.Statement
import Breadboard.Proofs.Walk.Trace

/-!
Failures that can be replayed. The report of a run that failed holds a state, a line and a fault,
and the three belong together: the state is the one that the line found, and on that state the line
fails again in the same way. The exceptions are failures for which no line was run. A program of
blank lines fails as a whole, and a section whose block never closes fails at its header.
-/

namespace Breadboard

namespace Failure

/-- There is nothing on any line, so nothing was run. -/
def IsOfEmptySource (failure : Failure) (source : Text) (s : State) : Prop :=
  failure = ⟨0, .emptyProgram⟩ ∧
    (∀ line ∈ source.lines, ∀ c ∈ line, Text.isBlank c = true) ∧ s = .fresh

/-- The line is the header of a section that has no block. -/
def IsOfUnclosedSection (failure : Failure) (p : Program) : Prop :=
  (p.statement? failure.line = some .setup ∨ p.statement? failure.line = some .loop) ∧
    p.block? failure.line = none ∧ failure.fault = .unclosedBlock

/-- Run alone on this state, the line fails with the same fault and writes nothing. -/
def Replays (failure : Failure) (p : Program) (s : State) : Prop :=
  ∃ statement, p.statement? failure.line = some statement ∧
    execute statement (p.block? failure.line) s = .error failure.fault ∧
    (perform statement (p.block? failure.line)).on s = (.error failure.fault, s)

variable {failure : Failure} {source : Text} {p : Program} {s : State}

theorem Replays.not_isOfEmptySource (h : failure.Replays p s) :
    ¬failure.IsOfEmptySource source s := by
  rintro ⟨rfl, _⟩
  obtain ⟨statement, _, hexec, _⟩ := h
  exact execute_ne_emptyProgram hexec rfl

theorem Replays.not_isOfUnclosedSection (h : failure.Replays p s) :
    ¬failure.IsOfUnclosedSection p := by
  rintro ⟨hheader, _⟩
  obtain ⟨statement, hread, hexec, _⟩ := h
  rcases hheader with hsetup | hloop
  · cases hread.symm.trans hsetup
    cases hexec
  · cases hread.symm.trans hloop
    cases hexec

theorem IsOfUnclosedSection.not_isOfEmptySource (h : failure.IsOfUnclosedSection p) :
    ¬failure.IsOfEmptySource source s := by
  rintro ⟨rfl, _⟩
  cases h.2.2

end Failure

theorem Program.isBlank_ofSource_iff {source : Text} :
    (ofSource source).isBlank = true ↔
      ∀ line ∈ source.lines, ∀ c ∈ line, Text.isBlank c = true := by
  simp [isBlank, ofSource, Line.ofText, Statement.ofLine_eq_blank_iff]

namespace Walk

variable {raised : Bool} {w : Walk} {failure : Failure}

/-- How the next step can fail. -/
inductive Fails (w : Walk) (failure : Failure) : Prop where
  | empty (hphase : w.phase = .idle) (hblank : w.program.isBlank = true)
      (hfailure : failure = ⟨0, .emptyProgram⟩)
  | unclosed (hcursor : w.phase.cursor = failure.line)
      (hsection : failure.IsOfUnclosedSection w.program)
  | run (statement : Statement) (hruns : w.Runs failure.line statement)
      (hexec : execute statement (w.program.block? failure.line) w.state = .error failure.fault)

theorem Fails.cursor_eq (h : w.Fails failure) : w.phase.cursor = failure.line := by
  cases h with
  | empty hphase hblank hfailure =>
      rw [hphase, hfailure]
      rfl
  | unclosed hcursor => exact hcursor
  | run statement hruns => exact hruns.cursor_eq

private theorem Change.fails {state : State} {phase : Phase} {cues : List Cue}
    (h : Change raised w state phase cues) (hrunning : 0 < w.phase.rank)
    (hidle : w.phase = .idle → w.state = .fresh) (hfailed : phase = .stopped (.failed failure)) :
    w.Fails failure ∧ state = w.state := by
  have hmoved (next : Nat) : w.phase.movedTo next ≠ .stopped (.failed failure) := by
    intro heq
    rw [← w.phase.rank_movedTo next, heq] at hrunning
    exact absurd hrunning (Nat.lt_irrefl 0)
  cases h with
  | empty hphase hblank =>
      cases hfailed
      exact ⟨.empty hphase hblank rfl, (hidle hphase).symm⟩
  | unclosed cursor closing? hphase hread hblock =>
      cases hfailed
      exact ⟨.unclosed (by rw [hphase]; rfl) ⟨hread, hblock, rfl⟩, rfl⟩
  | failed line statement fault hruns hexec =>
      cases hfailed
      exact ⟨.run statement hruns hexec, rfl⟩
  | entersSetup cursor closing? block =>
      simp only [Phase.movedTo] at hfailed
      cases hfailed
  | entersLoop => split at hfailed <;> cases hfailed
  | blankInSetup => exact absurd hfailed (hmoved _)
  | passedOver => exact absurd hfailed (hmoved _)
  | quiet => exact absurd hfailed (hmoved _)
  | effect => exact absurd hfailed (hmoved _)
  | taken => exact absurd hfailed (hmoved _)
  | skipped => exact absurd hfailed (hmoved _)
  | _ => cases hfailed

/-- The step that fails leaves the state alone. -/
theorem fails_of_step (hrunning : 0 < w.phase.rank)
    (hidle : w.phase = .idle → w.state = .fresh)
    (hfailed : (w.step raised).phase = .stopped (.failed failure)) :
    w.Fails failure ∧ (w.step raised).state = w.state := by
  obtain ⟨state, phase, cues, hchange, hstep⟩ := step_changes raised w hrunning
  rw [hstep] at hfailed ⊢
  exact hchange.fails hrunning hidle hfailed

theorem Fails.classified {source : Text} (h : w.Fails failure)
    (hidle : w.phase = .idle → w.state = .fresh) (hprogram : w.program = .ofSource source) :
    failure.IsOfEmptySource source w.state ∨ failure.IsOfUnclosedSection (.ofSource source) ∨
      failure.Replays (.ofSource source) w.state := by
  rw [← hprogram]
  cases h with
  | empty hphase hblank hfailure =>
      rw [hprogram] at hblank
      exact .inl ⟨hfailure, Program.isBlank_ofSource_iff.mp hblank, hidle hphase⟩
  | unclosed hcursor hsection => exact .inr (.inl hsection)
  | run statement hruns hexec =>
      refine .inr (.inr ⟨statement, hruns.statement?_eq, hexec, ?_⟩)
      rw [on_perform, hexec]

/-- A failure is replayable and atomic. For every source and number of passes, a run that reports a
failure has found nothing on any line, or a section without a block, or a line that fails again in
the same way, and writes nothing, when it is run alone on the reported state; and exactly one of
these. The reported state is the one that the last step of the run found, with the cursor on the
reported line, and no line is run after it. -/
theorem failure_replayable {source : Text} {passes : Nat} {failure : Failure}
    (h : (runSilent source passes).outcome = .failed failure) :
    let program := Program.ofSource source
    let s := (runSilent source passes).state
    ((failure.IsOfEmptySource source s ∧ ¬failure.IsOfUnclosedSection program ∧
        ¬failure.Replays program s) ∨
      (¬failure.IsOfEmptySource source s ∧ failure.IsOfUnclosedSection program ∧
        ¬failure.Replays program s) ∨
      (¬failure.IsOfEmptySource source s ∧ ¬failure.IsOfUnclosedSection program ∧
        failure.Replays program s)) ∧
    ∃ last, (silentAt program passes last).phase.cursor = failure.line ∧
      (silentAt program passes last).state = s ∧
      (silentAt program passes (last + 1)).phase = .stopped (.failed failure) ∧
      ∀ later > last, ∀ line statement, ¬(silentAt program passes later).Runs line statement := by
  intro program s
  obtain ⟨last, outcome, hrunning, hstopped⟩ := exists_last_silentAt program passes
  have hreport := runSilent_eq_of_reaches (reaches_silentAt program passes (last + 1)) hstopped
  obtain rfl : outcome = .failed failure := by
    rw [hreport] at h
    exact h
  have hidle (hphase : (silentAt program passes last).phase = .idle) :
      (silentAt program passes last).state = .fresh := by
    rw [silentAt_of_idle program passes last hphase]
    rfl
  have hfailed := hstopped
  rw [silentAt_succ] at hfailed
  obtain ⟨hfails, hstate⟩ := fails_of_step hrunning hidle hfailed
  have hfound : (silentAt program passes last).state = s := by
    rw [← hstate, ← silentAt_succ]
    exact (congrArg Report.state hreport).symm
  refine ⟨?_, last, hfails.cursor_eq, hfound, hstopped, ?_⟩
  · have hclassified := hfails.classified hidle (program_silentAt program passes last)
    rw [hfound] at hclassified
    rcases hclassified with hempty | hsection | hreplays
    · refine .inl ⟨hempty, ?_, ?_⟩
      · intro hsection
        exact hsection.not_isOfEmptySource hempty
      · intro hreplays
        exact hreplays.not_isOfEmptySource hempty
    · refine .inr (.inl ⟨hsection.not_isOfEmptySource, hsection, ?_⟩)
      intro hreplays
      exact hreplays.not_isOfUnclosedSection hsection
    · exact .inr (.inr ⟨hreplays.not_isOfEmptySource, hreplays.not_isOfUnclosedSection, hreplays⟩)
  · intro later hlater line statement
    rw [silentAt_of_stopped hstopped hlater]
    exact not_runs_of_stopped hstopped line statement

/-- The third line of the setup switches a pin that was never declared, after two lines that changed
the state. -/
theorem failure_replayable_undeclaredPin :
    let source := "void setup()\n\x7b\npin1;\npin1_allumé;\npin2_allumé;\n\x7d".toList
    let failure : Failure := ⟨4, .pinNotDeclared .pin2⟩
    let program := Program.ofSource source
    let s := (runSilent source 1).state
    (runSilent source 1).outcome = .failed failure ∧ (s.pins.get .pin1).on = true ∧
      failure.Replays program s ∧
      ∃ last, (silentAt program 1 last).phase.cursor = 4 ∧ (silentAt program 1 last).state = s ∧
        (silentAt program 1 (last + 1)).phase = .stopped (.failed failure) ∧
        ∀ later > last, ∀ line statement, ¬(silentAt program 1 later).Runs line statement := by
  intro source failure program s
  have hstopped : (silentAt program 1 6).phase = .stopped (.failed failure) := by decide
  have hreport : runSilent source 1 = ⟨(silentAt program 1 6).state, .failed failure⟩ :=
    runSilent_eq_of_reaches (reaches_silentAt program 1 6) hstopped
  have houtcome : (runSilent source 1).outcome = .failed failure := congrArg Report.outcome hreport
  have hlit : (s.pins.get .pin1).on = true := by
    change ((runSilent source 1).state.pins.get .pin1).on = true
    rw [hreport]
    decide
  obtain ⟨hkind, hlast⟩ := failure_replayable houtcome
  refine ⟨houtcome, hlit, ?_, hlast⟩
  rcases hkind with ⟨hempty, _⟩ | ⟨_, hsection, _⟩ | ⟨_, _, hreplays⟩
  · exact absurd hempty.1 (by decide)
  · exact absurd hsection.2.2 (by decide)
  · exact hreplays

end Walk

end Breadboard
