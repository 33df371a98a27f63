import Breadboard.Grading
import Breadboard.Proofs.Execute
import Breadboard.Proofs.Program.Layout
import Breadboard.Proofs.Statement

/-!
Layout does not matter. A silent run of a program that is spaced out is followed step by step beside
a run of the program itself. At a line that both have they take the same step, and at a line that
was put in the other run goes on alone. Both find the same state on the way, so when the one stops
the other does, for the same reason, and a failure names the line in its new place.
-/

namespace Breadboard

/-- The failure on the line that it has been moved to. -/
def Failure.relocate (place : Nat → Nat) (f : Failure) : Failure :=
  { f with line := place f.line }

def Outcome.relocate (place : Nat → Nat) : Outcome → Outcome
  | .failed failure => .failed (failure.relocate place)
  | outcome => outcome

def Report.relocate (place : Nat → Nat) (r : Report) : Report :=
  { r with outcome := r.outcome.relocate place }

def Grade.relocate (place : Nat → Nat) : Grade → Grade
  | .failed failure => .failed (failure.relocate place)
  | grade => grade

def Transition.relocate (place : Nat → Nat) : Transition → Transition
  | .branch taken block => .branch taken (block.relocate place)
  | transition => transition

/-- A statement only passes its block on. -/
theorem execute_relocate (statement : Statement) (block? : Option Block) (s : State)
    (place : Nat → Nat) :
    execute statement (block?.map (Block.relocate place)) s =
      (execute statement block? s).map fun (transition, after) =>
        (transition.relocate place, after) := by
  cases statement with
  | declare digits =>
      simp only [execute]
      cases findPin digits <;> rfl
  | switch digits on =>
      simp only [execute]
      cases findPin digits with
      | error fault => rfl
      | ok pin =>
          change (s.switch pin on >>= _) = Except.map _ (s.switch pin on >>= _)
          cases s.switch pin on <;> rfl
  | conditional condition =>
      cases block? with
      | none => rfl
      | some block =>
          change (s.evaluate condition >>= _) = Except.map _ (s.evaluate condition >>= _)
          cases s.evaluate condition <;> rfl
  | _ => rfl

open Spaced

/-- The second phase is that of a run that is spaced out, at the same point. -/
inductive Phase.Beside (count : Nat) (place : Nat → Nat) : Phase → Phase → Prop where
  | idle : Beside count place .idle .idle
  | setup {cursor moved : Nat} {closing? : Option Nat} (hmeets : Meets count place cursor moved)
      (hclosing : ∀ closing ∈ closing?, closing < count ∧ cursor ≤ closing) :
      Beside count place (.setup cursor closing?) (.setup moved (closing?.map place))
  | loop {cursor moved : Nat} {block : Block} (done : Nat) (hmeets : Meets count place cursor moved)
      (hle : block.opening ≤ block.closing) (hclosing : block.closing < count) :
      Beside count place (.loop block cursor done) (.loop (block.relocate place) moved done)
  | stopped (outcome : Outcome) :
      Beside count place (.stopped outcome) (.stopped (outcome.relocate place))

namespace Phase.Beside

variable {count : Nat} {place : Nat → Nat} {phase phase' : Phase} {next next' : Nat}

theorem movedTo (h : Beside count place phase phase') (hnext : Meets count place next next') :
    Beside count place (phase.movedTo next) (phase'.movedTo next') := by
  cases h with
  | idle => exact .idle
  | setup hmeets hclosing =>
      next cursor moved closing? =>
      cases closing? with
      | none => exact .setup hnext (by simp)
      | some closing =>
          obtain ⟨hlt, _⟩ := hclosing closing rfl
          simp only [Option.map_some, Phase.movedTo, hnext closing hlt]
          by_cases hpast : closing < next
          · rw [if_pos hpast, if_pos hpast]
            exact .setup hnext (by simp)
          · rw [if_neg hpast, if_neg hpast]
            refine .setup hnext ?_
            rintro _ ⟨⟩
            exact ⟨hlt, Nat.le_of_not_lt hpast⟩
  | loop done hmeets hle hclosing => exact .loop done hnext hle hclosing
  | stopped outcome => exact .stopped outcome

theorem movedFrom (h : Beside count place phase phase') (hnext : Meets count place next next')
    (s : State) : s.movedFrom phase' next' = s.movedFrom phase next := by
  cases h with
  | setup hmeets hclosing =>
      next cursor moved closing? =>
      cases closing? with
      | none => rfl
      | some closing =>
          obtain ⟨hlt, _⟩ := hclosing closing rfl
          simp only [Option.map_some, State.movedFrom, hnext closing hlt]
  | _ => rfl

end Phase.Beside

namespace Walk

/-- Two silent walks at the same point, the second of them through a program that is spaced out. -/
structure Beside (place : Nat → Nat) (passes : Nat) (w v : Walk) : Prop where
  spaced : w.program.SpacedBy place v.program
  nonblank : w.program.isBlank = false
  silent : w.IsSilent passes
  silentSpaced : v.IsSilent passes
  state : v.state = w.state
  phase : Phase.Beside w.program.length place w.phase v.phase

theorem moveTo_of_setup {w : Walk} {cursor : Nat} {closing? : Option Nat}
    (hphase : w.phase = .setup cursor closing?) (hclosing : ∀ closing ∈ closing?, cursor ≤ closing) :
    w.moveTo cursor = w := by
  cases closing? with
  | none =>
      unfold moveTo
      rw [hphase]
      exact congrArg (fun phase => { w with phase }) hphase.symm
  | some closing =>
      have hinside : ¬ closing < cursor := Nat.not_lt_of_le (hclosing closing rfl)
      unfold moveTo
      rw [hphase]
      simp only [if_neg hinside]
      exact congrArg (fun phase => { w with phase }) hphase.symm

theorem moveTo_of_loop {w : Walk} {block : Block} {cursor done : Nat}
    (hphase : w.phase = .loop block cursor done) : w.moveTo cursor = w := by
  unfold moveTo
  rw [hphase]
  exact congrArg (fun phase => { w with phase }) hphase.symm

namespace Beside

variable {place : Nat → Nat} {passes : Nat} {w v : Walk} (h : w.Beside place passes v)

include h

theorem update (state : State) {phase phase' : Phase}
    (hphase : Phase.Beside w.program.length place phase phase') :
    Beside place passes { w with state, phase } { v with state, phase := phase' } :=
  ⟨h.spaced, h.nonblank, ⟨h.silent.mode, h.silent.pending⟩,
    ⟨h.silentSpaced.mode, h.silentSpaced.pending⟩, rfl, hphase⟩

theorem withState (state : State) : Beside place passes { w with state } { v with state } :=
  h.update state h.phase

theorem moveTo {next next' : Nat} (hnext : Meets w.program.length place next next') :
    (w.moveTo next).Beside place passes (v.moveTo next') := by
  rw [moveTo_eq, moveTo_eq, h.phase.movedFrom hnext, h.state]
  exact h.update _ (h.phase.movedTo hnext)

theorem finish (outcome : Outcome) :
    (w.finish outcome).Beside place passes (v.finish (outcome.relocate place)) := by
  have hstopped := h.update w.state (.stopped outcome)
  unfold Walk.finish
  rw [← h.state] at hstopped ⊢
  exact hstopped

variable {cursor : Nat} (hcursor : cursor < w.program.length)

include hcursor

theorem runLine (statement : Statement) :
    (w.runLine .standard cursor statement).Beside place passes
      (v.runLine .standard (place cursor) statement) := by
  have hspaced : execute statement (v.program.block? (place cursor)) v.state =
      (execute statement (w.program.block? cursor) w.state).map fun (transition, after) =>
        (transition.relocate place, after) := by
    rw [h.spaced.block?_place hcursor, h.state, execute_relocate]
  cases hexec : execute statement (w.program.block? cursor) w.state with
  | error fault =>
      rw [hexec] at hspaced
      rw [h.silent.runLine_of_error hexec, h.silentSpaced.runLine_of_error hspaced]
      exact h.finish (.failed ⟨cursor, fault⟩)
  | ok result =>
      obtain ⟨transition, after⟩ := result
      rw [hexec] at hspaced
      rw [h.silent.runLine_of_ok hexec, h.silentSpaced.runLine_of_ok hspaced]
      apply (h.withState after).moveTo
      cases transition with
      | branch taken block =>
          cases taken with
          | true => exact h.spaced.meets_succ_place hcursor
          | false =>
              obtain ⟨_, _, hblock, _, _⟩ := execute_eq_branch hexec
              exact h.spaced.meets_succ_place (Program.closing_lt_of_block? hblock)
      | _ => exact h.spaced.meets_succ_place hcursor

theorem enterSetup :
    (w.enterSetup cursor).Beside place passes (v.enterSetup (place cursor)) := by
  unfold Walk.enterSetup
  simp only [highlight_eq_queue, release_eq_queue, fail_eq_queue, queue_of_silent h.silent.mode,
    queue_of_silent h.silentSpaced.mode, h.spaced.block?_place hcursor]
  cases hblock : w.program.block? cursor with
  | none => exact h.finish (.failed ⟨cursor, .unclosedBlock⟩)
  | some block =>
      have hbounds := Program.le_of_block? hblock
      have hinside : Phase.Beside w.program.length place (.setup cursor (some block.closing))
          (.setup (place cursor) ((some block.closing).map place)) := by
        refine .setup (h.spaced.meets_place hcursor) ?_
        rintro _ ⟨⟩
        exact ⟨Program.closing_lt_of_block? hblock, Nat.le_trans hbounds.1 hbounds.2⟩
      have hentered := h.update (w.state.inRegion .setup) hinside
      have hmoved := hentered.moveTo (h.spaced.meets_succ_place hcursor)
      unfold insideSetup
      rw [h.state]
      exact hmoved

theorem enterLoop :
    (w.enterLoop cursor).Beside place passes (v.enterLoop (place cursor)) := by
  unfold Walk.enterLoop
  simp only [highlight_eq_queue, release_eq_queue, fail_eq_queue, queue_of_silent h.silent.mode,
    queue_of_silent h.silentSpaced.mode, h.spaced.block?_place hcursor, h.silent.mode,
    h.silentSpaced.mode]
  cases hblock : w.program.block? cursor with
  | none => exact h.finish (.failed ⟨cursor, .unclosedBlock⟩)
  | some block =>
      have hle := (Program.le_of_block? hblock).2
      have hclosing := Program.closing_lt_of_block? hblock
      have hinside := h.update (w.state.inRegion .loop)
        (.loop 0 (h.spaced.meets_bodyStart hle hclosing) hle hclosing)
      have hentered : (w.insideLoop block).Beside place passes
          (v.insideLoop (block.relocate place)) := by
        unfold insideLoop
        rw [h.state]
        exact hinside
      dsimp only [Option.map_some]
      split
      · exact hentered
      · exact hentered.finish .completed

omit hcursor

/-- The first step finds neither program blank. -/
theorem begin : w.begin.Beside place passes v.begin := by
  have hv := h.spaced.isBlank_eq_false h.nonblank
  unfold Walk.begin
  dsimp only
  rw [if_neg (by simp [h.nonblank]), if_neg (by simp [hv])]
  exact h.update .fresh (.setup (meets_zero _ place) (by simp))

/-- Both are at a line that the programs share. -/
theorem stepSetup_place (hcursor : cursor < w.program.length) :
    (w.stepSetup .standard cursor).Beside place passes
      (v.stepSetup .standard (place cursor)) := by
  have hnext := h.spaced.meets_succ_place hcursor
  unfold Walk.stepSetup
  rw [h.spaced.statement?_place hcursor, h.state]
  split
  · exact h.finish .completed
  · exact h.moveTo hnext
  · exact h.enterSetup hcursor
  · exact h.enterLoop hcursor
  · split
    · exact h.runLine hcursor _
    · simp only [highlight_eq_queue, release_eq_queue, queue_of_silent h.silent.mode,
        queue_of_silent h.silentSpaced.mode]
      exact h.moveTo hnext

theorem stepSetup {moved : Nat} {closing? : Option Nat}
    (hphase : w.phase = .setup cursor closing?)
    (hclosing : ∀ closing ∈ closing?, cursor ≤ closing)
    (hmeets : Meets w.program.length place cursor moved) :
    w.Beside place passes (v.stepSetup .standard moved) ∨
      (w.stepSetup .standard cursor).Beside place passes (v.stepSetup .standard moved) := by
  rcases h.spaced.ahead hmeets with ⟨hend, hmoved⟩ | ⟨hblank, hnext⟩ | ⟨hcursor, rfl⟩
  · right
    simp only [Walk.stepSetup, Program.statement?_of_length_le hend,
      Program.statement?_of_length_le hmoved]
    exact h.finish .completed
  · -- A line that was put in: the other run moves to the line it is on, which is to stay.
    left
    have halone := h.moveTo hnext
    rw [moveTo_of_setup hphase hclosing] at halone
    simp only [Walk.stepSetup, Program.statement?_of_blank hblank]
    exact halone
  · right
    exact h.stepSetup_place hcursor

theorem endPass {block : Block} (hle : block.opening ≤ block.closing)
    (hclosing : block.closing < w.program.length) (done : Nat) :
    (w.endPass block done).Beside place passes (v.endPass (block.relocate place) done) := by
  rw [h.silent.endPass_eq, h.silentSpaced.endPass_eq]
  split
  · have hagain := h.update w.state
      (.loop (done + 1) (h.spaced.meets_bodyStart hle hclosing) hle hclosing)
    rw [← h.state] at hagain ⊢
    exact hagain
  · exact h.finish .completed

/-- Both are at a line that the programs share, inside the body of the loop or behind it. -/
theorem stepLoop_place {block : Block} (hle : block.opening ≤ block.closing)
    (hclosing : block.closing < w.program.length) (hcursor : cursor < w.program.length)
    (done : Nat) :
    (w.stepLoop .standard block cursor done).Beside place passes
      (v.stepLoop .standard (block.relocate place) (place cursor) done) := by
  have hbody : (block.relocate place).bodyEnd ≤ place cursor ↔ block.bodyEnd ≤ cursor := by
    have := h.spaced.meets_bodyEnd hle hclosing cursor hcursor
    omega
  unfold Walk.stepLoop
  simp only [hbody, h.spaced.statement?_place hcursor]
  split
  · exact h.endPass hle hclosing done
  · split
    · exact h.finish .completed
    · simp only [pause_eq_queue, queue_of_silent h.silent.mode,
        queue_of_silent h.silentSpaced.mode]
      exact h.moveTo (h.spaced.meets_succ_place hcursor)
    · exact h.runLine hcursor _

theorem stepLoop {moved done : Nat} {block : Block} (hphase : w.phase = .loop block cursor done)
    (hle : block.opening ≤ block.closing) (hclosing : block.closing < w.program.length)
    (hmeets : Meets w.program.length place cursor moved) :
    w.Beside place passes (v.stepLoop .standard (block.relocate place) moved done) ∨
      (w.stepLoop .standard block cursor done).Beside place passes
        (v.stepLoop .standard (block.relocate place) moved done) := by
  by_cases hover : (block.relocate place).bodyEnd ≤ moved
  · right
    have hpast := h.spaced.bodyEnd_le_of_relocate hle hclosing hmeets hover
    simp only [Walk.stepLoop, if_pos hover, if_pos hpast]
    exact h.endPass hle hclosing done
  · rcases h.spaced.ahead hmeets with ⟨_, hmoved⟩ | ⟨hblank, hnext⟩ | ⟨hcursor, rfl⟩
    · exact absurd (Nat.le_trans (h.spaced.bodyEnd_relocate_le hle hclosing) hmoved) hover
    · left
      have halone := h.moveTo hnext
      rw [moveTo_of_loop hphase] at halone
      simp only [Walk.stepLoop, if_neg hover, Program.statement?_of_blank hblank, pause_eq_queue,
        queue_of_silent h.silentSpaced.mode]
      exact halone
    · right
      exact h.stepLoop_place hle hclosing hcursor done

/-- The run of the program that is spaced out takes a step. The other one takes it too, or waits
while the line is one that was put in. -/
theorem step : w.Beside place passes (v.step false) ∨
    (w.step false).Beside place passes (v.step false) := by
  have hphase := h.phase
  generalize hw : w.phase = phase at hphase
  generalize hv : v.phase = phase' at hphase
  unfold Walk.step Walk.stepBy
  rw [hw, hv]
  cases hphase with
  | idle => exact .inr h.begin
  | setup hmeets hclosing =>
      exact h.stepSetup hw (fun closing hmem => (hclosing closing hmem).2) hmeets
  | loop done hmeets hle hclosing => exact h.stepLoop hw hle hclosing hmeets
  | stopped outcome => exact .inl h

end Beside

/-- Where the run of the program that is spaced out stops, the other one stops, with the same state
and the same outcome, up to the place of a failure. -/
theorem Beside.exists_stopped {place : Nat → Nat} {passes count : Nat} {w v : Walk}
    {outcome' : Outcome} (h : w.Beside place passes v)
    (hstopped : ((Walk.step false)^[count] v).phase = .stopped outcome') :
    ∃ u outcome, w.Reaches u ∧ u.phase = .stopped outcome ∧ outcome' = outcome.relocate place ∧
      ((Walk.step false)^[count] v).state = u.state := by
  -- The induction is on the steps of the run that is spaced out, which never waits.
  induction count generalizing w v with
  | zero =>
      have hphase := h.phase
      change v.phase = .stopped outcome' at hstopped
      rw [hstopped] at hphase
      generalize hw : w.phase = phase at hphase
      cases hphase with
      | stopped outcome => exact ⟨w, outcome, .refl w, hw, rfl, h.state⟩
  | succ count ih =>
      rw [Function.iterate_succ_apply] at hstopped ⊢
      rcases h.step with hwait | hboth
      · exact ih hwait hstopped
      · obtain ⟨u, outcome, hreaches, hrest⟩ := ih hboth hstopped
        exact ⟨u, outcome, .next rfl hreaches, hrest⟩

end Walk

section Source

variable {source source' : Text} {place : Nat → Nat}
  (hlayout : Spaced [] (source.lines.map Text.trim) (source'.lines.map Text.trim) place)
  (hnonblank : ∃ line ∈ source.lines, line.trim ≠ [])

include hlayout hnonblank

theorem runSilent_spaced (passes : Nat) :
    runSilent source' passes = (runSilent source passes).relocate place := by
  obtain ⟨line, hmem, hline⟩ := hnonblank
  have hblank : (Program.ofSource source).isBlank = false := by
    apply Program.isBlank_eq_false_iff.mpr
    refine ⟨Line.ofText line, List.mem_map_of_mem hmem, ?_⟩
    intro hstatement
    exact hline (Statement.ofTrimmed_eq_blank_iff.mp hstatement)
  have hstart : (Walk.silent (.ofSource source) passes).Beside place passes
      (Walk.silent (.ofSource source') passes) :=
    ⟨Program.spacedBy_ofSource hlayout, hblank, Walk.isSilent_silent _ _,
      Walk.isSilent_silent _ _, rfl, .idle⟩
  obtain ⟨v, outcome', ⟨count, rfl⟩, hstopped⟩ :=
    (Walk.isSilent_silent (.ofSource source') passes).exists_stopped
  obtain ⟨u, outcome, hreaches, hu, rfl, hstate⟩ := hstart.exists_stopped hstopped
  rw [runSilent_eq_of_reaches ⟨count, rfl⟩ hstopped, runSilent_eq_of_reaches hreaches hu, hstate]
  rfl

theorem grade_spaced (e : Expectation) (walkLoop : Option Bool) :
    e.grade source' walkLoop = (e.grade source walkLoop).relocate place := by
  have hpins := (Program.spacedBy_ofSource hlayout).loopHasPinActions_eq
  unfold Expectation.grade
  simp only [hpins, runSilent_spaced hlayout hnonblank]
  generalize runSilent source _ = report
  obtain ⟨state, outcome⟩ := report
  have hgrade : (e.gradeState state).relocate place = e.gradeState state := by
    unfold Expectation.gradeState
    split <;> rfl
  cases outcome with
  | failed failure => rfl
  | _ => exact hgrade.symm

end Source

/-- Layout does not matter. Take a source with a line that is not blank, and another one whose lines
are the same up to the blanks around them, with blank lines put in anywhere; `place` says where a
line has gone. For every number of passes the two leave the same state and have the same outcome,
and for every expectation and every choice about the loop they are graded alike, except that a
failure is reported in the new place of its line. -/
theorem layout_does_not_matter {source source' : Text} {place : Nat → Nat}
    (hlayout : Spaced [] (source.lines.map Text.trim) (source'.lines.map Text.trim) place)
    (hnonblank : ∃ line ∈ source.lines, line.trim ≠ []) :
    (∀ passes, runSilent source' passes = (runSilent source passes).relocate place) ∧
    ∀ (e : Expectation) (walkLoop : Option Bool),
      e.grade source' walkLoop = (e.grade source walkLoop).relocate place := by
  constructor
  · exact runSilent_spaced hlayout hnonblank
  · exact grade_spaced hlayout hnonblank

/-- A line without its semicolon is moved from line 2 to line 5. -/
theorem layout_does_not_matter_missingSemicolon :
    let source : Text := "void setup()\n\x7b\nx = 1\n\x7d".toList
    let source' : Text := "\n  void setup()  \n\t\n\x7b\n\n x = 1\t\n\x7d".toList
    let place (line : Nat) : Nat := [1, 3, 5, 6].getD line 0
    Spaced [] (source.lines.map Text.trim) (source'.lines.map Text.trim) place ∧
      (∃ line ∈ source.lines, line.trim ≠ []) ∧
      (runSilent source 1).outcome = .failed ⟨2, .missingSemicolon⟩ ∧
      (runSilent source' 1).outcome = .failed ⟨5, .missingSemicolon⟩ ∧
      ∀ (e : Expectation) (walkLoop : Option Bool),
        e.grade source' walkLoop = (e.grade source walkLoop).relocate place := by
  intro source source' place
  have hlayout : Spaced [] (source.lines.map Text.trim) (source'.lines.map Text.trim) place :=
    ⟨by decide, by decide, by decide⟩
  have hnonblank : ∃ line ∈ source.lines, line.trim ≠ [] := by decide
  obtain ⟨hruns, hgrades⟩ := layout_does_not_matter hlayout hnonblank
  have hsource : (runSilent source 1).outcome = .failed ⟨2, .missingSemicolon⟩ := by
    rw [runSilent_eq_of_reaches ⟨4, rfl⟩
      (show _ = Phase.stopped (.failed ⟨2, .missingSemicolon⟩) by decide)]
  refine ⟨hlayout, hnonblank, hsource, ?_, hgrades⟩
  rw [hruns, Report.relocate, hsource]
  rfl

end Breadboard
