import Breadboard.Walk

/-!
Cues of a walk, one at a time or up to a pause. Between two cues a walk may take several steps,
because blank lines and silent lines queue nothing, but it cannot take steps for ever: within a
section the cursor only moves down, and the end of a pass either queues a pause or uses up one of
the passes that a silent walk was given.
-/

namespace Breadboard

def Cue.isPause : Cue → Bool
  | .pause _ => true
  | .event _ => false

/-- Sections that still lie ahead. -/
def Phase.rank : Phase → Nat
  | .idle => 3
  | .setup _ _ => 2
  | .loop _ _ _ => 1
  | .stopped _ => 0

namespace Walk

section Untouched

variable (w : Walk)

@[simp]
theorem phase_push (cue : Cue) : (w.push cue).phase = w.phase := by
  unfold push; split <;> rfl

@[simp]
theorem mode_push (cue : Cue) : (w.push cue).mode = w.mode := by
  unfold push; split <;> simp_all

@[simp]
theorem program_push (cue : Cue) : (w.push cue).program = w.program := by
  unfold push; split <;> rfl

@[simp]
theorem phase_pause (ms : Nat) : (w.pause ms).phase = w.phase := by
  unfold pause; split <;> simp

@[simp]
theorem mode_pause (ms : Nat) : (w.pause ms).mode = w.mode := by
  unfold pause; split <;> simp

@[simp]
theorem program_pause (ms : Nat) : (w.pause ms).program = w.program := by
  unfold pause; split <;> simp

@[simp]
theorem phase_pauses (count : Nat) : (w.pauses count).phase = w.phase := by
  induction count generalizing w with
  | zero => rfl
  | succ count ih => simp [pauses, ih]

@[simp]
theorem mode_pauses (count : Nat) : (w.pauses count).mode = w.mode := by
  induction count generalizing w with
  | zero => rfl
  | succ count ih => simp [pauses, ih]

@[simp]
theorem program_pauses (count : Nat) : (w.pauses count).program = w.program := by
  induction count generalizing w with
  | zero => rfl
  | succ count ih => simp [pauses, ih]

@[simp]
theorem phase_emit (h : Happening) : (w.emit h).phase = w.phase := by simp [emit]

@[simp]
theorem mode_emit (h : Happening) : (w.emit h).mode = w.mode := by simp [emit]

@[simp]
theorem program_emit (h : Happening) : (w.emit h).program = w.program := by simp [emit]

@[simp]
theorem phase_highlight (line : Nat) : (w.highlight line).phase = w.phase := by simp [highlight]

@[simp]
theorem mode_highlight (line : Nat) : (w.highlight line).mode = w.mode := by simp [highlight]

@[simp]
theorem program_highlight (line : Nat) : (w.highlight line).program = w.program := by
  simp [highlight]

@[simp]
theorem phase_release (line ms : Nat) : (w.release line ms).phase = w.phase := by simp [release]

@[simp]
theorem mode_release (line ms : Nat) : (w.release line ms).mode = w.mode := by simp [release]

@[simp]
theorem program_release (line ms : Nat) : (w.release line ms).program = w.program := by
  simp [release]

@[simp]
theorem phase_finish (outcome : Outcome) : (w.finish outcome).phase = .stopped outcome := rfl

@[simp]
theorem mode_finish (outcome : Outcome) : (w.finish outcome).mode = w.mode := rfl

@[simp]
theorem program_finish (outcome : Outcome) : (w.finish outcome).program = w.program := rfl

@[simp]
theorem phase_fail (line : Nat) (fault : Fault) :
    (w.fail line fault).phase = .stopped (.failed ⟨line, fault⟩) := rfl

@[simp]
theorem mode_moveTo (cursor : Nat) : (w.moveTo cursor).mode = w.mode := by
  unfold moveTo; split <;> (try split) <;> rfl

@[simp]
theorem program_moveTo (cursor : Nat) : (w.moveTo cursor).program = w.program := by
  unfold moveTo; split <;> (try split) <;> rfl

@[simp]
theorem phase_insideSetup (line closing : Nat) :
    (w.insideSetup line closing).phase = .setup line (some closing) := rfl

@[simp]
theorem program_insideSetup (line closing : Nat) :
    (w.insideSetup line closing).program = w.program := rfl

end Untouched

def passesAhead (w : Walk) : Nat :=
  match w.phase, w.mode with
  | .loop _ _ passes, .silent limit => limit - passes
  | _, _ => 0

def linesAhead (w : Walk) : Nat :=
  match w.phase with
  | .setup cursor _ => w.program.length - cursor
  | .loop block cursor _ => block.bodyEnd - cursor
  | _ => 0

/-- How far a walk is from its next pause or its end: sections, then passes, then lines. A walk
with a pause pending is there. -/
def distance (w : Walk) : Nat × Nat × Nat :=
  (if w.pending.any Cue.isPause then 0 else w.phase.rank, w.passesAhead, w.linesAhead)

/-- `w` is strictly closer to its next pause or end than `v`. -/
def Closer (w v : Walk) : Prop :=
  Prod.Lex (· < ·) (Prod.Lex (· < ·) (· < ·)) w.distance v.distance

theorem closer_of_rank {w v : Walk} (hv : v.pending = []) (h : w.phase.rank < v.phase.rank) :
    Closer w v := by
  refine Prod.Lex.left _ _ ?_
  simp only [hv, List.any_nil, Bool.false_eq_true, if_false]
  split <;> omega

theorem closer_of_pause {w v : Walk} (hv : v.pending = []) (h : 0 < v.phase.rank)
    (hw : w.pending.any Cue.isPause = true) : Closer w v := by
  refine Prod.Lex.left _ _ ?_
  simpa [hv, hw] using h

theorem closer_of_passes {w v : Walk} (hv : v.pending = []) (hr : 0 < v.phase.rank)
    (h : w.phase.rank = v.phase.rank)
    (hahead : Prod.Lex (· < ·) (· < ·) (w.passesAhead, w.linesAhead)
      (v.passesAhead, v.linesAhead)) :
    Closer w v := by
  by_cases hw : w.pending.any Cue.isPause = true
  · exact closer_of_pause hv hr hw
  · simp only [Closer, distance, hw, hv, List.any_nil, Bool.false_eq_true, if_false, h]
    exact Prod.Lex.right _ hahead

theorem lt_length_of_statement? {p : Program} {index : Nat} {statement : Statement}
    (h : p.statement? index = some statement) : index < p.length := by
  obtain ⟨line, hline, _⟩ := Option.map_eq_some_iff.mp h
  exact (List.getElem?_eq_some_iff.mp hline).1

theorem phase_moveTo_of_setup {w : Walk} {cursor : Nat} {closing? : Option Nat}
    (h : w.phase = .setup cursor closing?) (next : Nat) :
    ∃ closing?, (w.moveTo next).phase = .setup next closing? := by
  unfold moveTo
  rw [h]
  cases closing? with
  | none => exact ⟨_, rfl⟩
  | some closing =>
      by_cases hlt : closing < next
      · exact ⟨none, by simp [hlt]⟩
      · exact ⟨some closing, by simp [hlt]⟩

theorem phase_moveTo_of_loop {w : Walk} {block : Block} {cursor passes : Nat}
    (h : w.phase = .loop block cursor passes) (next : Nat) :
    (w.moveTo next).phase = .loop block next passes := by
  unfold moveTo
  rw [h]

/-- A line that ran has stopped the walk or moved it down. -/
theorem runLine_eq (w : Walk) (line : Nat) (statement : Statement) :
    (∃ fault, w.runLine .standard line statement = (w.highlight line).fail line fault) ∨
      ∃ (v : Walk) (next : Nat), w.runLine .standard line statement = v.moveTo next ∧
        line < next ∧ v.phase = w.phase ∧ v.mode = w.mode ∧ v.program = w.program := by
  unfold runLine
  dsimp only
  split
  · exact .inl ⟨_, rfl⟩
  · next transition state hrun =>
    refine .inr ?_
    split
    · exact ⟨_, _, rfl, Nat.lt_succ_self _, by simp, by simp, by simp⟩
    · exact ⟨_, _, rfl, Nat.lt_succ_self _, by simp, by simp, by simp⟩
    · next taken block =>
      split
      · exact ⟨_, _, rfl, Nat.lt_succ_self _, by simp, by simp, by simp⟩
      · refine ⟨_, _, rfl, ?_, by simp, by simp, by simp⟩
        have hblock : w.program.block? line = some block := by
          change execute statement (w.program.block? line) w.state = _ at hrun
          revert hrun
          unfold execute
          cases statement <;> simp [findPin, bind, Except.bind, pure, Except.pure] <;>
            (repeat' split) <;> simp_all
        have := Program.le_of_block? hblock
        omega

theorem closer_moveTo_of_setup {w v : Walk} {cursor next : Nat} {closing? : Option Nat}
    (hv : v.pending = []) (hphase : v.phase = .setup cursor closing?)
    (hcursor : cursor < v.program.length) (hnext : cursor < next) (h : w.phase = v.phase)
    (hprogram : w.program = v.program) : Closer (w.moveTo next) v := by
  obtain ⟨closing?, hw⟩ := phase_moveTo_of_setup (h.trans hphase) next
  refine closer_of_passes hv (by simp [hphase, Phase.rank]) (by simp [hw, hphase, Phase.rank]) ?_
  simp only [passesAhead, linesAhead, hw, hphase, program_moveTo, hprogram]
  exact Prod.Lex.right _ (by omega)

theorem closer_moveTo_of_loop {w v : Walk} {block : Block} {cursor next passes : Nat}
    (hv : v.pending = []) (hphase : v.phase = .loop block cursor passes)
    (hcursor : cursor < block.bodyEnd) (hnext : cursor < next) (h : w.phase = v.phase)
    (hmode : w.mode = v.mode) : Closer (w.moveTo next) v := by
  have hw := phase_moveTo_of_loop (h.trans hphase) next
  refine closer_of_passes hv (by simp [hphase, Phase.rank]) (by simp [hw, hphase, Phase.rank]) ?_
  have hpasses : (w.moveTo next).passesAhead = v.passesAhead := by
    simp only [passesAhead, hw, hphase, mode_moveTo, hmode]
    cases v.mode <;> rfl
  rw [hpasses]
  refine Prod.Lex.right _ ?_
  simp only [linesAhead, hw, hphase]
  omega

theorem closer_stepSetup {w : Walk} {cursor : Nat} {closing? : Option Nat}
    (hpending : w.pending = []) (hphase : w.phase = .setup cursor closing?) :
    Closer (w.stepSetup .standard cursor) w := by
  have hrank : w.phase.rank = 2 := by simp [hphase, Phase.rank]
  have stopped {v : Walk} {outcome : Outcome} (h : v.phase = .stopped outcome) : Closer v w :=
    closer_of_rank hpending (by rw [hrank, h]; exact Nat.zero_lt_two)
  unfold stepSetup
  split
  · exact stopped rfl
  · next h =>
    exact closer_moveTo_of_setup hpending hphase (lt_length_of_statement? h) (Nat.lt_succ_self _)
      rfl rfl
  · next h =>
    unfold enterSetup
    dsimp only
    split
    · exact stopped rfl
    · next block _ =>
      obtain ⟨closing?, hmoved⟩ := phase_moveTo_of_setup
        (phase_insideSetup ((w.highlight cursor).release cursor w.timing.short) cursor
          block.closing) (cursor + 1)
      refine closer_of_passes hpending (by omega) (by rw [hmoved, hrank]; rfl) ?_
      simp only [passesAhead, linesAhead, hmoved, hphase, program_moveTo, program_insideSetup,
        program_release, program_highlight]
      have := lt_length_of_statement? h
      exact Prod.Lex.right _ (by omega)
  · unfold enterLoop
    dsimp only
    split
    · exact stopped rfl
    · split
      · exact closer_of_rank hpending (by rw [hrank]; exact Nat.one_lt_two)
      · exact stopped rfl
  · next h =>
    have hcursor := lt_length_of_statement? h
    split
    · next statement _ _ _ _ =>
      rcases runLine_eq w cursor statement with ⟨fault, hfail⟩ | ⟨v, next, hv, hnext, hp, hm, hpr⟩
      · exact hfail ▸ stopped rfl
      · exact hv ▸ closer_moveTo_of_setup hpending hphase hcursor hnext hp hpr
    · exact closer_moveTo_of_setup hpending hphase hcursor (Nat.lt_succ_self _) (by simp) (by simp)

theorem closer_endPass {w : Walk} {block : Block} {cursor passes : Nat}
    (hpending : w.pending = []) (hphase : w.phase = .loop block cursor passes) :
    Closer (w.endPass block passes) w := by
  unfold endPass
  dsimp only
  split
  · next hmode =>
    refine closer_of_pause hpending (by simp [hphase, Phase.rank]) ?_
    simp [push, hmode, Cue.isPause]
  · next limit hmode =>
    split
    · exact closer_of_rank hpending (by simp [hphase, Phase.rank])
    · refine closer_of_passes hpending (by simp [hphase, Phase.rank])
        (by simp [hphase, Phase.rank]) ?_
      simp only [passesAhead, hphase, hmode]
      exact Prod.Lex.left _ _ (by omega)

theorem closer_stepLoop {w : Walk} {block : Block} {cursor passes : Nat}
    (hpending : w.pending = []) (hphase : w.phase = .loop block cursor passes) :
    Closer (w.stepLoop .standard block cursor passes) w := by
  have stopped {v : Walk} {outcome : Outcome} (h : v.phase = .stopped outcome) : Closer v w :=
    closer_of_rank hpending (by simp [h, hphase, Phase.rank])
  unfold stepLoop
  split
  · exact closer_endPass hpending hphase
  · next hcursor =>
    have hcursor : cursor < block.bodyEnd := by omega
    split
    · exact stopped rfl
    · exact closer_moveTo_of_loop hpending hphase hcursor (Nat.lt_succ_self _) (by simp) (by simp)
    · next statement _ _ =>
      rcases runLine_eq w cursor statement with ⟨fault, hfail⟩ | ⟨v, next, hv, hnext, hp, hm, _⟩
      · exact hfail ▸ stopped rfl
      · exact hv ▸ closer_moveTo_of_loop hpending hphase hcursor hnext hp hm

/-- Every step of a walk that has not stopped brings it closer to its next pause or its end. -/
theorem closer_step {w : Walk} (raised : Bool) (hpending : w.pending = [])
    (hrunning : 0 < w.phase.rank) : Closer (w.step raised) w := by
  unfold step stepBy
  split
  · next hphase =>
    unfold begin
    dsimp only
    split <;> exact closer_of_rank hpending (by simp [hphase, Phase.rank])
  · next hphase =>
    split
    · exact closer_of_rank hpending (by simp [hphase, Phase.rank])
    · exact closer_stepSetup hpending hphase
  · next hphase =>
    split
    · exact closer_of_rank hpending (by simp [hphase, Phase.rank])
    · exact closer_stepLoop hpending hphase
  · next hphase => simp [hphase, Phase.rank] at hrunning

/-- The next cue, or `none` once the walk has stopped and nothing is pending. -/
def next (raised : Bool) (w : Walk) : Option Cue × Walk :=
  match _hpending : w.pending with
  | cue :: rest => (some cue, { w with pending := rest })
  | [] => if _hrunning : 0 < w.phase.rank then next raised (w.step raised) else (none, w)
termination_by w.distance
decreasing_by exact closer_step raised _hpending _hrunning

/-- The events up to the next pause, or up to the end of the walk if no pause comes before it. A
loop that shows nothing but events cannot run on for ever, because every pass ends with a pause. -/
def untilPause (raised : Bool) (w : Walk) : List Event × Option Nat × Walk :=
  match _hpending : w.pending with
  | .event event :: rest =>
      let (events, pause?, w) := untilPause raised { w with pending := rest }
      (event :: events, pause?, w)
  | .pause milliseconds :: rest => ([], some milliseconds, { w with pending := rest })
  | [] =>
      if _hrunning : 0 < w.phase.rank then untilPause raised (w.step raised) else ([], none, w)
termination_by (w.distance, w.pending.length)
decreasing_by
  · have hsame : { w with pending := rest }.distance = w.distance := by
      simp [distance, _hpending, Cue.isPause, passesAhead, linesAhead]
    rw [hsame, _hpending]
    exact Prod.Lex.right _ (Nat.lt_succ_self _)
  · exact Prod.Lex.left _ _ (closer_step raised _hpending _hrunning)

end Walk

/-- The report of a silent walk: the setup once, then the loop `passes` times. -/
def runSilent (source : Text) (passes : Nat) : Report :=
  ((Walk.silent (.ofSource source) passes).next false).2.report

end Breadboard
