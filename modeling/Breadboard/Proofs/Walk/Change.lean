import Breadboard.Proofs.Walk.Queue

/-!
What one step can do. A step of a walk that has not stopped changes its state and its phase and
queues some cues; program, mode, side and timing stay. `Change` lists the possible steps with the
facts that lead to each, and `step_changes` says that there are no others. An invariant of walks is
then one small case per constructor, and no proof has to take `step` apart again.
-/

namespace Breadboard

/-- The phase that `Walk.moveTo` leads to. -/
def Phase.movedTo (phase : Phase) (next : Nat) : Phase :=
  match phase with
  | .setup _ (some closing) => .setup next (if closing < next then none else some closing)
  | .setup _ none => .setup next none
  | .loop block _ passes => .loop block next passes
  | phase => phase

/-- The state that `Walk.moveTo` leads to: the setup block may have ended. -/
def State.movedFrom (s : State) (phase : Phase) (next : Nat) : State :=
  match phase with
  | .setup _ (some closing) => if closing < next then { s with region := .outside } else s
  | _ => s

namespace Walk

theorem moveTo_eq (w : Walk) (next : Nat) :
    w.moveTo next =
      { w with phase := w.phase.movedTo next, state := w.state.movedFrom w.phase next } := by
  cases w with
  | mk program mode side timing state phase pending =>
      cases phase with
      | setup cursor closing? =>
          cases closing? with
          | none => rfl
          | some closing =>
              by_cases h : closing < next <;>
                simp [moveTo, Phase.movedTo, State.movedFrom, h]
      | _ => rfl

/-- The cue of a failure. -/
def mark (w : Walk) (line : Nat) (fault : Fault) : Cue :=
  .event ⟨w.side, .failed line (Failure.mk line fault).message⟩

/-- The walk is about to run this statement on this line. -/
inductive Runs (w : Walk) (line : Nat) (statement : Statement) : Prop where
  | setup (closing? : Option Nat) (hphase : w.phase = .setup line closing?)
      (hregion : w.state.region = .setup) (hread : w.program.statement? line = some statement)
      (hblank : statement ≠ .blank) (hsetup : statement ≠ .setup) (hloop : statement ≠ .loop)
  | loop (block : Block) (passes : Nat) (hphase : w.phase = .loop block line passes)
      (hinside : line < block.bodyEnd) (hread : w.program.statement? line = some statement)
      (hblank : statement ≠ .blank)

/-- `Change raised w state phase cues`: one step can turn the state and the phase of `w` into these
and queue these cues. -/
inductive Change (raised : Bool) (w : Walk) : State → Phase → List Cue → Prop where
  | empty (hphase : w.phase = .idle) (hblank : w.program.isBlank = true) :
      Change raised w .fresh (.stopped (.failed ⟨0, .emptyProgram⟩)) [w.mark 0 .emptyProgram]
  | started (hphase : w.phase = .idle) (hblank : w.program.isBlank = false) :
      Change raised w .fresh (.setup 0 none) []
  | cancelled (hphase : w.phase ≠ .idle) (hraised : raised = true) :
      Change raised w w.state (.stopped .cancelled) []
  | ended (cursor : Nat) (closing? : Option Nat) (hphase : w.phase = .setup cursor closing?)
      (hread : w.program.statement? cursor = none) :
      Change raised w w.state (.stopped .completed) []
  | blankInSetup (cursor : Nat) (closing? : Option Nat)
      (hphase : w.phase = .setup cursor closing?)
      (hread : w.program.statement? cursor = some .blank) :
      Change raised w (w.state.movedFrom w.phase (cursor + 1)) (w.phase.movedTo (cursor + 1)) []
  | unclosed (cursor : Nat) (closing? : Option Nat) (hphase : w.phase = .setup cursor closing?)
      (hread : w.program.statement? cursor = some .setup ∨
        w.program.statement? cursor = some .loop)
      (hblock : w.program.block? cursor = none) :
      Change raised w w.state (.stopped (.failed ⟨cursor, .unclosedBlock⟩))
        (w.opened cursor ++ [w.mark cursor .unclosedBlock])
  | entersSetup (cursor : Nat) (closing? : Option Nat) (block : Block)
      (hphase : w.phase = .setup cursor closing?)
      (hread : w.program.statement? cursor = some .setup)
      (hblock : w.program.block? cursor = some block) :
      Change raised w
        ({ w.state with region := .setup }.movedFrom (.setup cursor (some block.closing))
          (cursor + 1))
        (Phase.movedTo (.setup cursor (some block.closing)) (cursor + 1))
        (w.opened cursor ++ w.closed cursor w.timing.short)
  | entersLoop (cursor : Nat) (closing? : Option Nat) (block : Block)
      (hphase : w.phase = .setup cursor closing?)
      (hread : w.program.statement? cursor = some .loop)
      (hblock : w.program.block? cursor = some block) :
      Change raised w { w.state with region := .loop }
        (if w.mode.repeats then .loop block block.bodyStart 0 else .stopped .completed)
        (w.opened cursor ++ w.closed cursor w.timing.short)
  | passedOver (cursor : Nat) (closing? : Option Nat) (statement : Statement)
      (hphase : w.phase = .setup cursor closing?)
      (hread : w.program.statement? cursor = some statement) (hblank : statement ≠ .blank)
      (hregion : w.state.region ≠ .setup) :
      Change raised w (w.state.movedFrom w.phase (cursor + 1)) (w.phase.movedTo (cursor + 1))
        (w.opened cursor ++ w.closed cursor 0)
  | endsPass (block : Block) (cursor passes : Nat) (hphase : w.phase = .loop block cursor passes)
      (hend : block.bodyEnd ≤ cursor) (hcontinues : w.mode.continues (passes + 1) = true) :
      Change raised w w.state (.loop block block.bodyStart (passes + 1))
        [.pause w.timing.loop]
  | endsLastPass (block : Block) (cursor passes : Nat)
      (hphase : w.phase = .loop block cursor passes) (hend : block.bodyEnd ≤ cursor)
      (hlast : w.mode.continues (passes + 1) = false) :
      Change raised w w.state (.stopped .completed) []
  | ranOut (block : Block) (cursor passes : Nat) (hphase : w.phase = .loop block cursor passes)
      (hinside : cursor < block.bodyEnd) (hread : w.program.statement? cursor = none) :
      Change raised w w.state (.stopped .completed) []
  | blankInLoop (block : Block) (cursor passes : Nat)
      (hphase : w.phase = .loop block cursor passes) (hinside : cursor < block.bodyEnd)
      (hread : w.program.statement? cursor = some .blank) :
      Change raised w w.state (.loop block (cursor + 1) passes) (Cue.wait w.timing.skip)
  | failed (line : Nat) (statement : Statement) (fault : Fault) (hruns : w.Runs line statement)
      (hexec : execute statement (w.program.block? line) w.state = .error fault) :
      Change raised w w.state (.stopped (.failed ⟨line, fault⟩))
        (w.opened line ++ [w.mark line fault])
  | quiet (line : Nat) (statement : Statement) (state : State) (hruns : w.Runs line statement)
      (hexec : execute statement (w.program.block? line) w.state = .ok (.quiet, state)) :
      Change raised w (state.movedFrom w.phase (line + 1)) (w.phase.movedTo (line + 1))
        (w.opened line ++ w.closed line (pauseAfter w.timing statement))
  | effect (line : Nat) (statement : Statement) (shown : Effect) (state : State)
      (hruns : w.Runs line statement)
      (hexec : execute statement (w.program.block? line) w.state = .ok (.effect shown, state)) :
      Change raised w (state.movedFrom w.phase (line + 1)) (w.phase.movedTo (line + 1))
        (w.opened line ++ [.event ⟨w.side, .effect shown⟩] ++ w.closed line w.timing.medium)
  | taken (line : Nat) (statement : Statement) (block : Block) (state : State)
      (hruns : w.Runs line statement)
      (hexec : execute statement (w.program.block? line) w.state =
        .ok (.branch true block, state)) :
      Change raised w (state.movedFrom w.phase (line + 1)) (w.phase.movedTo (line + 1))
        (w.opened line ++ w.closed line w.timing.short)
  | skipped (line : Nat) (statement : Statement) (block : Block) (state : State)
      (hruns : w.Runs line statement)
      (hexec : execute statement (w.program.block? line) w.state =
        .ok (.branch false block, state)) :
      Change raised w (state.movedFrom w.phase (block.closing + 1))
        (w.phase.movedTo (block.closing + 1))
        (w.opened line ++ w.closed line w.timing.short ++
          w.skipped (block.closing + 1 - block.bodyStart))

/-- The walk after a change. -/
def changed (w : Walk) (state : State) (phase : Phase) (cues : List Cue) : Walk :=
  { w with state, phase }.queue cues

/-- A step of `w` can lead to `v`. -/
def Changes (raised : Bool) (w v : Walk) : Prop :=
  ∃ state phase cues, Change raised w state phase cues ∧ v = w.changed state phase cues

theorem queue_changed (w : Walk) (state : State) (phase : Phase) (cues more : List Cue) :
    (w.changed state phase cues).queue more = w.changed state phase (cues ++ more) :=
  queue_queue _ cues more

theorem moveTo_changed (w : Walk) (state : State) (phase : Phase) (cues : List Cue) (next : Nat) :
    (w.changed state phase cues).moveTo next =
      w.changed (state.movedFrom phase next) (phase.movedTo next) cues :=
  moveTo_eq _ next

variable {raised : Bool} {w : Walk}

private theorem runLine_changes {line : Nat} {statement : Statement}
    (hruns : w.Runs line statement) : Changes raised w (w.runLine .standard line statement) := by
  unfold runLine
  simp only [highlight_eq_queue, release_eq_queue, emit_eq_queue, pauses_eq_queue, fail_eq_queue]
  split
  · next fault hexec =>
    refine ⟨_, _, _, .failed line statement fault hruns hexec, ?_⟩
    rw [queue_queue]
    rfl
  · next transition state hexec =>
    let shown := w.changed state w.phase (w.opened line)
    have closes (milliseconds next : Nat) :
        (shown.queue (w.closed line milliseconds)).moveTo next =
          w.changed (state.movedFrom w.phase next) (w.phase.movedTo next)
            (w.opened line ++ w.closed line milliseconds) := by
      rw [queue_changed, moveTo_changed]
    cases transition with
    | quiet => exact ⟨_, _, _, .quiet line statement state hruns hexec, closes _ _⟩
    | effect effect =>
        refine ⟨_, _, _, .effect line statement effect state hruns hexec, ?_⟩
        change ((shown.queue _).queue (w.closed line _)).moveTo _ = _
        rw [queue_changed, queue_changed, moveTo_changed]
        rfl
    | branch taken block =>
        cases taken with
        | true => exact ⟨_, _, _, .taken line statement block state hruns hexec, closes _ _⟩
        | false =>
            refine ⟨_, _, _, .skipped line statement block state hruns hexec, ?_⟩
            change ((shown.queue (w.closed line _)).queue (w.skipped _)).moveTo _ = _
            rw [queue_changed, queue_changed, moveTo_changed]

private theorem begin_changes (hphase : w.phase = .idle) : Changes raised w w.begin := by
  unfold begin
  simp only [fail_eq_queue]
  split
  · next hblank => exact ⟨_, _, _, .empty hphase hblank, rfl⟩
  · next hblank =>
    refine ⟨_, _, _, .started hphase (by simpa using hblank), ?_⟩
    exact (queue_nil _).symm

private theorem enterSetup_changes {cursor : Nat} {closing? : Option Nat}
    (hphase : w.phase = .setup cursor closing?)
    (hread : w.program.statement? cursor = some .setup) :
    Changes raised w (w.enterSetup cursor) := by
  unfold enterSetup
  simp only [highlight_eq_queue, release_eq_queue, fail_eq_queue, queue_queue]
  split
  · next hblock => exact ⟨_, _, _, .unclosed cursor closing? hphase (.inl hread) hblock, rfl⟩
  · next block hblock =>
    exact ⟨_, _, _, .entersSetup cursor closing? block hphase hread hblock, moveTo_changed ..⟩

private theorem enterLoop_changes {cursor : Nat} {closing? : Option Nat}
    (hphase : w.phase = .setup cursor closing?)
    (hread : w.program.statement? cursor = some .loop) :
    Changes raised w (w.enterLoop cursor) := by
  unfold enterLoop
  simp only [highlight_eq_queue, release_eq_queue, fail_eq_queue, queue_queue]
  split
  · next hblock => exact ⟨_, _, _, .unclosed cursor closing? hphase (.inr hread) hblock, rfl⟩
  · next block hblock =>
    refine ⟨_, _, _, .entersLoop cursor closing? block hphase hread hblock, ?_⟩
    split <;> rfl

private theorem stepSetup_changes {cursor : Nat} {closing? : Option Nat}
    (hphase : w.phase = .setup cursor closing?) :
    Changes raised w (w.stepSetup .standard cursor) := by
  unfold stepSetup
  split
  · next hread => exact ⟨_, _, _, .ended cursor closing? hphase hread, (queue_nil _).symm⟩
  · next hread =>
    refine ⟨_, _, _, .blankInSetup cursor closing? hphase hread, ?_⟩
    rw [moveTo_eq]
    exact (queue_nil _).symm
  · next hread => exact enterSetup_changes hphase hread
  · next hread => exact enterLoop_changes hphase hread
  · next statement hblank hsetup hloop hread =>
    split
    · next hregion =>
      exact runLine_changes (.setup closing? hphase hregion hread hblank hsetup hloop)
    · next hregion =>
      refine ⟨_, _, _, .passedOver cursor closing? statement hphase hread hblank hregion, ?_⟩
      rw [highlight_eq_queue, release_eq_queue, queue_queue]
      exact moveTo_changed ..

private theorem stepLoop_changes {block : Block} {cursor passes : Nat}
    (hphase : w.phase = .loop block cursor passes) :
    Changes raised w (w.stepLoop .standard block cursor passes) := by
  unfold stepLoop
  split
  · next hend =>
    rw [endPass_eq_queue]
    split
    · next hcontinues =>
      exact ⟨_, _, _, .endsPass block cursor passes hphase hend hcontinues, rfl⟩
    · next hlast =>
      exact ⟨_, _, _, .endsLastPass block cursor passes hphase hend (by simpa using hlast),
        (queue_nil _).symm⟩
  · next hend =>
    have hinside : cursor < block.bodyEnd := Nat.lt_of_not_le hend
    split
    · next hread =>
      exact ⟨_, _, _, .ranOut block cursor passes hphase hinside hread, (queue_nil _).symm⟩
    · next hread =>
      refine ⟨_, _, _, .blankInLoop block cursor passes hphase hinside hread, ?_⟩
      rw [pause_eq_queue, moveTo_eq]
      simp only [phase_queue, state_queue, hphase]
      rfl
    · next statement hblank hread =>
      exact runLine_changes (.loop block passes hphase hinside hread hblank)

/-- Every step of a walk that has not stopped is one of the listed changes. -/
theorem step_changes (raised : Bool) (w : Walk) (hrunning : 0 < w.phase.rank) :
    Changes raised w (w.step raised) := by
  unfold step stepBy
  split
  · next hphase => exact begin_changes hphase
  · next hphase =>
    split
    · next hraised =>
      exact ⟨_, _, _, .cancelled (by simp [hphase]) hraised, (queue_nil _).symm⟩
    · exact stepSetup_changes hphase
  · next hphase =>
    split
    · next hraised =>
      exact ⟨_, _, _, .cancelled (by simp [hphase]) hraised, (queue_nil _).symm⟩
    · exact stepLoop_changes hphase
  · next hphase => simp [hphase, Phase.rank] at hrunning

/-- A walk that is about to run a line runs it, unless it is told to stop. -/
theorem step_of_runs {line : Nat} {statement : Statement} (h : w.Runs line statement) :
    w.step false = w.runLine .standard line statement := by
  cases h with
  | setup closing? hphase hregion hread hblank hsetup hloop =>
      unfold step stepBy
      rw [hphase]
      simp [stepSetup, hread, hregion]
  | loop block passes hphase hinside hread hblank =>
      unfold step stepBy
      rw [hphase]
      simp [stepLoop, Nat.not_le.mpr hinside, hread]

theorem step_of_stopped {outcome : Outcome} (h : w.phase = .stopped outcome) :
    w.step raised = w := by
  unfold step stepBy
  rw [h]

theorem running_or_stopped (w : Walk) :
    0 < w.phase.rank ∨ ∃ outcome, w.phase = .stopped outcome := by
  cases h : w.phase with
  | stopped outcome => exact .inr ⟨outcome, rfl⟩
  | _ => exact .inl (by simp [Phase.rank])

/-- What a step never changes. -/
theorem step_eq_changed (raised : Bool) (w : Walk) :
    ∃ state phase cues, w.step raised = w.changed state phase cues := by
  rcases w.running_or_stopped with hrunning | ⟨outcome, hstopped⟩
  · obtain ⟨state, phase, cues, _, hstep⟩ := step_changes raised w hrunning
    exact ⟨state, phase, cues, hstep⟩
  · exact ⟨w.state, w.phase, [], (step_of_stopped hstopped).trans (queue_nil w).symm⟩

section Constants

variable (raised : Bool) (w : Walk)

@[simp]
theorem program_step : (w.step raised).program = w.program := by
  obtain ⟨_, _, _, h⟩ := step_eq_changed raised w
  rw [h]
  rfl

@[simp]
theorem mode_step : (w.step raised).mode = w.mode := by
  obtain ⟨_, _, _, h⟩ := step_eq_changed raised w
  rw [h]
  rfl

@[simp]
theorem side_step : (w.step raised).side = w.side := by
  obtain ⟨_, _, _, h⟩ := step_eq_changed raised w
  rw [h]
  rfl

@[simp]
theorem timing_step : (w.step raised).timing = w.timing := by
  obtain ⟨_, _, _, h⟩ := step_eq_changed raised w
  rw [h]
  rfl

end Constants

end Walk

end Breadboard
