import Breadboard.Proofs.Execute
import Breadboard.Proofs.Sketch.Basic
import Breadboard.Proofs.Walk.Silent

/-!
A silent walk over a printed sketch does what the evaluator does on its tree. The same lines run in
the same way in the setup block and in a pass over the loop, so both are lanes, and the main lemma
is about a body in any lane: the walk goes from its first line to the line behind it, with the state
that the evaluator gives, or stops at the line where the evaluator does. It is an induction on the
body; the block that a branch skips is found by `block?_of_branch`.
-/

namespace Breadboard

/-- Where the lines of a body run: in the setup block that closes on line `closing`, or in a pass
over the loop. -/
inductive Lane where
  | setup (closing : Nat)
  | loop (block : Block) (passes : Nat)

namespace Lane

def region : Lane → Region
  | .setup _ => .setup
  | .loop _ _ => .loop

def phase (line : Nat) : Lane → Phase
  | .setup closing => .setup line (some closing)
  | .loop block passes => .loop block line passes

/-- The line behind the last one that a body can have in this lane. -/
def limit : Lane → Nat
  | .setup closing => closing
  | .loop block _ => block.bodyEnd

/-- The walk of `base` in this lane. -/
def walk (lane : Lane) (base : Walk) (line : Nat) (s : State) : Walk :=
  { base with phase := lane.phase line, state := s.inRegion lane.region }

def stop (lane : Lane) (base : Walk) (report : Report) : Walk :=
  { base with phase := .stopped report.outcome, state := report.state.inRegion lane.region }

/-- The walk after an evaluation: it goes on at `line`, or it has stopped. -/
def ending (lane : Lane) (base : Walk) (line : Nat) : Except Report State → Walk
  | .ok s => lane.walk base line s
  | .error report => lane.stop base report

variable (lane : Lane) {base : Walk} {passes line : Nat} {s : State}

theorem program_walk : (lane.walk base line s).program = base.program := rfl

theorem isSilent_walk (h : base.IsSilent passes) : (lane.walk base line s).IsSilent passes :=
  ⟨h.mode, h.pending⟩

theorem moveTo_walk (line : Nat) {next : Nat} (hnext : next ≤ lane.limit) :
    (lane.walk base line s).moveTo next = lane.walk base next s := by
  cases lane with
  | setup closing =>
      have hclosing : ¬closing < next := Nat.not_lt.mpr hnext
      simp [Walk.moveTo, walk, phase, hclosing]
  | loop block passes => rfl

/-- A lane runs its lines, unless they are headers of sections. -/
theorem runs_walk {statement : Statement} (hline : line < lane.limit)
    (hread : base.program.statement? line = some statement) (hblank : statement ≠ .blank)
    (hsetup : statement ≠ .setup) (hloop : statement ≠ .loop) :
    (lane.walk base line s).Runs line statement := by
  cases lane with
  | setup closing => exact .setup (some closing) rfl rfl hread hblank hsetup hloop
  | loop block passes => exact .loop block passes rfl hline hread hblank

theorem step_walk_blank (hsilent : base.IsSilent passes) (hline : line < lane.limit)
    (hread : base.program.statement? line = some .blank) :
    (lane.walk base line s).step false = lane.walk base (line + 1) s := by
  rw [← lane.moveTo_walk line hline]
  cases lane with
  | setup closing =>
      change (walk (.setup closing) base line s).stepSetup .standard line = _
      simp only [Walk.stepSetup, program_walk, hread]
  | loop block passes =>
      have hinside : ¬block.bodyEnd ≤ line := Nat.not_le.mpr hline
      change (walk (.loop block passes) base line s).stepLoop .standard block line passes = _
      simp only [Walk.stepLoop, if_neg hinside, program_walk, hread, Walk.pause_eq_queue]
      rw [Walk.queue_of_silent (isSilent_walk _ hsilent).mode]

theorem step_of_error {statement : Statement} {fault : Fault} (hsilent : base.IsSilent passes)
    (hline : line < lane.limit) (hread : base.program.statement? line = some statement)
    (hsetup : statement ≠ .setup) (hloop : statement ≠ .loop)
    (hexec : execute statement (base.program.block? line) s = .error fault) :
    (lane.walk base line s).step false = lane.stop base (.failedAt s line fault) := by
  have hblank : statement ≠ .blank := by
    rintro rfl
    cases hexec
  have hregion : execute statement (base.program.block? line) (s.inRegion lane.region) =
      .error fault := by
    rw [execute_inRegion, hexec]
    rfl
  rw [Walk.step_of_runs (lane.runs_walk hline hread hblank hsetup hloop),
    (lane.isSilent_walk hsilent).runLine_of_error hregion]
  rfl

theorem step_of_ok {statement : Statement} {transition : Transition} {after : State}
    (hsilent : base.IsSilent passes) (hline : line < lane.limit)
    (hread : base.program.statement? line = some statement)
    (hsetup : statement ≠ .setup) (hloop : statement ≠ .loop)
    (hexec : execute statement (base.program.block? line) s = .ok (transition, after))
    (htarget : transition.target line ≤ lane.limit) :
    (lane.walk base line s).step false = lane.walk base (transition.target line) after := by
  by_cases hblank : statement = .blank
  · subst hblank
    cases hexec
    exact lane.step_walk_blank hsilent hline hread
  · have hregion : execute statement (base.program.block? line) (s.inRegion lane.region) =
        .ok (transition, after.inRegion lane.region) := by
      rw [execute_inRegion, hexec]
      rfl
    rw [Walk.step_of_runs (lane.runs_walk hline hread hblank hsetup hloop),
      (lane.isSilent_walk hsilent).runLine_of_ok hregion]
    exact lane.moveTo_walk line htarget

/-- A closing brace does nothing. -/
theorem step_closing {rest : List Line} (hsilent : base.IsSilent passes)
    (hlines : base.program.lines.drop line = Line.ofText ['}'] :: rest)
    (hline : line < lane.limit) :
    (lane.walk base line s).step false = lane.walk base (line + 1) s := by
  have hread : base.program.statement? line = some (.brace .closing) :=
    Program.statement?_of_drop hlines
  have hexec : execute (.brace .closing) (base.program.block? line) s = .ok (.quiet, s) := rfl
  exact lane.step_of_ok hsilent hline hread nofun nofun hexec hline

section Plain

variable {plain : PlainLine} {rest : List Line} (hsilent : base.IsSilent passes)
  (hlines : base.program.lines.drop line = Line.ofText plain.text :: rest)
  (hline : line < lane.limit)

include hsilent hlines hline

theorem step_plain_of_error {fault : Fault}
    (hexec : execute (.ofLine plain.text) none s = .error fault) :
    (lane.walk base line s).step false = lane.stop base (.failedAt s line fault) := by
  have hheader := plain.isHeader_eq_false
  have hblock := execute_of_not_header hheader (base.program.block? line) s
  refine lane.step_of_error hsilent hline (Program.statement?_of_drop hlines) ?_ ?_
    (hblock.trans hexec)
  all_goals
    intro h
    change Statement.ofLine plain.text = _ at h
    simp [h, Statement.isHeader] at hheader

theorem step_plain_of_ok {transition : Transition} {after : State}
    (hexec : execute (.ofLine plain.text) none s = .ok (transition, after)) :
    (lane.walk base line s).step false = lane.walk base (line + 1) after := by
  have hheader := plain.isHeader_eq_false
  have hblock := execute_of_not_header hheader (base.program.block? line) s
  have htarget : transition.target line = line + 1 := by
    cases transition with
    | branch taken block =>
        obtain ⟨condition, hconditional, _⟩ := execute_eq_branch hexec
        simp [hconditional, Statement.isHeader] at hheader
    | _ => rfl
  rw [← htarget]
  refine lane.step_of_ok hsilent hline (Program.statement?_of_drop hlines) ?_ ?_
    (hblock.trans hexec) (htarget ▸ hline)
  all_goals
    intro h
    change Statement.ofLine plain.text = _ at h
    simp [h, Statement.isHeader] at hheader

end Plain

section Branch

variable {header : BranchLine} {inner : Body} {rest : List Line} (hsilent : base.IsSilent passes)
  (hlines : base.program.lines.drop line = Line.ofText header.text ::
    (inner.lines.map Line.ofText ++ Line.ofText ['}'] :: rest))
  (hline : line + inner.height + 1 < lane.limit)

include hsilent hlines hline

theorem step_branch_of_error {fault : Fault} (heval : s.evaluate header.condition = .error fault) :
    (lane.walk base line s).step false = lane.stop base (.failedAt s line fault) := by
  have hread : base.program.statement? line = some (.conditional header.condition) :=
    (Program.statement?_of_drop hlines).trans (congrArg some header.isConditional)
  refine lane.step_of_error hsilent (by omega) hread (by simp) (by simp) ?_
  rw [block?_of_branch header inner rest hlines, execute, heval]
  rfl

/-- A branch that is not taken is left behind, its closing line included. -/
theorem step_branch_of_ok {taken : Bool} (heval : s.evaluate header.condition = .ok taken) :
    (lane.walk base line s).step false =
      lane.walk base (if taken then line + 1 else line + inner.height + 2) s := by
  have hread : base.program.statement? line = some (.conditional header.condition) :=
    (Program.statement?_of_drop hlines).trans (congrArg some header.isConditional)
  have hexec : execute (.conditional header.condition) (base.program.block? line) s =
      .ok (.branch taken ⟨line, line + inner.height + 1⟩, s) := by
    rw [block?_of_branch header inner rest hlines, execute, heval]
    rfl
  cases taken with
  | false => exact lane.step_of_ok hsilent (by omega) hread (by simp) (by simp) hexec hline
  | true =>
      have htarget : line + 1 ≤ lane.limit := by omega
      exact lane.step_of_ok hsilent (by omega) hread (by simp) (by simp) hexec htarget

end Branch

end Lane

/-- The main lemma: a body is walked as it is evaluated. -/
theorem Body.reaches_eval (b : Body) (lane : Lane) {base : Walk} {passes index : Nat} (s : State)
    (rest : List Line) (hsilent : base.IsSilent passes)
    (hlines : base.program.lines.drop index = b.lines.map Line.ofText ++ rest)
    (hlimit : index + b.height ≤ lane.limit) :
    (lane.walk base index s).Reaches (lane.ending base (index + b.height) (b.eval index s)) := by
  -- The lines after the body are arbitrary, so that the inner body of a branch is a case too.
  induction b generalizing index s rest with
  | done => exact .refl _
  | plain line more ih =>
      have hheight : index + (Body.plain line more).height = index + 1 + more.height := by
        simp only [Body.height]
        omega
      rw [hheight] at hlimit ⊢
      cases hexec : execute (.ofLine line.text) none s with
      | error fault =>
          simp only [Body.eval, hexec]
          exact .next (lane.step_plain_of_error hsilent hlines (by omega) hexec) (.refl _)
      | ok result =>
          obtain ⟨transition, after⟩ := result
          simp only [Body.eval, hexec]
          exact .next (lane.step_plain_of_ok hsilent hlines (by omega) hexec)
            (ih after rest (Program.drop_of_drop_cons hlines) hlimit)
  | branch header inner more ihInner ihMore =>
      have hsplit : base.program.lines.drop index = Line.ofText header.text ::
          (inner.lines.map Line.ofText ++
            Line.ofText ['}'] :: (more.lines.map Line.ofText ++ rest)) := by
        simpa [Body.lines] using hlines
      have hinner := Program.drop_of_drop_cons hsplit
      have hclosing := Program.drop_of_drop_body hinner
      have hmore := Program.drop_of_drop_cons hclosing
      have hnext : index + inner.height + 2 = index + 1 + inner.height + 1 := by omega
      have hheight : index + (Body.branch header inner more).height =
          index + 1 + inner.height + 1 + more.height := by
        simp only [Body.height]
        omega
      rw [hheight] at hlimit ⊢
      cases heval : s.evaluate header.condition with
      | error fault =>
          simp only [Body.eval, heval]
          exact .next (lane.step_branch_of_error hsilent hsplit (by omega) heval) (.refl _)
      | ok taken =>
          refine .next (lane.step_branch_of_ok hsilent hsplit (by omega) heval) ?_
          simp only [Body.eval, heval, hnext]
          cases taken with
          | false => exact ihMore s rest hmore hlimit
          | true =>
              -- through the inner body, over its closing brace, and on behind it
              refine (ihInner s _ hinner (by omega)).trans ?_
              cases inner.eval (index + 1) s with
              | error report => exact .refl _
              | ok after =>
                  exact .next (lane.step_closing hsilent hclosing (by omega))
                    (ihMore after rest hmore hlimit)

/-- At the end of a pass a silent walk starts another one, or stops if it was the last. -/
theorem Lane.step_endPass {block : Block} {base : Walk} {passes done : Nat} {s : State}
    (hsilent : base.IsSilent passes) :
    ((Lane.loop block done).walk base block.bodyEnd s).step false =
      if done + 1 < passes then (Lane.loop block (done + 1)).walk base block.bodyStart s
      else (Lane.loop block done).stop base ⟨s, .completed⟩ := by
  change ((Lane.loop block done).walk base block.bodyEnd s).stepLoop .standard block block.bodyEnd done = _
  rw [Walk.stepLoop, if_pos (Nat.le_refl _),
    ((Lane.loop block done).isSilent_walk hsilent).endPass_eq]
  rfl

/-- All passes over the loop, `done` of which are complete. -/
theorem Body.reaches_evalTimes (b : Body) (block : Block) {base : Walk} {passes : Nat} (s : State)
    (rest : List Line) (hsilent : base.IsSilent passes)
    (hlines : base.program.lines.drop block.bodyStart = b.lines.map Line.ofText ++ rest)
    (hend : block.bodyStart + b.height = block.bodyEnd) (done count : Nat)
    (hcount : done + count + 1 = passes) :
    ((Lane.loop block done).walk base block.bodyStart s).Reaches
      ((Lane.loop block done).stop base
        (.ofResult (b.evalTimes block.bodyStart (count + 1) s))) := by
  induction count generalizing done s with
  | zero =>
      refine (b.reaches_eval (.loop block done) s rest hsilent hlines (Nat.le_of_eq hend)).trans ?_
      rw [evalTimes, hend]
      cases b.eval block.bodyStart s with
      | error report => exact .refl _
      | ok after =>
          refine .next (Lane.step_endPass hsilent) ?_
          rw [if_neg (by omega)]
          exact .refl _
  | succ count ih =>
      refine (b.reaches_eval (.loop block done) s rest hsilent hlines (Nat.le_of_eq hend)).trans ?_
      rw [evalTimes, hend]
      cases b.eval block.bodyStart s with
      | error report => exact .refl _
      | ok after =>
          refine .next (Lane.step_endPass hsilent) ?_
          rw [if_pos (by omega)]
          exact ih after (done + 1) (by omega)

namespace Sketch

variable (k : Sketch) (passes : Nat)

/-- The silent walk over the printed sketch. -/
def walk : Walk :=
  .silent (.ofSource k.print) passes

theorem isSilent_walk : (k.walk passes).IsSilent passes :=
  Walk.isSilent_silent _ _

theorem drop_lines_walk :
    (k.walk passes).program.lines.drop 0 =
      Line.ofText "void setup()".toList :: Line.ofText ['{'] ::
        (k.setup.lines.map Line.ofText ++ Line.ofText ['}'] ::
          Line.ofText "void loop()".toList :: Line.ofText ['{'] ::
            (k.loop.lines.map Line.ofText ++ [Line.ofText ['}']])) := by
  change (Program.ofSource k.print).lines = _
  rw [k.ofSource_print]
  simp [lines]

/-- The lane of the setup body. -/
def setupLane : Lane :=
  .setup (k.setup.height + 2)

/-- The walk begins, enters the setup block and passes its opening brace. -/
theorem reaches_setup :
    (k.walk passes).Reaches (k.setupLane.walk (k.walk passes) 2 .fresh) := by
  have hlines := k.drop_lines_walk passes
  have hsilent := k.isSilent_walk passes
  have hblank : (k.walk passes).program.isBlank = false := by
    rw [List.drop_zero] at hlines
    rw [Program.isBlank, hlines]
    rfl
  have hheader : (k.walk passes).program.statement? 0 = some .setup :=
    Program.statement?_of_drop hlines
  have hblock : (k.walk passes).program.block? 0 = some ⟨1, 0 + k.setup.height + 2⟩ :=
    block?_of_section k.setup _ rfl rfl hlines
  have hbrace : (k.walk passes).program.statement? 1 = some (.brace .opening) :=
    Program.statement?_of_drop (Program.drop_of_drop_cons hlines)
  have hlimit : 1 < k.setupLane.limit := by
    simp only [setupLane, Lane.limit]
    omega
  rw [Nat.zero_add] at hblock
  let started : Walk := { k.walk passes with phase := .setup 0 none }
  have hstarted : started.IsSilent passes := ⟨hsilent.mode, hsilent.pending⟩
  have henters : started.step false = k.setupLane.walk (k.walk passes) 1 .fresh :=
    (hstarted.step_setupHeader rfl hheader hblock).trans
      (k.setupLane.moveTo_walk 0 (Nat.le_of_lt hlimit))
  refine .next (Walk.step_of_idle rfl hblank) (.next henters ?_)
  exact .next (k.setupLane.step_of_ok hsilent hlimit hbrace nofun nofun rfl hlimit) (.refl _)

/-- The block of the loop, between its two braces. -/
def loopBlock : Block :=
  ⟨k.setup.height + 4, k.setup.height + k.loop.height + 5⟩

/-- Behind its closing line the walk has left the setup block. -/
theorem step_setup_closing (s : State) {rest : List Line}
    (hclosing : (k.walk passes).program.lines.drop (k.setup.height + 2) =
      Line.ofText ['}'] :: rest) :
    (k.setupLane.walk (k.walk passes) (k.setup.height + 2) s).step false =
      { k.walk passes with
        phase := .setup (k.setup.height + 3) none
        state := s.inRegion .outside } := by
  have hread : (k.walk passes).program.statement? (k.setup.height + 2) = some (.brace .closing) :=
    Program.statement?_of_drop hclosing
  have hruns : (k.setupLane.walk (k.walk passes) (k.setup.height + 2) s).Runs (k.setup.height + 2)
      (.brace .closing) := .setup _ rfl rfl hread nofun nofun nofun
  rw [Walk.step_of_runs hruns,
    (k.setupLane.isSilent_walk (k.isSilent_walk passes)).runLine_of_ok rfl, Walk.moveTo_eq]
  simp [setupLane, Lane.walk, Lane.phase, Phase.movedTo, State.movedFrom, Transition.target,
    State.inRegion]

theorem reaches_loop (s : State) :
    (k.setupLane.walk (k.walk passes) (k.setup.height + 2) s).Reaches
      ((Lane.loop k.loopBlock 0).stop (k.walk passes)
        (.ofResult (k.loop.evalTimes (k.setup.height + 5) passes s))) := by
  have hsilent := k.isSilent_walk passes
  have hlines := k.drop_lines_walk passes
  have hclosing := Program.drop_of_drop_body
    (Program.drop_of_drop_cons (Program.drop_of_drop_cons hlines))
  rw [show 0 + 1 + 1 + k.setup.height = k.setup.height + 2 by omega] at hclosing
  have hloop := Program.drop_of_drop_cons hclosing
  have hheader : (k.walk passes).program.statement? (k.setup.height + 3) = some .loop :=
    Program.statement?_of_drop hloop
  have hblock : (k.walk passes).program.block? (k.setup.height + 3) = some k.loopBlock := by
    rw [block?_of_section k.loop _ rfl rfl hloop, loopBlock]
    simp only [Option.some.injEq, Block.mk.injEq, true_and]
    omega
  have hbody := Program.drop_of_drop_cons (Program.drop_of_drop_cons hloop)
  have hend : k.loopBlock.bodyStart + k.loop.height = k.loopBlock.bodyEnd := by
    simp only [loopBlock, Block.bodyStart, Block.bodyEnd]
    omega
  refine .next (k.step_setup_closing passes s hclosing) ?_
  refine .next (Walk.IsSilent.step_loopHeader ⟨hsilent.mode, hsilent.pending⟩ rfl hheader
    hblock) ?_
  cases passes with
  | zero => exact .refl _
  | succ count =>
      rw [if_pos (Nat.succ_pos count)]
      exact k.loop.reaches_evalTimes k.loopBlock s _ hsilent hbody hend 0 count (by omega)

end Sketch

/-- A silent run of a printed sketch ends as its evaluation does: with the same outcome, where a
fault names the line that the evaluator names, and with the same pins and variables. -/
theorem Sketch.runSilent_print (k : Sketch) (passes : Nat) :
    (runSilent k.print passes).outcome = (k.eval passes).outcome ∧
      (runSilent k.print passes).state.pins = (k.eval passes).state.pins ∧
      (runSilent k.print passes).state.bindings = (k.eval passes).state.bindings := by
  have hsilent := k.isSilent_walk passes
  have hlines := k.drop_lines_walk passes
  have hsetup := (k.reaches_setup passes).trans (k.setup.reaches_eval k.setupLane .fresh _ hsilent
    (Program.drop_of_drop_cons (Program.drop_of_drop_cons hlines))
    (Nat.le_of_eq (Nat.add_comm _ _)))
  unfold Sketch.eval
  cases heval : k.setup.eval 2 .fresh with
  | error report =>
      rw [heval] at hsetup
      rw [runSilent_eq_of_reaches hsetup rfl]
      exact ⟨rfl, rfl, rfl⟩
  | ok s =>
      rw [heval, Nat.add_comm] at hsetup
      rw [runSilent_eq_of_reaches (hsetup.trans (k.reaches_loop passes s)) rfl]
      exact ⟨rfl, rfl, rfl⟩

end Breadboard
