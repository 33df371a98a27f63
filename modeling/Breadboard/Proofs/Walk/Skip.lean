import Breadboard.Proofs.Program.Nesting
import Breadboard.Proofs.Walk.Trace

/-!
How far a walk can jump. The only step that goes further than the next line is the one that skips
the block of a false condition. The walk is then inside a setup block or the body of the loop, and
since blocks are nested or disjoint, the skipped block ends there too. So the jump leads at most to
the line behind the block that is being executed.
-/

namespace Breadboard

theorem Phase.cursor_movedTo {phase : Phase} {next : Nat}
    (h : (∃ cursor closing?, phase = .setup cursor closing?) ∨
      ∃ block cursor passes, phase = .loop block cursor passes) :
    (phase.movedTo next).cursor = next := by
  rcases h with ⟨cursor, closing?, rfl⟩ | ⟨block, cursor, passes, rfl⟩
  · cases closing? <;> rfl
  · rfl

namespace Walk

variable {w : Walk} {header : Nat} {skipped : Block}

/-- The walk is about to find the condition on line `header` false and to skip its block. -/
structure Skips (w : Walk) (header : Nat) (skipped : Block) : Prop where
  runs : ∃ condition, w.Runs header (.conditional condition) ∧
    w.state.evaluate condition = .ok false
  block : w.program.block? header = some skipped

theorem Skips.phase_step (h : w.Skips header skipped) :
    (w.step false).phase = w.phase.movedTo (skipped.closing + 1) := by
  obtain ⟨condition, hruns, hfalse⟩ := h.runs
  have hexec : execute (.conditional condition) (w.program.block? header) w.state =
      .ok (.branch false skipped, w.state) := by
    rw [h.block, execute, hfalse]
    rfl
  rw [step_of_runs hruns]
  unfold runLine
  simp only [hexec, highlight_eq_queue, release_eq_queue, pauses_eq_queue, moveTo_eq]
  rfl

theorem Skips.cursor_step (h : w.Skips header skipped) :
    (w.step false).phase.cursor = skipped.closing + 1 := by
  rw [h.phase_step]
  apply Phase.cursor_movedTo
  obtain ⟨condition, hruns, _⟩ := h.runs
  cases hruns with
  | setup closing? hphase => exact .inl ⟨header, closing?, hphase⟩
  | loop block passes hphase => exact .inr ⟨block, header, passes, hphase⟩

/-- The walk is executing the block of this header. -/
inductive Executes (w : Walk) (owner : Nat) (block : Block) : Prop where
  | setup (cursor : Nat) (hphase : w.phase = .setup cursor (some block.closing))
      (hread : w.program.statement? owner = some .setup)
      (hblock : w.program.block? owner = some block)
  | loop (cursor passes : Nat) (hphase : w.phase = .loop block cursor passes)
      (hread : w.program.statement? owner = some .loop)
      (hblock : w.program.block? owner = some block)

/-- A line that is run lies inside the block that is being executed, behind its header. -/
theorem Runs.exists_executes {line : Nat} {statement : Statement} (hfits : w.Fits)
    (h : w.Runs line statement) :
    ∃ owner block, w.Executes owner block ∧ owner < line ∧ line ≤ block.closing := by
  rcases h.covers hfits with ⟨cursor, owner, closing, hphase, ⟨hread, block, hblock, rfl⟩, hbehind,
    hinside⟩ | ⟨block, cursor, passes, hphase, ⟨owner, hread, hblock⟩, hstart, hend⟩
  · exact ⟨owner, block, .setup cursor hphase hread hblock, hbehind, hinside⟩
  · have hbelow := Program.le_of_block? hblock
    simp only [Block.bodyStart, Block.bodyEnd] at hstart hend
    exact ⟨owner, block, .loop cursor passes hphase hread hblock, by omega, by omega⟩

theorem Executes.block?_eq {owner : Nat} {block : Block} (h : w.Executes owner block) :
    w.program.block? owner = some block := by
  cases h with
  | setup cursor hphase hread hblock => exact hblock
  | loop cursor passes hphase hread hblock => exact hblock

/-- A skipped block ends inside the block that is being executed. -/
theorem Skips.exists_executes (hwritten : w.program.HeadersWritten) (hfits : w.Fits)
    (h : w.Skips header skipped) :
    ∃ owner block, w.Executes owner block ∧ skipped.closing ≤ block.closing := by
  obtain ⟨condition, hruns, _⟩ := h.runs
  obtain ⟨owner, block, hexecutes, hbehind, hinside⟩ := hruns.exists_executes hfits
  refine ⟨owner, block, hexecutes, ?_⟩
  rcases (hwritten.nested_or_disjoint hexecutes.block?_eq h.block hbehind).2 with hends | hencloses
  · exact absurd hinside (Nat.not_le.mpr hends)
  · exact hencloses

/-- Blocks are nested or disjoint, in every program. Hence no walk ever skips past the line behind
the setup block or the loop that it is executing. -/
theorem blocks_nest_and_skips_stay (source : Text) :
    (∀ header inner block nested, (Program.ofSource source).block? header = some block →
      (Program.ofSource source).block? inner = some nested → header < inner →
      block.opening ≤ nested.opening ∧
        (block.closing < inner ∨ nested.closing ≤ block.closing)) ∧
    ∀ mode side timing w, (fresh (.ofSource source) mode side timing).Visits w →
      ∀ header skipped, w.Skips header skipped →
        (w.step false).phase.cursor = skipped.closing + 1 ∧
        ∃ owner block, w.Executes owner block ∧
          (w.step false).phase.cursor ≤ block.closing + 1 := by
  have hwritten := Program.headersWritten_ofSource source
  constructor
  · intro header inner block nested hblock hnested hlt
    exact hwritten.nested_or_disjoint hblock hnested hlt
  · intro mode side timing w hw header skipped hskips
    have hprogram : w.program = .ofSource source := hw.program_eq
    obtain ⟨owner, block, hexecutes, hends⟩ :=
      hskips.exists_executes (hprogram ▸ hwritten) (hw.fits trivial)
    refine ⟨hskips.cursor_step, owner, block, hexecutes, ?_⟩
    rw [hskips.cursor_step]
    exact Nat.succ_le_succ hends

/-- The block of the condition ends on the same line as the setup. -/
theorem blocks_nest_and_skips_stay_sharedLine :
    let source : Text :=
      "void setup()\n\x7b\nint x = 1;\nsi (x == 0) alors \x7b\nvoid loop() \x7d \x7d".toList
    let w := silentAt (.ofSource source) 0 4
    w.Skips 3 ⟨3, 4⟩ ∧ (w.step false).phase.cursor = 5 ∧
      ∃ owner block, w.Executes owner block ∧
        (w.step false).phase.cursor ≤ block.closing + 1 := by
  intro source w
  have hphase : w.phase = .setup 3 (some 4) := by decide +kernel
  have hruns : w.Runs 3 (.conditional "x == 0".toList) := by
    apply Runs.setup (some 4) hphase <;> decide +kernel
  have hskips : w.Skips 3 ⟨3, 4⟩ := by
    refine ⟨⟨_, hruns, ?_⟩, ?_⟩ <;> decide +kernel
  have hw := visits_silentAt (.ofSource source) 0 4
  obtain ⟨hcursor, hstays⟩ :=
    (blocks_nest_and_skips_stay source).2 (.silent 0) .student .instant w hw 3 ⟨3, 4⟩ hskips
  exact ⟨hskips, hcursor, hstays⟩

end Walk

end Breadboard
