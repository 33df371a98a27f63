import Breadboard.Proofs.Execute
import Breadboard.Proofs.Walk.Visits

/-!
What the phase of a walk says about its program. A walk remembers where the setup block that it is
in closes, or the block of the loop and the passes made, and it relies on these without looking at
the program again. `Phase.Fits` says what makes them right: each comes from a header of the program
that has a block, the cursor lies inside that block, and the region is the one of the section. Every
step keeps this, whatever the signal is. It follows that only lines inside a setup block or inside
the body of the loop are ever run.

Which lines are run is said by exchanging the executor of the step. A line that may be run in any way
whatever without changing the step was not run by it.
-/

namespace Breadboard

namespace Program

/-- The setup block that closes on line `closing` has its header on line `header`. -/
def SetupCloses (p : Program) (header closing : Nat) : Prop :=
  p.statement? header = some .setup ∧ ∃ block, p.block? header = some block ∧ block.closing = closing

/-- The block belongs to a loop header. -/
def IsLoopBlock (p : Program) (block : Block) : Prop :=
  ∃ header, p.statement? header = some .loop ∧ p.block? header = some block

theorem SetupCloses.closing_lt {p : Program} {header closing : Nat}
    (h : p.SetupCloses header closing) : closing < p.length := by
  obtain ⟨_, block, hblock, rfl⟩ := h
  exact closing_lt_of_block? hblock

theorem IsLoopBlock.bodyEnd_le {p : Program} {block : Block} (h : p.IsLoopBlock block) :
    block.bodyEnd ≤ p.length := by
  obtain ⟨header, _, hblock⟩ := h
  exact bodyEnd_le_of_block? hblock

end Program

namespace Phase

def cursor : Phase → Nat
  | .setup cursor _ => cursor
  | .loop _ cursor _ => cursor
  | _ => 0

/-- The phase fits the program, the mode and the region of a walk. -/
def Fits (p : Program) (mode : Mode) (region : Region) : Phase → Prop
  | .setup cursor (some closing) =>
      region = .setup ∧ (∃ header < cursor, p.SetupCloses header closing) ∧ cursor ≤ closing
  | .setup _ none => region = .outside
  | .loop block cursor passes =>
      region = .loop ∧ p.IsLoopBlock block ∧ block.bodyStart ≤ cursor ∧
        mode.continues passes = true
  | _ => True

variable {p : Program} {mode : Mode} {s : State}

/-- Moving down keeps the fit: past the closing line the walk is outside the setup block. -/
theorem Fits.movedTo {phase : Phase} {next : Nat} (h : phase.Fits p mode s.region)
    (hdown : phase.cursor ≤ next) :
    (phase.movedTo next).Fits p mode (s.movedFrom phase next).region := by
  cases phase with
  | setup cursor closing? =>
      cases closing? with
      | none => exact h
      | some closing =>
          obtain ⟨hregion, ⟨header, habove, hcloses⟩, _⟩ := h
          by_cases hpast : closing < next
          · simp only [Phase.movedTo, State.movedFrom, if_pos hpast]
            rfl
          · simp only [Phase.movedTo, State.movedFrom, if_neg hpast]
            exact ⟨hregion, ⟨header, Nat.lt_of_lt_of_le habove hdown, hcloses⟩,
              Nat.le_of_not_lt hpast⟩
  | loop block cursor passes =>
      obtain ⟨hregion, hblock, hbody, hahead⟩ := h
      exact ⟨hregion, hblock, Nat.le_trans hbody hdown, hahead⟩
  | idle => trivial
  | stopped outcome => trivial

end Phase

namespace Walk

variable {raised : Bool} {w v : Walk} {line : Nat} {statement : Statement}

theorem Runs.cursor_eq (h : w.Runs line statement) : w.phase.cursor = line := by
  cases h with
  | setup closing? hphase => rw [hphase]; rfl
  | loop block passes hphase => rw [hphase]; rfl

def Fits (w : Walk) : Prop :=
  w.phase.Fits w.program w.mode w.state.region

/-- A line that was run leaves the region alone and leads down. -/
private theorem Runs.fits_movedTo {state : State} {transition : Transition} {next : Nat}
    (hfits : w.Fits) (hruns : w.Runs line statement)
    (hexec : execute statement (w.program.block? line) w.state = .ok (transition, state))
    (hdown : line ≤ next) :
    (w.phase.movedTo next).Fits w.program w.mode (state.movedFrom w.phase next).region := by
  have hregion := (executed_of_execute hexec).region_eq
  refine Phase.Fits.movedTo ?_ (hruns.cursor_eq ▸ hdown)
  rw [hregion]
  exact hfits

theorem Change.fits {state : State} {phase : Phase} {cues : List Cue} (hfits : w.Fits)
    (h : Change raised w state phase cues) : phase.Fits w.program w.mode state.region := by
  have down (cursor : Nat) (hcursor : w.phase.cursor = cursor) :
      (w.phase.movedTo (cursor + 1)).Fits w.program w.mode
        (w.state.movedFrom w.phase (cursor + 1)).region :=
    Phase.Fits.movedTo hfits (hcursor ▸ Nat.le_succ _)
  cases h with
  | started => rfl
  | blankInSetup cursor closing? hphase => exact down cursor (by rw [hphase]; rfl)
  | passedOver cursor closing? statement hphase => exact down cursor (by rw [hphase]; rfl)
  | entersSetup cursor closing? block hphase hread hblock =>
      -- not a case of moving down: on its own line a header is not yet above the cursor
      by_cases hpast : block.closing < cursor + 1
      · simp only [Phase.movedTo, State.movedFrom, if_pos hpast]
        rfl
      · simp only [Phase.movedTo, State.movedFrom, if_neg hpast]
        exact ⟨rfl, ⟨cursor, Nat.lt_succ_self _, hread, block, hblock, rfl⟩,
          Nat.le_of_not_lt hpast⟩
  | entersLoop cursor closing? block hphase hread hblock =>
      split
      · next hrepeats =>
        exact ⟨rfl, ⟨cursor, hread, hblock⟩, Nat.le_refl _, Mode.continues_zero hrepeats⟩
      · trivial
  | endsPass block cursor passes hphase hend hcontinues =>
      rw [Walk.Fits, hphase] at hfits
      exact ⟨hfits.1, hfits.2.1, Nat.le_refl _, hcontinues⟩
  | blankInLoop block cursor passes hphase =>
      rw [Walk.Fits, hphase] at hfits
      obtain ⟨hregion, hblock, hbody, hahead⟩ := hfits
      exact ⟨hregion, hblock, Nat.le_succ_of_le hbody, hahead⟩
  | quiet line statement state hruns hexec =>
      exact hruns.fits_movedTo hfits hexec (Nat.le_succ _)
  | effect line statement shown state hruns hexec =>
      exact hruns.fits_movedTo hfits hexec (Nat.le_succ _)
  | taken line statement block state hruns hexec =>
      exact hruns.fits_movedTo hfits hexec (Nat.le_succ _)
  | skipped line statement block state hruns hexec =>
      obtain ⟨_, _, hblock, _⟩ := execute_eq_branch hexec
      have hbelow := Program.le_of_block? hblock
      exact hruns.fits_movedTo hfits hexec (by omega)
  | _ => trivial

theorem Fits.step (h : w.Fits) (raised : Bool) : (w.step raised).Fits := by
  rcases w.running_or_stopped with hrunning | ⟨outcome, hstopped⟩
  · obtain ⟨state, phase, cues, hchange, hstep⟩ := step_changes raised w hrunning
    have hfits := hchange.fits h
    rw [hstep]
    exact hfits
  · rwa [step_of_stopped hstopped]

theorem Visits.fits (hv : w.Visits v) (h : w.Fits) : v.Fits := by
  induction hv with
  | start => exact h
  | delivery cue rest _ _ ih => exact ih
  | step raised _ _ ih => exact ih.step raised

theorem Visits.pending_eq_nil {limit : Nat} (hv : w.Visits v) (h : w.IsSilent limit) :
    v.pending = [] := by
  induction hv with
  | start => exact h.pending
  | delivery cue rest _ hpending ih => cases ih.symm.trans hpending
  | step raised hv hpending _ => exact (IsSilent.mk (hv.mode_eq.trans h.mode) hpending).step.pending

/-- The line lies behind the header of a setup block and not past its closing line, and the walk is
in the setup; or it lies inside the body of the loop that the walk is in. -/
def Covers (w : Walk) (line : Nat) : Prop :=
  (∃ cursor header closing, w.phase = .setup cursor (some closing) ∧
    w.program.SetupCloses header closing ∧ header < line ∧ line ≤ closing) ∨
  ∃ block cursor passes, w.phase = .loop block cursor passes ∧ w.program.IsLoopBlock block ∧
    block.bodyStart ≤ line ∧ line < block.bodyEnd

theorem Runs.covers (hfits : w.Fits) (h : w.Runs line statement) : w.Covers line := by
  cases h with
  | setup closing? hphase hregion =>
      rw [Walk.Fits, hphase, hregion] at hfits
      cases closing? with
      | none => cases hfits
      | some closing =>
          obtain ⟨_, ⟨header, habove, hcloses⟩, hle⟩ := hfits
          exact .inl ⟨line, header, closing, hphase, hcloses, habove, hle⟩
  | loop block passes hphase hinside =>
      rw [Walk.Fits, hphase] at hfits
      obtain ⟨_, hblock, hbody, _⟩ := hfits
      exact .inr ⟨block, line, passes, hphase, hblock, hbody, hinside⟩

theorem stepBy_congr {exec other : Executor} (raised : Bool)
    (h : ∀ line statement, w.Runs line statement → exec line = other line) :
    w.stepBy exec raised = w.stepBy other raised := by
  unfold stepBy
  split
  · rfl
  · next cursor closing? hphase =>
    unfold stepSetup
    split
    · rfl
    · split
      · rfl
      · rfl
      · rfl
      · rfl
      · next statement hblank hsetup hloop hread =>
        split
        · next hregion =>
          have hruns := Runs.setup closing? hphase hregion hread hblank hsetup hloop
          rw [runLine, runLine, h cursor statement hruns]
        · rfl
  · next block cursor passes hphase =>
    unfold stepLoop
    split
    · rfl
    · split
      · rfl
      · next hend =>
        split
        · rfl
        · rfl
        · next statement hblank hread =>
          have hruns := Runs.loop block passes hphase (Nat.lt_of_not_le hend) hread hblank
          rw [runLine, runLine, h cursor statement hruns]
  · rfl

/-- The phase of a walk can be relied on, wherever calls for cues have led. Sections come in their
order and an outcome stays. The region and the cursor are those of the section: in the setup up to
the closing line that is remembered, in the loop inside the body or behind it. So a step runs no
line but those that the walk covers, and inside the body of the loop it always finds one. -/
theorem phase_reliable {program : Program} {mode : Mode} {side : Side} {timing : Timing} {w : Walk}
    (hw : (fresh program mode side timing).Visits w) :
    (∀ v, w.Visits v → v.phase.rank ≤ w.phase.rank ∧
      ∀ outcome, w.phase = .stopped outcome → v.phase = .stopped outcome) ∧
    (∀ cursor closing?, w.phase = .setup cursor closing? →
      (w.state.region = .setup ↔ ∃ closing, closing? = some closing) ∧
      (∀ closing, closing? = some closing →
        (∃ header < cursor, program.statement? header = some .setup ∧
          ∃ block, program.block? header = some block ∧ block.closing = closing) ∧
        cursor ≤ closing ∧ closing < program.length) ∧
      (closing? = none → w.state.region = .outside)) ∧
    (∀ block cursor passes, w.phase = .loop block cursor passes →
      w.state.region = .loop ∧ block.bodyStart ≤ cursor ∧ block.bodyEnd ≤ program.length ∧
        ∀ limit, mode = .silent limit → passes < limit) ∧
    (∀ limit, mode = .silent limit → w.pending = []) ∧
    (∀ exec raised, (∀ line, w.Covers line → exec line = execute) →
      w.stepBy exec raised = w.step raised) ∧
    ∀ block cursor passes, w.phase = .loop block cursor passes → cursor < block.bodyEnd →
      ∃ statement, program.statement? cursor = some statement := by
  have hfits : w.Fits := hw.fits trivial
  have hprogram : w.program = program := hw.program_eq
  have hmode : w.mode = mode := hw.mode_eq
  have hloop (block : Block) (cursor passes : Nat) (hphase : w.phase = .loop block cursor passes) :
      w.state.region = .loop ∧ program.IsLoopBlock block ∧ block.bodyStart ≤ cursor ∧
        mode.continues passes = true := by
    rw [Walk.Fits, hphase, hprogram, hmode] at hfits
    exact hfits
  refine ⟨?_, ?_, ?_, ?_, ?_, ?_⟩
  · intro v hv
    exact ⟨hv.rank_le, fun outcome hstopped => (hv.of_stopped hstopped).1⟩
  · intro cursor closing? hphase
    rw [Walk.Fits, hphase, hprogram] at hfits
    cases closing? with
    | none =>
        have hregion : w.state.region = .outside := hfits
        refine ⟨?_, nofun, fun _ => hregion⟩
        simp [hregion]
    | some closing =>
        obtain ⟨hregion, ⟨header, habove, hcloses⟩, hle⟩ := hfits
        refine ⟨?_, ?_, nofun⟩
        · simp [hregion]
        · rintro _ ⟨⟩
          exact ⟨⟨header, habove, hcloses⟩, hle, hcloses.closing_lt⟩
  · intro block cursor passes hphase
    obtain ⟨hregion, hblock, hbody, hahead⟩ := hloop block cursor passes hphase
    refine ⟨hregion, hbody, hblock.bodyEnd_le, ?_⟩
    rintro limit rfl
    exact of_decide_eq_true hahead
  · rintro limit rfl
    exact hw.pending_eq_nil ⟨rfl, rfl⟩
  · intro exec raised hexec
    exact stepBy_congr raised fun line statement hruns => hexec line (hruns.covers hfits)
  · intro block cursor passes hphase hinside
    obtain ⟨_, hblock, _⟩ := hloop block cursor passes hphase
    exact Option.ne_none_iff_exists'.mp
      (Program.statement?_ne_none (Nat.lt_of_lt_of_le hinside hblock.bodyEnd_le))

/-- A silent walk in the first of two passes, on the only line of the body. -/
theorem phase_reliable_insideLoop :
    let program : Program := .ofSource "void loop()\n\x7b\npin1;\n\x7d".toList
    let start := fresh program (.silent 2) .student .instant
    let w := (start.step false).step false
    let block : Block := ⟨1, 3⟩
    start.Visits w ∧ w.phase = .loop block 2 0 ∧
      (w.state.region = .loop ∧ block.bodyStart ≤ 2 ∧ block.bodyEnd ≤ program.length ∧
        ∀ limit, Mode.silent 2 = .silent limit → 0 < limit) ∧
      w.pending = [] ∧
      (∀ exec raised, (∀ line, w.Covers line → exec line = execute) →
        w.stepBy exec raised = w.step raised) ∧
      ∃ statement, program.statement? 2 = some statement := by
  intro program start w block
  have hvisits : start.Visits w := .step false (.step false .start rfl) (by decide)
  have hphase : w.phase = .loop block 2 0 := by decide
  obtain ⟨_, _, hloop, hsilent, hexec, hline⟩ := phase_reliable hvisits
  exact ⟨hvisits, hphase, hloop block 2 0 hphase, hsilent 2 rfl, hexec,
    hline block 2 0 hphase (by decide)⟩

end Walk

end Breadboard
