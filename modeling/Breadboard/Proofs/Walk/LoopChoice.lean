import Breadboard.Grading
import Breadboard.Proofs.Program.Matching
import Breadboard.Proofs.Walk.Skip

/-!
Which loop a program has. Grading looks at the first loop header of the text that has a block, and a
walk enters the first one that it comes to. These differ if the text has a loop inside the block of
a condition: the setup skips it when the condition is false and comes to another loop further down.
Nothing else can lead past a loop header, because the setup goes through all other lines one by one.
So the two agree on every walk that did not skip a loop, and if they do not agree, it did.

A grade that leaves it open whether to walk the loop is then decided by a loop that does not run.
It comes out as it should as long as both loops switch pins or neither does, or the loop makes no
difference to what is expected.
-/

namespace Breadboard

namespace Program

variable {p : Program} {header : Nat} {block : Block}

theorem loopOn?_eq_some_iff :
    p.loopOn? header = some block ↔
      p.statement? header = some .loop ∧ p.block? header = some block :=
  Option.ite_none_right_eq_some

/-- The loop of the text is the first that has a block. -/
theorem loopBlock?_eq_some_iff :
    p.loopBlock? = some block ↔
      ∃ header, p.loopOn? header = some block ∧ ∀ above < header, p.loopOn? above = none := by
  have hfirst {block : Block} (h : p.loopBlock? = some block) :
      ∃ header, p.loopOn? header = some block ∧ ∀ above < header, p.loopOn? above = none := by
    obtain ⟨before, header, after, hrange, hheader, hnone⟩ := List.findSome?_eq_some_iff.mp h
    refine ⟨header, hheader, ?_⟩
    intro above habove
    apply hnone
    have hsorted : (before ++ header :: after).Pairwise (· < ·) := hrange ▸ List.pairwise_lt_range
    have hmem : above ∈ before ++ header :: after := by
      have hlast : header ∈ List.range p.length := by simp [hrange]
      rw [← hrange]
      exact List.mem_range.mpr (Nat.lt_trans habove (List.mem_range.mp hlast))
    rcases List.mem_append.mp hmem with hbefore | hrest
    · exact hbefore
    · have hbelow := (List.pairwise_cons.mp (List.pairwise_append.mp hsorted).2.1).1
      rcases List.mem_cons.mp hrest with rfl | hafter
      · exact absurd habove (Nat.lt_irrefl _)
      · exact absurd habove (Nat.lt_asymm (hbelow above hafter))
  constructor
  · exact hfirst
  · rintro ⟨header, hheader, hnone⟩
    cases hloop : p.loopBlock? with
    | none =>
        obtain ⟨_, hblock⟩ := loopOn?_eq_some_iff.mp hheader
        have hlt : header < p.length := by
          have hbelow := le_of_block? hblock
          have hclosing := closing_lt_of_block? hblock
          omega
        have hnone := List.findSome?_eq_none_iff.mp hloop header (List.mem_range.mpr hlt)
        cases hheader.symm.trans hnone
    | some other =>
        obtain ⟨header', hheader', hnone'⟩ := hfirst hloop
        rcases Nat.lt_trichotomy header header' with habove | rfl | hbelow
        · cases hheader.symm.trans (hnone' header habove)
        · exact hheader'.symm.trans hheader
        · cases hheader'.symm.trans (hnone header' hbelow)

/-- The body of the block switches a pin. -/
def SwitchesPinIn (p : Program) (block : Block) : Prop :=
  ∃ line l, block.bodyStart ≤ line ∧ line < block.bodyEnd ∧ p.lines[line]? = some l ∧
    l.statement.isPinAction = true

theorem loopHasPinActions_iff_of_loopBlock? (h : p.loopBlock? = some block) :
    p.loopHasPinActions = true ↔ p.SwitchesPinIn block := by
  rw [loopHasPinActions_iff]
  constructor
  · rintro ⟨_, line, l, hblock, hpin⟩
    cases h.symm.trans hblock
    exact ⟨line, l, hpin⟩
  · rintro ⟨line, l, hpin⟩
    exact ⟨block, line, l, h, hpin⟩

/-- Every loop above this line that has a block is one of those. -/
def LoopsAbove (p : Program) (line : Nat) (those : Nat → Prop) : Prop :=
  ∀ above < line, ∀ block, p.loopOn? above = some block → those above

end Program

namespace Phase

/-- How a walk came to where it is: in the setup it has met no loop on the way but `those`, and in
the loop it came to the header of it and had met no loop but `those` before. -/
def Accounts (p : Program) (met : Nat → Prop) (those : Nat → Prop) : Phase → Prop
  | .setup cursor _ => p.LoopsAbove cursor those
  | .loop block _ _ => ∃ header, p.loopOn? header = some block ∧ met header ∧
      p.LoopsAbove header those
  | _ => True

variable {p : Program} {met those met' those' : Nat → Prop} {phase : Phase}

theorem Accounts.mono (h : phase.Accounts p met those) (hmet : ∀ line, met line → met' line)
    (hthose : ∀ line, those line → those' line) : phase.Accounts p met' those' := by
  cases phase with
  | setup cursor closing? =>
      intro above habove block hblock
      exact hthose above (h above habove block hblock)
  | loop block cursor passes =>
      obtain ⟨header, hheader, hmeets, habove⟩ := h
      refine ⟨header, hheader, hmet header hmeets, ?_⟩
      intro above hlt other hother
      exact hthose above (habove above hlt other hother)
  | _ => trivial

/-- Moving down the setup accounts for the lines in between. -/
theorem Accounts.movedTo {next : Nat} (h : phase.Accounts p met those)
    (hbetween : ∀ cursor closing?, phase = .setup cursor closing? →
      ∀ line, cursor ≤ line → line < next → ∀ block, p.loopOn? line = some block → those line) :
    (phase.movedTo next).Accounts p met those := by
  cases phase with
  | setup cursor closing? =>
      have hall : p.LoopsAbove next those := by
        intro above habove block hblock
        rcases Nat.lt_or_ge above cursor with hbefore | hafter
        · exact h above hbefore block hblock
        · exact hbetween cursor closing? rfl above hafter habove block hblock
      cases closing? <;> exact hall
  | loop block cursor passes => exact h
  | _ => trivial

end Phase

namespace Walk

variable {w v : Walk} {met those : Nat → Prop}

/-- The walk has come to a loop that has a block. -/
def IsAtLoop (w : Walk) (header : Nat) (block : Block) : Prop :=
  (∃ closing?, w.phase = .setup header closing?) ∧ w.program.loopOn? header = some block

/-- The next step skips this line in the setup. -/
def JumpsOver (w : Walk) (line : Nat) : Prop :=
  ∃ header skipped closing?, w.phase = .setup header closing? ∧ w.Skips header skipped ∧
    header < line ∧ line ≤ skipped.closing

theorem phase_step_of_isAtLoop {header : Nat} {block : Block} (h : w.IsAtLoop header block) :
    (w.step false).phase =
      if w.mode.repeats then .loop block block.bodyStart 0 else .stopped .completed := by
  obtain ⟨⟨closing?, hphase⟩, hloop⟩ := h
  obtain ⟨hread, hblock⟩ := Program.loopOn?_eq_some_iff.mp hloop
  unfold step stepBy
  rw [hphase]
  simp only [Bool.false_eq_true, if_false, stepSetup, hread, enterLoop, hblock]
  split <;> rfl

private theorem Change.accounts {state : State} {phase : Phase} {cues : List Cue}
    (hchange : Change false w state phase cues) (h : w.phase.Accounts w.program met those)
    (hat : ∀ header block, ¬w.IsAtLoop header block)
    (hthose : ∀ line, w.JumpsOver line → those line) : phase.Accounts w.program met those := by
  have hhere {cursor : Nat} {closing? : Option Nat} {block : Block}
      (hphase : w.phase = .setup cursor closing?) : w.program.loopOn? cursor ≠ some block := by
    intro hloop
    exact hat cursor block ⟨⟨closing?, hphase⟩, hloop⟩
  have down {cursor : Nat} (hcursor : w.phase.cursor = cursor) :
      (w.phase.movedTo (cursor + 1)).Accounts w.program met those := by
    apply h.movedTo
    intro cursor' closing? hphase line hle hlt block hblock
    rw [hphase] at hcursor
    cases hcursor
    cases Nat.le_antisymm hle (Nat.le_of_lt_succ hlt)
    exact absurd hblock (hhere hphase)
  cases hchange with
  | started =>
      intro above habove
      exact absurd habove (Nat.not_lt_zero above)
  | blankInSetup cursor closing? hphase => exact down (by rw [hphase]; rfl)
  | passedOver cursor closing? statement hphase => exact down (by rw [hphase]; rfl)
  | entersSetup cursor closing? block hphase =>
      rw [hphase] at h
      have hinside : (Phase.setup cursor (some block.closing)).Accounts w.program met those := h
      apply hinside.movedTo
      rintro _ _ ⟨⟩ line hle hlt other hother
      cases Nat.le_antisymm hle (Nat.le_of_lt_succ hlt)
      exact absurd hother (hhere hphase)
  | entersLoop cursor closing? block hphase hread hblock =>
      exact absurd (Program.loopOn?_eq_some_iff.mpr ⟨hread, hblock⟩) (hhere hphase)
  | endsPass block cursor passes hphase =>
      rw [hphase] at h
      exact h
  | blankInLoop block cursor passes hphase =>
      rw [hphase] at h
      exact h
  | quiet line statement state hruns => exact down hruns.cursor_eq
  | effect line statement shown state hruns => exact down hruns.cursor_eq
  | taken line statement block state hruns => exact down hruns.cursor_eq
  | skipped line statement block state hruns hexec =>
      obtain ⟨condition, rfl, hblock, hfalse, _⟩ := execute_eq_branch hexec
      apply h.movedTo
      intro cursor closing? hphase above hle hlt other hother
      have hcursor := hruns.cursor_eq
      rw [hphase] at hcursor
      cases hcursor
      rcases Nat.eq_or_lt_of_le hle with rfl | hbelow
      · exact absurd hother (hhere hphase)
      · apply hthose
        exact ⟨cursor, block, closing?, hphase, ⟨⟨condition, hruns, hfalse⟩, hblock⟩, hbelow,
          Nat.le_of_lt_succ hlt⟩
  | _ => trivial

/-- A step accounts for the loop that it enters and for the lines that it jumps over. -/
theorem accounts_step {p : Program} (hprogram : w.program = p)
    (h : w.phase.Accounts p met those)
    (hmet : ∀ header block, w.IsAtLoop header block → met header)
    (hthose : ∀ line, w.JumpsOver line → those line) :
    (w.step false).phase.Accounts p met those := by
  subst hprogram
  by_cases hat : ∃ header block, w.IsAtLoop header block
  · obtain ⟨header, block, hat⟩ := hat
    rw [phase_step_of_isAtLoop hat]
    split
    · obtain ⟨⟨closing?, hphase⟩, hloop⟩ := hat
      rw [hphase] at h
      exact ⟨header, hloop, hmet header block ⟨⟨closing?, hphase⟩, hloop⟩, h⟩
    · trivial
  · rcases w.running_or_stopped with hrunning | ⟨outcome, hstopped⟩
    · obtain ⟨state, phase, cues, hchange, hstep⟩ := step_changes false w hrunning
      have hafter := hchange.accounts h (by simpa using hat) hthose
      rw [hstep]
      exact hafter
    · rwa [step_of_stopped hstopped]

/-- On the way from `w` to `v` the setup skipped this line. -/
def JumpedOver (w v : Walk) (line : Nat) : Prop :=
  ∃ u, w.Visits u ∧ u.pending = [] ∧ u.JumpsOver line ∧ (u.step false).Visits v

theorem JumpedOver.trans {u : Walk} {line : Nat} (h : w.JumpedOver u line) (h' : u.Visits v) :
    w.JumpedOver v line := by
  obtain ⟨x, hx, hpending, hjumps, hon⟩ := h
  exact ⟨x, hx, hpending, hjumps, hon.trans h'⟩

/-- A raised signal ends a walk, or the step is the first one and does not look at it. -/
theorem step_true_eq (w : Walk) :
    (∃ outcome, (w.step true).phase = .stopped outcome) ∨ w.step true = w.step false := by
  rcases w.running_or_stopped with hrunning | ⟨outcome, hstopped⟩
  · by_cases hidle : w.phase = .idle
    · right
      unfold step stepBy
      rw [hidle]
    · left
      rw [step_of_raised hidle hrunning]
      exact ⟨.cancelled, rfl⟩
  · left
    rw [step_of_stopped hstopped]
    exact ⟨outcome, hstopped⟩

/-- All loops that a walk has passed lie in blocks that it skipped. -/
theorem Visits.accounts (hv : w.Visits v) (hidle : w.phase = .idle) :
    v.phase.Accounts w.program (fun _ => True) (w.JumpedOver v) := by
  induction hv with
  | start =>
      rw [hidle]
      trivial
  | @delivery v cue rest hv hpending ih =>
      have hon : v.Visits { v with pending := rest } := .delivery cue rest .start hpending
      exact ih.mono (fun _ => id) fun line hline => hline.trans hon
  | @step v raised hv hpending ih =>
      have hdown : (v.step false).phase.Accounts w.program (fun _ => True)
          (w.JumpedOver (v.step false)) := by
        apply accounts_step hv.program_eq
        · apply ih.mono fun _ => id
          intro line hline
          exact hline.trans (.step false .start hpending)
        · intros
          trivial
        · intro line hline
          exact ⟨v, hv, hpending, hline, .start⟩
      cases raised with
      | false => exact hdown
      | true =>
          rcases v.step_true_eq with ⟨outcome, hstopped⟩ | heq
          · rw [hstopped]
            trivial
          · rwa [heq]

end Walk

namespace Phase

/-- The walk is past this line for good. -/
def IsBelow (line : Nat) : Phase → Prop
  | .idle => False
  | .setup cursor _ => line < cursor
  | .loop block _ _ => line < block.opening
  | .stopped _ => True

theorem IsBelow.movedTo {phase : Phase} {line next : Nat} (h : phase.IsBelow line)
    (hdown : phase.cursor ≤ next) : (phase.movedTo next).IsBelow line := by
  cases phase with
  | setup cursor closing? =>
      have hnext : line < next := Nat.lt_of_lt_of_le h hdown
      cases closing? <;> exact hnext
  | _ => exact h

end Phase

namespace Walk

variable {w v : Walk} {line : Nat}

private theorem Change.isBelow {raised : Bool} {state : State} {phase : Phase} {cues : List Cue}
    (hchange : Change raised w state phase cues) (h : w.phase.IsBelow line) :
    phase.IsBelow line := by
  have hruns {ran next : Nat} {statement : Statement} (hruns : w.Runs ran statement)
      (hdown : ran ≤ next) : (w.phase.movedTo next).IsBelow line :=
    h.movedTo (hruns.cursor_eq ▸ hdown)
  cases hchange with
  | started hphase =>
      rw [hphase] at h
      exact h.elim
  | blankInSetup cursor closing? hphase =>
      apply h.movedTo
      rw [hphase]
      exact Nat.le_succ cursor
  | passedOver cursor closing? statement hphase =>
      apply h.movedTo
      rw [hphase]
      exact Nat.le_succ cursor
  | entersSetup cursor closing? block hphase =>
      rw [hphase] at h
      exact Nat.lt_succ_of_lt h
  | entersLoop cursor closing? block hphase hread hblock =>
      rw [hphase] at h
      split
      · exact Nat.lt_of_lt_of_le h (Program.le_of_block? hblock).1
      · trivial
  | endsPass block cursor passes hphase =>
      rw [hphase] at h
      exact h
  | blankInLoop block cursor passes hphase =>
      rw [hphase] at h
      exact h
  | quiet ran statement state hran => exact hruns hran (Nat.le_succ _)
  | effect ran statement shown state hran => exact hruns hran (Nat.le_succ _)
  | taken ran statement block state hran => exact hruns hran (Nat.le_succ _)
  | skipped ran statement block state hran hexec =>
      obtain ⟨_, _, hblock, _⟩ := execute_eq_branch hexec
      have hbelow := Program.le_of_block? hblock
      exact hruns hran (by omega)
  | _ => trivial

theorem isBelow_step (raised : Bool) (h : w.phase.IsBelow line) :
    (w.step raised).phase.IsBelow line := by
  rcases w.running_or_stopped with hrunning | ⟨outcome, hstopped⟩
  · obtain ⟨state, phase, cues, hchange, hstep⟩ := step_changes raised w hrunning
    have hafter := hchange.isBelow h
    rw [hstep]
    exact hafter
  · rwa [step_of_stopped hstopped]

theorem Visits.isBelow (hv : w.Visits v) (h : w.phase.IsBelow line) : v.phase.IsBelow line := by
  induction hv with
  | start => exact h
  | delivery cue rest _ _ ih => exact ih
  | step raised _ _ ih => exact isBelow_step raised ih

/-- The loop that a walk repeats is that of the text exactly if it did not skip a loop. -/
theorem loopBlock?_eq_iff_of_loop {block : Block} {cursor passes : Nat}
    (hwritten : w.program.HeadersWritten) (hidle : w.phase = .idle) (hv : w.Visits v)
    (hphase : v.phase = .loop block cursor passes) :
    w.program.loopBlock? = some block ↔
      ∀ line other, w.program.loopOn? line = some other → ¬w.JumpedOver v line := by
  constructor
  · intro hfirst line other hloop
    rintro ⟨u, hu, _, ⟨header, skipped, closing?, hsetup, hskips, hbehind, hinside⟩, hon⟩
    have hbelow : v.phase.IsBelow skipped.closing := by
      apply hon.isBelow
      rw [hskips.phase_step, hsetup]
      cases closing? <;> exact Nat.lt_succ_self _
    rw [hphase] at hbelow
    replace hbelow : skipped.closing < block.opening := hbelow
    have hskipped : w.program.block? header = some skipped := hu.program_eq ▸ hskips.block
    have hskippedLe := (Program.le_of_block? hskipped).2
    obtain ⟨first, hfirst, hnone⟩ := Program.loopBlock?_eq_some_iff.mp hfirst
    obtain ⟨_, hblock⟩ := Program.loopOn?_eq_some_iff.mp hfirst
    have hblockLe := (Program.le_of_block? hblock).2
    -- the first loop lies above the skipped block, on its header or inside it
    rcases Nat.lt_trichotomy first header with habove | rfl | hinner
    · have hopens := (hwritten.nested_or_disjoint hblock hskipped habove).1
      omega
    · cases hblock.symm.trans hskipped
      omega
    · have hle : first ≤ line := by
        apply Nat.le_of_not_lt
        intro hlt
        cases hloop.symm.trans (hnone line hlt)
      rcases (hwritten.nested_or_disjoint hskipped hblock hinner).2 with hends | hencloses
      · omega
      · omega
  · intro hnone
    have haccounts := hv.accounts hidle
    rw [hphase] at haccounts
    obtain ⟨header, hheader, _, habove⟩ := haccounts
    apply Program.loopBlock?_eq_some_iff.mpr
    refine ⟨header, hheader, ?_⟩
    intro above hlt
    rw [Option.eq_none_iff_forall_ne_some]
    intro other hother
    exact hnone above other hother (habove above hlt other hother)

theorem accounts_silentAt (p : Program) (passes steps : Nat) :
    (silentAt p passes steps).phase.Accounts p
      (fun header => ∃ earlier block, (silentAt p passes earlier).IsAtLoop header block)
      (fun line => ∃ earlier, (silentAt p passes earlier).JumpsOver line) := by
  induction steps with
  | zero => trivial
  | succ steps ih =>
      rw [silentAt_succ]
      apply accounts_step (program_silentAt p passes steps) ih
      · intro header block hat
        exact ⟨steps, block, hat⟩
      · intro line hjumps
        exact ⟨steps, hjumps⟩

end Walk

namespace Program

variable {p : Program} {block : Block} {source : Text}

/-- The silent walk comes to a loop header with this block. -/
def ReachesLoop (p : Program) (block : Block) : Prop :=
  ∃ steps header, (Walk.silentAt p 1 steps).IsAtLoop header block

/-- There is only one, because the walk goes into it. -/
theorem ReachesLoop.unique {other : Block} (h : p.ReachesLoop block) (h' : p.ReachesLoop other) :
    block = other := by
  have hbefore {steps later header header' : Nat} {block other : Block}
      (hat : (Walk.silentAt p 1 steps).IsAtLoop header block)
      (hat' : (Walk.silentAt p 1 later).IsAtLoop header' other) : later ≤ steps := by
    apply Nat.le_of_not_lt
    intro hlater
    obtain ⟨⟨closing?, hphase⟩, _⟩ := hat'
    have hrank :
        (Walk.silentAt p 1 later).phase.rank ≤ (Walk.silentAt p 1 (steps + 1)).phase.rank :=
      (Walk.silent p 1).antitone_rank hlater
    have hmode : (Walk.silentAt p 1 steps).mode.repeats = true := by
      rw [(Walk.isSilent_silentAt p 1 steps).mode]
      rfl
    rw [Walk.silentAt_succ, Walk.phase_step_of_isAtLoop hat, hmode, hphase] at hrank
    exact absurd hrank (Nat.not_succ_le_self 1)
  obtain ⟨steps, header, hat⟩ := h
  obtain ⟨later, header', hat'⟩ := h'
  cases Nat.le_antisymm (hbefore hat' hat) (hbefore hat hat')
  obtain ⟨⟨closing?, hphase⟩, hloop⟩ := hat
  obtain ⟨⟨closing?', hphase'⟩, hloop'⟩ := hat'
  cases hphase.symm.trans hphase'
  exact Option.some.inj (hloop.symm.trans hloop')

/-- The silent walk skips a loop header that has a block. -/
def SkipsLoop (p : Program) : Prop :=
  ∃ steps line block, (Walk.silentAt p 1 steps).JumpsOver line ∧ p.loopOn? line = some block

theorem loopBlock?_of_reachesLoop (h : p.ReachesLoop block) (hnone : ¬p.SkipsLoop) :
    p.loopBlock? = some block := by
  obtain ⟨steps, header, ⟨closing?, hphase⟩, hloop⟩ := h
  have haccounts := Walk.accounts_silentAt p 1 steps
  rw [hphase] at haccounts
  rw [Walk.program_silentAt] at hloop
  apply loopBlock?_eq_some_iff.mpr
  refine ⟨header, hloop, ?_⟩
  intro above hlt
  rw [Option.eq_none_iff_forall_ne_some]
  intro other hother
  obtain ⟨earlier, hjumps⟩ := haccounts above hlt other hother
  exact hnone ⟨earlier, above, other, hjumps, hother⟩

/-- Until a loop is reached, the number of passes does not matter. -/
theorem alike_silentAt (h : ∀ block, ¬p.ReachesLoop block) (steps : Nat) :
    (Walk.silentAt p 0 steps).Alike (Walk.silentAt p 1 steps) := by
  induction steps with
  | zero => exact ⟨rfl, rfl, rfl⟩
  | succ steps ih =>
      rw [Walk.silentAt_succ, Walk.silentAt_succ]
      refine (ih.move_of false ?_ ?_).alike ih
      · intro cursor closing? block hphase hread hblock
        have hloop := loopOn?_eq_some_iff.mpr ⟨hread, hblock⟩
        exact absurd ⟨steps, cursor, ⟨closing?, hphase⟩, hloop⟩ (h block)
      · intro block cursor done hphase
        have haccounts := Walk.accounts_silentAt p 1 steps
        rw [hphase] at haccounts
        obtain ⟨header, _, ⟨earlier, entered, hat⟩, _⟩ := haccounts
        exact absurd ⟨earlier, header, hat⟩ (h entered)

theorem runSilent_of_not_reachesLoop (h : ∀ block, ¬(ofSource source).ReachesLoop block) :
    runSilent source 0 = runSilent source 1 := by
  obtain ⟨last, outcome, _, hstopped⟩ := Walk.exists_last_silentAt (ofSource source) 1
  have halike := alike_silentAt h (last + 1)
  rw [runSilent_eq_of_reaches (Walk.reaches_silentAt _ 1 (last + 1)) hstopped,
    runSilent_eq_of_reaches (Walk.reaches_silentAt _ 0 (last + 1)) (halike.phase.trans hstopped),
    halike.state]

end Program

namespace Expectation

variable {source : Text} {b : Bool}

/-- A loop that is not reached makes no difference. -/
theorem grade_of_not_reachesLoop (e : Expectation)
    (h : ∀ block, ¬(Program.ofSource source).ReachesLoop block) :
    e.grade source (some true) = e.grade source (some false) := by
  have hruns := Program.runSilent_of_not_reachesLoop h
  simp only [grade, Option.getD_some, if_true, Bool.false_eq_true, if_false, hruns]

theorem grade_some_eq_iff (e : Expectation) (source : Text) (a b : Bool) :
    e.grade source (some a) = e.grade source (some b) ↔
      a = b ∨ e.grade source (some true) = e.grade source (some false) := by
  cases a <;> cases b <;> simp [eq_comm]

theorem loopHasPinActions_eq_of_reachesLoop
    (hb : b = true ↔ ∃ block, (Program.ofSource source).ReachesLoop block ∧
      (Program.ofSource source).SwitchesPinIn block)
    (hnone : ¬(Program.ofSource source).SkipsLoop) {block : Block}
    (hreaches : (Program.ofSource source).ReachesLoop block) :
    (Program.ofSource source).loopHasPinActions = b := by
  have hblock := Program.loopBlock?_of_reachesLoop hreaches hnone
  rw [Bool.eq_iff_iff, Program.loopHasPinActions_iff_of_loopBlock? hblock, hb]
  constructor
  · intro hpin
    exact ⟨block, hreaches, hpin⟩
  · rintro ⟨other, hother, hpin⟩
    cases hother.unique hreaches
    exact hpin

/-- Grading that looks for the loop itself, on every source and for every expectation. Let `b` say
whether the silent walk comes to a loop that switches a pin. Then the grade is the one for `b`,
unless the walk skips a loop; and if it does, exactly when both loops call for the same or walking
the loop changes nothing. The loop of the text is the one that a walk repeats exactly if no other
loop was skipped on the way. -/
theorem open_grade_exact (source : Text) (e : Expectation) (b : Bool)
    (hb : b = true ↔ ∃ block, (Program.ofSource source).ReachesLoop block ∧
      (Program.ofSource source).SwitchesPinIn block) :
    (e.grade source none = e.grade source (some b) ↔
      ((Program.ofSource source).SkipsLoop →
        (Program.ofSource source).loopHasPinActions = b ∨
          e.grade source (some true) = e.grade source (some false))) ∧
    ∀ mode side timing w block cursor passes,
      (Walk.fresh (.ofSource source) mode side timing).Visits w →
      w.phase = .loop block cursor passes →
      ((Program.ofSource source).loopBlock? = some block ↔
        ∀ line other, (Program.ofSource source).loopOn? line = some other →
          ¬(Walk.fresh (.ofSource source) mode side timing).JumpedOver w line) := by
  have hopen : e.grade source none =
      e.grade source (some (Program.ofSource source).loopHasPinActions) := rfl
  constructor
  · rw [hopen, grade_some_eq_iff]
    constructor
    · intro hsame _
      exact hsame
    · intro hskipped
      by_cases hskips : (Program.ofSource source).SkipsLoop
      · exact hskipped hskips
      · by_cases hreaches : ∃ block, (Program.ofSource source).ReachesLoop block
        · obtain ⟨block, hreaches⟩ := hreaches
          exact .inl (loopHasPinActions_eq_of_reachesLoop hb hskips hreaches)
        · exact .inr (e.grade_of_not_reachesLoop (not_exists.mp hreaches))
  · intro mode side timing w block cursor passes hw hphase
    exact Walk.loopBlock?_eq_iff_of_loop (Program.headersWritten_ofSource source) rfl hw hphase

/-- A loop that switches a pin, and no other. -/
theorem open_grade_exact_oneLoop :
    let source : Text :=
      "void setup()\n\x7b\npin1;\n\x7d\nvoid loop()\n\x7b\npin1_allumé;\n\x7d".toList
    let e : Expectation := ⟨[(.pin1, ⟨none, some true⟩)], []⟩
    (∃ block, (Program.ofSource source).ReachesLoop block ∧
      (Program.ofSource source).SwitchesPinIn block) ∧
    e.grade source none = e.grade source (some true) := by
  intro source e
  have hreaches : (Program.ofSource source).ReachesLoop ⟨5, 7⟩ :=
    ⟨5, 4, ⟨none, by decide +kernel⟩, by decide +kernel⟩
  have hpin : (Program.ofSource source).SwitchesPinIn ⟨5, 7⟩ :=
    ⟨6, ⟨"pin1_allumé;".toList, .switch ['1'] true⟩, by decide, by decide, by decide +kernel, rfl⟩
  refine ⟨⟨⟨5, 7⟩, hreaches, hpin⟩, ?_⟩
  obtain ⟨hgrade, _⟩ := open_grade_exact source e true ⟨fun _ => ⟨_, hreaches, hpin⟩, fun _ => rfl⟩
  apply hgrade.mpr
  intro _
  left
  decide +kernel

/-- A loop that is skipped can mislead a grade: it switches a pin, and for its sake the loop that
runs is walked, although that one switches none. -/
theorem open_grade_misled_by_skipped_loop :
    let source : Text := ("void setup()\n\x7b\nint x = 1;\nsi (x == 0) alors \x7b\n" ++
      "void loop()\n\x7b\npin1_allumé;\n\x7d\n\x7d\n\x7d\nvoid loop()\n\x7b\nx = 2;\n\x7d").toList
    let e : Expectation := ⟨[], [(['x'], ⟨['1'], none⟩)]⟩
    (¬∃ block, (Program.ofSource source).ReachesLoop block ∧
      (Program.ofSource source).SwitchesPinIn block) ∧
    (Program.ofSource source).ReachesLoop ⟨11, 13⟩ ∧
    (Program.ofSource source).loopBlock? = some ⟨5, 7⟩ ∧
    e.grade source none = .wrong [.wrongValue ['x'] ['1']] ∧
    e.grade source (some false) = .passed := by
  intro source e
  obtain ⟨hphase, hentered, hassigns, hfirst, hloop, hsetup, hwalked⟩ :
      (Walk.silentAt (.ofSource source) 1 6).phase = .setup 10 none ∧
      (Program.ofSource source).loopOn? 10 = some ⟨11, 13⟩ ∧
      (Program.ofSource source).lines[12]? =
        some ⟨"x = 2;".toList, .assign ['x'] .untyped ['2']⟩ ∧
      (Program.ofSource source).loopBlock? = some ⟨5, 7⟩ ∧
      (Program.ofSource source).loopHasPinActions = true ∧
      (Walk.silentAt (.ofSource source) 0 7).phase = .stopped .completed ∧
      (Walk.silentAt (.ofSource source) 1 9).phase = .stopped .completed := by
    decide +kernel
  have hreaches : (Program.ofSource source).ReachesLoop ⟨11, 13⟩ := by
    refine ⟨6, 10, ⟨none, hphase⟩, ?_⟩
    rw [Walk.program_silentAt]
    exact hentered
  refine ⟨?_, hreaches, hfirst, ?_, ?_⟩
  · rintro ⟨block, hother, line, l, hstart, hend, hl, hpin⟩
    cases hother.unique hreaches
    obtain rfl : line = 12 := Nat.le_antisymm (Nat.le_of_lt_succ hend) hstart
    cases hassigns.symm.trans hl
    cases hpin
  · simp only [grade, Option.getD_none, hloop, if_true,
      runSilent_eq_of_reaches (Walk.reaches_silentAt _ 1 9) hwalked]
    decide +kernel
  · simp only [grade, Option.getD_some, Bool.false_eq_true, if_false,
      runSilent_eq_of_reaches (Walk.reaches_silentAt _ 0 7) hsetup]
    decide +kernel

end Expectation

end Breadboard
