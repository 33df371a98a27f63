import Breadboard.Proofs.Program.Edit
import Breadboard.Proofs.Program.Nesting
import Breadboard.Proofs.Statement
import Breadboard.Proofs.Walk.Trace

/-!
A skipped block has no influence. If the condition of a branch is false whenever the branch is run,
then no walk ever comes to a line of its block: from above it is jumped over, together with the
branch itself or with a block around it, and a loop that goes back to its first line goes back to
one outside. The setup could pass over the branch without running it and so enter the block, but it
goes through the lines only once, so a branch that is run at all is not passed over.

The lines that a walk does come to have the same statements and the same blocks when a line inside
is exchanged for another, as long as neither is a header or a brace. So both runs are the same.
-/

namespace Breadboard

namespace Phase

/-- The lines ahead lie behind this one. -/
def IsPast (line : Nat) : Phase → Prop
  | .idle => False
  | .setup cursor _ => line < cursor
  | .loop block _ _ => line < block.bodyStart
  | .stopped _ => True

/-- Neither the cursor nor the line to which the loop goes back lies behind the header and not
behind the closing line. -/
def Avoids (header closing : Nat) : Phase → Prop
  | .setup cursor _ => cursor ≤ header ∨ closing < cursor
  | .loop block cursor _ =>
      (cursor ≤ header ∨ closing < cursor) ∧
        (block.bodyStart ≤ header ∨ closing < block.bodyStart)
  | _ => True

variable {phase : Phase} {line header closing next : Nat}

theorem IsPast.movedTo (h : phase.IsPast line ∨ ∃ closing?, phase = .setup line closing?)
    (hdown : phase.cursor < next) : (phase.movedTo next).IsPast line := by
  cases phase with
  | idle =>
      rcases h with hpast | ⟨closing?, hphase⟩
      · exact hpast
      · cases hphase
  | setup cursor closing? =>
      have hnext : line < next := by
        rcases h with hpast | ⟨_, hphase⟩
        · exact Nat.lt_trans hpast hdown
        · cases hphase
          exact hdown
      cases closing? <;> exact hnext
  | loop block cursor passes =>
      rcases h with hpast | ⟨closing?, hphase⟩
      · exact hpast
      · cases hphase
  | stopped outcome => trivial

theorem Avoids.movedTo (h : phase.Avoids header closing) (hnext : next ≤ header ∨ closing < next) :
    (phase.movedTo next).Avoids header closing := by
  cases phase with
  | setup cursor closing? => cases closing? <;> exact hnext
  | loop block cursor passes => exact ⟨hnext, h.2⟩
  | _ => trivial

theorem Avoids.of_line? (h : phase.Avoids header closing) (hline : phase.line? = some line) :
    line ≤ header ∨ closing < line := by
  cases phase with
  | setup cursor closing? =>
      cases hline
      exact h
  | loop block cursor passes =>
      rw [line?, Option.ite_none_right_eq_some] at hline
      cases hline.2
      exact h.1
  | _ => cases hline

end Phase

/-- A condition starts with a letter. -/
theorem Statement.exists_cons_of_condition? {line condition : Text}
    (h : condition? line = some condition) : ∃ c rest, line = c :: rest ∧ c.toLower = 's' := by
  obtain ⟨_, hkeyword, _⟩ := Option.bind_eq_some_iff.mp h
  unfold Text.dropKeyword? at hkeyword
  split at hkeyword
  · next hletters =>
    cases line with
    | nil => cases hletters
    | cons c rest =>
        refine ⟨c, rest, rfl, ?_⟩
        have hlower := congrArg List.head? (eq_of_beq hletters)
        exact Option.some.inj hlower
  · cases hkeyword

/-- A line that holds a condition lets no header wait. -/
theorem Line.keepsWaiting_of_conditional {line condition : Text}
    (h : Statement.ofLine line = .conditional condition) :
    (Line.ofText line).keepsWaiting = false := by
  obtain ⟨c, rest, htext, hletter⟩ :=
    Statement.exists_cons_of_condition? (Statement.condition?_of_ofTrimmed h)
  have hbrace : c ≠ '{' := by
    rintro rfl
    exact absurd hletter (by decide)
  simp [Line.keepsWaiting, Line.ofText, htext, hbrace]

/-- The line holds a condition, and the block is the one that it owns. -/
structure Program.IsBranch (p : Program) (header : Nat) (condition : Text) (block : Block) :
    Prop where
  statement : p.statement? header = some (.conditional condition)
  block : p.block? header = some block
  /-- No header waits across the line. -/
  barrier : ∃ l, p.lines[header]? = some l ∧ l.keepsWaiting = false

namespace Program.IsBranch

variable {p : Program} {header ran : Nat} {condition : Text} {skipped block : Block}

/-- A block from above ends above the branch or goes as far as the block of the branch; a block from
below is below. -/
theorem closing_avoids (hbranch : p.IsBranch header condition skipped)
    (hblock : p.block? ran = some block) (hran : ran ≤ header ∨ skipped.closing < ran) :
    block.closing + 1 ≤ header ∨ skipped.closing < block.closing + 1 := by
  have hbelow := le_of_block? hblock
  rcases Nat.lt_trichotomy ran header with habove | rfl | hafter
  · obtain ⟨l, hl, hwaits⟩ := hbranch.barrier
    rcases closing_lt_or_le_of_block? hblock hbranch.block habove hl hwaits with hends | hencloses
    · exact .inl hends
    · exact .inr (Nat.lt_succ_of_le hencloses)
  · cases hblock.symm.trans hbranch.block
    exact .inr (Nat.lt_succ_self _)
  · right
    omega

theorem bodyStart_avoids (hbranch : p.IsBranch header condition skipped)
    (hblock : p.block? ran = some block) (hne : ran ≠ header)
    (hran : ran ≤ header ∨ skipped.closing < ran) :
    block.bodyStart ≤ header ∨ skipped.closing < block.bodyStart := by
  have hbelow := le_of_block? hblock
  change block.opening + 1 ≤ header ∨ skipped.closing < block.opening + 1
  rcases Nat.lt_or_ge ran header with habove | hafter
  · obtain ⟨l, hl, hwaits⟩ := hbranch.barrier
    exact .inl (opening_lt_of_block? hblock habove hl hwaits)
  · right
    omega

end Program.IsBranch

namespace Walk

variable {w : Walk} {p : Program} {passes steps later line header : Nat} {condition : Text}
  {skipped : Block} {statement : Statement} {closing? : Option Nat}

private theorem Change.isPast {state : State} {phase : Phase} {cues : List Cue}
    (h : Change false w state phase cues)
    (hw : w.phase.IsPast line ∨ ∃ closing?, w.phase = .setup line closing?) :
    phase.IsPast line := by
  have hat (cursor : Nat) (closing? : Option Nat) (hphase : w.phase = .setup cursor closing?) :
      line ≤ cursor := by
    rw [hphase] at hw
    rcases hw with hpast | ⟨_, hsame⟩
    · exact Nat.le_of_lt hpast
    · cases hsame
      exact Nat.le_refl _
  have hinside (block : Block) (cursor passes : Nat)
      (hphase : w.phase = .loop block cursor passes) : line < block.bodyStart := by
    rw [hphase] at hw
    rcases hw with hpast | ⟨_, hsame⟩
    · exact hpast
    · cases hsame
  have hruns {ran next : Nat} {statement : Statement} (hruns : w.Runs ran statement)
      (hdown : ran < next) : (w.phase.movedTo next).IsPast line :=
    .movedTo hw (hruns.cursor_eq ▸ hdown)
  cases h with
  | started hphase =>
      rw [hphase] at hw
      rcases hw with hpast | ⟨_, hsame⟩
      · cases hpast
      · cases hsame
  | blankInSetup cursor closing? hphase =>
      refine .movedTo hw ?_
      rw [hphase]
      exact Nat.lt_succ_self _
  | passedOver cursor closing? statement hphase =>
      refine .movedTo hw ?_
      rw [hphase]
      exact Nat.lt_succ_self _
  | entersSetup cursor closing? block hphase => exact Nat.lt_succ_of_le (hat cursor closing? hphase)
  | entersLoop cursor closing? block hphase hread hblock =>
      have hbelow := (Program.le_of_block? hblock).1
      have habove := hat cursor closing? hphase
      split
      · change line < block.opening + 1
        omega
      · trivial
  | endsPass block cursor passes hphase => exact hinside block cursor passes hphase
  | blankInLoop block cursor passes hphase => exact hinside block cursor passes hphase
  | quiet ran statement state hran => exact hruns hran (Nat.lt_succ_self _)
  | effect ran statement shown state hran => exact hruns hran (Nat.lt_succ_self _)
  | taken ran statement block state hran => exact hruns hran (Nat.lt_succ_self _)
  | skipped ran statement block state hran hexec =>
      obtain ⟨_, _, hblock, _⟩ := execute_eq_branch hexec
      have hbelow := Program.le_of_block? hblock
      exact hruns hran (by omega)
  | _ => trivial

theorem isPast_step (h : w.phase.IsPast line ∨ ∃ closing?, w.phase = .setup line closing?) :
    (w.step false).phase.IsPast line := by
  rcases w.running_or_stopped with hrunning | ⟨outcome, hstopped⟩
  · obtain ⟨state, phase, cues, hchange, hstep⟩ := step_changes false w hrunning
    have hpast := hchange.isPast h
    rw [hstep]
    exact hpast
  · rw [step_of_stopped hstopped, hstopped]
    trivial

/-- The setup goes through the lines once. -/
theorem isPast_silentAt (hphase : (silentAt p passes steps).phase = .setup line closing?)
    (hlater : steps < later) : (silentAt p passes later).phase.IsPast line := by
  induction later, hlater using Nat.le_induction with
  | base =>
      rw [silentAt_succ]
      exact isPast_step (.inr ⟨closing?, hphase⟩)
  | succ later _ ih =>
      rw [silentAt_succ]
      exact isPast_step (.inl ih)

theorem not_runs_of_isPast (hfits : w.Fits) (hpast : w.phase.IsPast line)
    (statement : Statement) : ¬w.Runs line statement := by
  intro hruns
  cases hruns with
  | setup closing? hphase =>
      rw [hphase] at hpast
      exact Nat.lt_irrefl _ hpast
  | loop block passes hphase =>
      rw [hphase] at hpast
      rw [Walk.Fits, hphase] at hfits
      exact Nat.lt_irrefl _ (Nat.lt_of_lt_of_le hpast hfits.2.2.1)

/-- A line that is run at some point is not passed over at another. -/
theorem region_of_runs (hruns : (silentAt p passes steps).Runs line statement)
    (hphase : (silentAt p passes later).phase = .setup line closing?) :
    (silentAt p passes later).state.region = .setup := by
  rcases Nat.lt_trichotomy steps later with hbefore | rfl | hafter
  · cases hruns with
    | setup closing? hphase' =>
        have hpast := isPast_silentAt hphase' hbefore
        rw [hphase] at hpast
        exact absurd hpast (Nat.lt_irrefl _)
    | loop block done hphase' =>
        have hrank : (silentAt p passes later).phase.rank ≤ (silentAt p passes steps).phase.rank :=
          (silent p passes).antitone_rank (Nat.le_of_lt hbefore)
        rw [hphase, hphase'] at hrank
        exact absurd hrank (Nat.not_succ_le_self 1)
  · cases hruns with
    | setup closing? hphase' hregion => exact hregion
    | loop block done hphase' => cases hphase.symm.trans hphase'
  · exact absurd hruns
      (not_runs_of_isPast (fits_silentAt p passes steps) (isPast_silentAt hphase hafter) _)

section Branch

variable (hbranch : p.IsBranch header condition skipped)

include hbranch

/-- Running the branch skips its block, and running another line does not lead into it. -/
theorem Runs.target_avoids {ran : Nat} {transition : Transition} {after : State}
    (hprogram : w.program = p) (hw : w.phase.Avoids header skipped.closing)
    (hfalse : ∀ statement, w.Runs header statement → w.state.evaluate condition = .ok false)
    (hruns : w.Runs ran statement)
    (hexec : execute statement (w.program.block? ran) w.state = .ok (transition, after)) :
    transition.target ran ≤ header ∨ skipped.closing < transition.target ran := by
  have hran := hw.of_line? hruns.line?_eq
  have hread := hruns.statement?_eq
  rw [hprogram] at hexec hread
  by_cases hheader : ran = header
  · subst hheader
    cases hread.symm.trans hbranch.statement
    rw [hbranch.block, execute, hfalse _ hruns] at hexec
    cases hexec
    exact .inr (Nat.lt_succ_self _)
  · have hnext : ran + 1 ≤ header ∨ skipped.closing < ran + 1 := by omega
    cases transition with
    | quiet => exact hnext
    | effect shown => exact hnext
    | branch taken block =>
        cases taken with
        | true => exact hnext
        | false =>
            obtain ⟨_, _, hblock, _⟩ := execute_eq_branch hexec
            exact hbranch.closing_avoids hblock hran

private theorem Change.avoids {state : State} {phase : Phase} {cues : List Cue}
    (hprogram : w.program = p) (h : Change false w state phase cues)
    (hw : w.phase.Avoids header skipped.closing)
    (hfalse : ∀ statement, w.Runs header statement → w.state.evaluate condition = .ok false)
    (hregion : ∀ closing?, w.phase = .setup header closing? → w.state.region = .setup) :
    phase.Avoids header skipped.closing := by
  have hat {cursor : Nat} {closing? : Option Nat} (hphase : w.phase = .setup cursor closing?) :
      cursor ≤ header ∨ skipped.closing < cursor := by
    rw [hphase] at hw
    exact hw
  have hother {cursor : Nat} {statement : Statement}
      (hread : w.program.statement? cursor = some statement)
      (hstatement : statement ≠ .conditional condition) : cursor ≠ header := by
    rintro rfl
    rw [hprogram] at hread
    cases hread.symm.trans hbranch.statement
    exact hstatement rfl
  have hnext {cursor : Nat} (hcursor : cursor ≤ header ∨ skipped.closing < cursor)
      (hne : cursor ≠ header) : cursor + 1 ≤ header ∨ skipped.closing < cursor + 1 := by
    omega
  cases h with
  | started => exact .inl (Nat.zero_le _)
  | blankInSetup cursor closing? hphase hread =>
      exact hw.movedTo (hnext (hat hphase) (hother hread nofun))
  | passedOver cursor closing? statement hphase hread hblank houtside =>
      refine hw.movedTo (hnext (hat hphase) ?_)
      rintro rfl
      exact houtside (hregion closing? hphase)
  | entersSetup cursor closing? block hphase hread =>
      exact hnext (hat hphase) (hother hread nofun)
  | entersLoop cursor closing? block hphase hread hblock =>
      rw [hprogram] at hblock
      have hbody := hbranch.bodyStart_avoids hblock (hother hread nofun) (hat hphase)
      split
      · exact ⟨hbody, hbody⟩
      · trivial
  | endsPass block cursor passes hphase =>
      rw [hphase] at hw
      exact ⟨hw.2, hw.2⟩
  | blankInLoop block cursor passes hphase hinside hread =>
      rw [hphase] at hw
      exact ⟨hnext hw.1 (hother hread nofun), hw.2⟩
  | quiet ran statement state hruns hexec =>
      exact hw.movedTo (hruns.target_avoids hbranch hprogram hw hfalse hexec)
  | effect ran statement shown state hruns hexec =>
      exact hw.movedTo (hruns.target_avoids hbranch hprogram hw hfalse hexec)
  | taken ran statement block state hruns hexec =>
      exact hw.movedTo (hruns.target_avoids hbranch hprogram hw hfalse hexec)
  | skipped ran statement block state hruns hexec =>
      exact hw.movedTo (hruns.target_avoids hbranch hprogram hw hfalse hexec)
  | _ => trivial

/-- A run in which the condition is never true does not come to the block. -/
theorem avoids_silentAt
    (hruns : ∃ steps statement, (silentAt p passes steps).Runs header statement)
    (hfalse : ∀ steps statement, (silentAt p passes steps).Runs header statement →
      (silentAt p passes steps).state.evaluate condition = .ok false) (steps : Nat) :
    (silentAt p passes steps).phase.Avoids header skipped.closing := by
  induction steps with
  | zero => trivial
  | succ steps ih =>
      rw [silentAt_succ]
      rcases (silentAt p passes steps).running_or_stopped with hrunning | ⟨outcome, hstopped⟩
      · obtain ⟨state, phase, cues, hchange, hstep⟩ := step_changes false _ hrunning
        rw [hstep]
        refine hchange.avoids hbranch (program_silentAt p passes steps) ih (hfalse steps) ?_
        intro closing? hphase
        obtain ⟨_, _, hruns⟩ := hruns
        exact region_of_runs hruns hphase
      · rwa [step_of_stopped hstopped]

/-- Two programs that differ inside the block only have the same run. -/
theorem silentAt_withLine_inside {index : Nat} {l old : Line}
    (hruns : ∃ steps statement, (silentAt p passes steps).Runs header statement)
    (hfalse : ∀ steps statement, (silentAt p passes steps).Runs header statement →
      (silentAt p passes steps).state.evaluate condition = .ok false)
    (hopening : skipped.opening < index) (hclosing : index < skipped.closing)
    (hold : p.lines[index]? = some old)
    (hheader : l.statement.isHeader = old.statement.isHeader) (hbraces : l.braces = old.braces)
    (steps : Nat) :
    silentAt (p.withLine index l) passes steps =
      (silentAt p passes steps).withProgram (p.withLine index l) := by
  have hbelow := (Program.le_of_block? hbranch.block).1
  refine silentAt_withProgram ?_
  intro earlier _
  have houtside := avoids_silentAt hbranch hruns hfalse earlier
  refine step_withProgram ?_ ?_ ?_
  · intro _
    have hsame : (p.withLine index l).statement? header = some (.conditional condition) := by
      rw [Program.statement?_withLine_of_ne (by omega), hbranch.statement]
    rw [program_silentAt, Program.isBlank_eq_false_of_statement? hsame nofun,
      Program.isBlank_eq_false_of_statement? hbranch.statement nofun]
  · intro line hline
    have hoff := houtside.of_line? hline
    rw [program_silentAt]
    exact Program.statement?_withLine_of_ne (by omega)
  · intro line hline
    have hoff := houtside.of_line? hline
    rw [program_silentAt]
    refine Program.block?_withLine hold hheader hbraces ?_
    intro habove
    obtain ⟨first, more, hfirst, hopens, _⟩ := (Program.opensFrom_of_block? hbranch.block).1.opens
    refine .inr ⟨skipped.opening, first, by omega, hopening, hfirst, ?_⟩
    rw [hopens]
    exact nofun

end Branch

/-- A skipped block has no influence. Take any source, any number of passes and a condition on a
line that the run runs at least once and finds false every time. Then any line strictly between the
braces of its block, if it is neither a brace nor a header, can be replaced by any other such line:
the report of the run stays the same, its state and its outcome with the line of a failure. -/
theorem skipped_block_inert {source old new condition : Text} {passes header index : Nat}
    {block : Block}
    (hheader : (Program.ofSource source).statement? header = some (.conditional condition))
    (hblock : (Program.ofSource source).block? header = some block)
    (hruns : ∃ steps statement, (silentAt (.ofSource source) passes steps).Runs header statement)
    (hfalse : ∀ steps statement, (silentAt (.ofSource source) passes steps).Runs header statement →
      (silentAt (.ofSource source) passes steps).state.evaluate condition = .ok false)
    (hopening : block.opening < index) (hclosing : index < block.closing)
    (hold : source.lines[index]? = some old) (holdPlain : (Statement.ofLine old).isPlain = true)
    (hnew : '\n' ∉ new) (hnewPlain : (Statement.ofLine new).isPlain = true) :
    runSilent (source.withLine index new) passes = runSilent source passes := by
  let program := Program.ofSource source
  let oldLine : PlainLine :=
    ⟨old, Text.newline_notMem_of_mem_lines (List.mem_of_getElem? hold), holdPlain⟩
  let newLine : PlainLine := ⟨new, hnew, hnewPlain⟩
  have hlines (line : Nat) : program.lines[line]? = source.lines[line]?.map Line.ofText :=
    List.getElem?_map
  have hbranch : program.IsBranch header condition block := by
    refine ⟨hheader, hblock, ?_⟩
    obtain ⟨l, hl, hstatement⟩ := Option.map_eq_some_iff.mp hheader
    obtain ⟨text, _, rfl⟩ := Option.map_eq_some_iff.mp ((hlines header).symm.trans hl)
    exact ⟨_, hl, Line.keepsWaiting_of_conditional hstatement⟩
  have hkept : index + 1 < source.lines.length := by
    have hlast := Program.closing_lt_of_block? hblock
    rw [Program.length, Program.ofSource, List.length_map] at hlast
    omega
  have hedited := Program.ofSource_withLine (Nat.lt_of_succ_lt hkept) hnew (.inl hkept)
  have htogether := silentAt_withLine_inside hbranch hruns hfalse hopening hclosing
    (by rw [hlines, hold]; rfl)
    (newLine.isHeader_eq_false.trans oldLine.isHeader_eq_false.symm)
    (newLine.braces_eq_nil.trans oldLine.braces_eq_nil.symm)
  obtain ⟨last, outcome, _, hstopped⟩ := exists_last_silentAt program passes
  have hreport := runSilent_eq_of_reaches (reaches_silentAt program passes (last + 1)) hstopped
  have hreaches := reaches_silentAt (Program.ofSource (source.withLine index new)) passes (last + 1)
  rw [hedited, htogether, ← hedited] at hreaches
  rw [hreport]
  have hreport' := runSilent_eq_of_reaches hreaches hstopped
  exact hreport'

/-- Two passes over a block with another branch in it. The new line is no code at all, and its
braces do not count. -/
theorem skipped_block_inert_nested :
    let above := "void loop()\n\x7b\nn = 0;\nsi (n == 1) alors \x7b\n".toList
    let below := "\nsi (n == 2) alors \x7b\n\x7d\n\x7d\nn = 3;\n\x7d".toList
    let source : Text := above ++ "pin1;".toList ++ below
    let edited : Text := above ++ "\x7d\x7b pas de code".toList ++ below
    let program := Program.ofSource source
    program.block? 3 = some ⟨3, 7⟩ ∧ (silentAt program 2 7).phase = .loop ⟨1, 9⟩ 3 1 ∧
      runSilent edited 2 = runSilent source 2 := by
  intro above below source edited program
  have hblock : program.block? 3 = some ⟨3, 7⟩ := by decide +kernel
  have hphase : (silentAt program 2 7).phase = .loop ⟨1, 9⟩ 3 1 := by decide +kernel
  have hread : program.statement? 3 = some (.conditional "n == 1".toList) := by decide +kernel
  have hruns : (silentAt program 2 7).Runs 3 (.conditional "n == 1".toList) := by
    refine .loop ⟨1, 9⟩ 1 hphase (by decide) ?_ nofun
    rw [program_silentAt]
    exact hread
  have hfalse : ∀ steps < 10, (silentAt program 2 steps).phase.cursor = 3 →
      (silentAt program 2 steps).state.evaluate "n == 1".toList = .ok false := by
    decide +kernel
  have hstopped : (silentAt program 2 10).phase = .stopped .completed := by decide +kernel
  have hedited : edited = source.withLine 4 "\x7d\x7b pas de code".toList := by decide +kernel
  refine ⟨hblock, hphase, ?_⟩
  rw [hedited]
  refine skipped_block_inert hread hblock ⟨7, _, hruns⟩ ?_ (by decide) (by decide)
    (show source.lines[4]? = some "pin1;".toList by decide +kernel) (by decide) (by decide)
    (by decide)
  intro steps statement hran
  rcases Nat.lt_or_ge steps 10 with hearly | hlate
  · exact hfalse steps hearly hran.cursor_eq
  · rw [silentAt_of_stopped hstopped hlate] at hran
    exact absurd hran (not_runs_of_stopped hstopped 3 statement)

end Walk

end Breadboard
