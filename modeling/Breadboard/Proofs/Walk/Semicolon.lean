import Breadboard.Proofs.Program.Edit
import Breadboard.Proofs.Statement.Semicolon
import Breadboard.Proofs.Walk.Trace

/-!
A forgotten semicolon is reported on its own line. Taking the semicolon off a line changes its
statement and nothing else that a walk could notice before it runs the line: the blocks stay where
they are, and lines outside both sections are passed over whatever they say. So the two runs go step
by step together until the line is run for the first time, and there the edited one fails.
-/

namespace Breadboard

namespace Statement

/-- Neither blank nor the header of a section: in front of both sections such a line is passed
over. -/
def isPassable : Statement → Bool
  | .blank | .setup | .loop => false
  | _ => true

variable {statement : Statement}

theorem isPassable_iff :
    statement.isPassable = true ↔
      statement ≠ .blank ∧ statement ≠ .setup ∧ statement ≠ .loop := by
  cases statement <;> simp [isPassable]

theorem isPassable_of_isCommand (h : statement.isCommand = true) : statement.isPassable = true := by
  cases statement with
  | assign name type value => rfl
  | declare digits => rfl
  | switch digits on => rfl
  | _ => cases h

theorem isHeader_of_isCommand (h : statement.isCommand = true) : statement.isHeader = false := by
  cases statement with
  | assign name type value => rfl
  | declare digits => rfl
  | switch digits on => rfl
  | _ => cases h

end Statement

theorem Line.braces_eq_nil_of_isCommand {l : Line} (h : l.statement.isCommand = true) :
    l.braces = [] := by
  unfold Line.braces
  split
  all_goals simp_all [Statement.isCommand]

namespace Walk

variable {w : Walk} {p q : Program} {line : Nat} {statement other : Statement}

theorem step_of_passedOver {closing? : Option Nat} (hphase : w.phase = .setup line closing?)
    (hregion : w.state.region ≠ .setup) (hread : w.program.statement? line = some statement)
    (hpassable : statement.isPassable = true) :
    w.step false = ((w.highlight line).release line 0).moveTo (line + 1) := by
  obtain ⟨hblank, hsetup, hloop⟩ := Statement.isPassable_iff.mp hpassable
  unfold step stepBy
  rw [hphase]
  simp [stepSetup, hread, hregion]

/-- Outside both sections a line is passed over, whatever it says. -/
theorem step_withProgram_of_passedOver {closing? : Option Nat}
    (hphase : w.phase = .setup line closing?) (hregion : w.state.region ≠ .setup)
    (hread : w.program.statement? line = some statement) (hother : q.statement? line = some other)
    (hpassable : statement.isPassable = true) (hpassable' : other.isPassable = true) :
    (w.withProgram q).step false = (w.step false).withProgram q := by
  rw [step_of_passedOver hphase hregion hread hpassable,
    step_of_passedOver (w := w.withProgram q) hphase hregion hother hpassable',
    highlight_eq_queue, highlight_eq_queue, release_eq_queue, release_eq_queue]
  exact moveTo_withProgram (w := (w.queue _).queue _) _

/-- The line that the next step looks at is run, or it is passed over. -/
theorem runs_or_passedOver (hline : w.phase.line? = some line)
    (hread : w.program.statement? line = some statement)
    (hpassable : statement.isPassable = true) :
    w.Runs line statement ∨
      ∃ closing?, w.phase = .setup line closing? ∧ w.state.region ≠ .setup := by
  obtain ⟨hblank, hsetup, hloop⟩ := Statement.isPassable_iff.mp hpassable
  cases hphase : w.phase with
  | idle =>
      rw [hphase] at hline
      cases hline
  | setup cursor closing? =>
      rw [hphase] at hline
      cases hline
      by_cases hregion : w.state.region = .setup
      · exact .inl (.setup closing? hphase hregion hread hblank hsetup hloop)
      · exact .inr ⟨closing?, rfl, hregion⟩
  | loop block cursor passes =>
      rw [hphase, Phase.line?, Option.ite_none_right_eq_some] at hline
      obtain ⟨hinside, hcursor⟩ := hline
      cases hcursor
      exact .inl (.loop block passes hphase hinside hread hblank)
  | stopped outcome =>
      rw [hphase] at hline
      cases hline

/-- A line that has lost its semicolon makes no difference to a step that does not run it. -/
theorem step_withLine {index : Nat} {l old : Line} (hold : w.program.lines[index]? = some old)
    (hcommand : old.statement.isCommand = true) (hmissing : l.statement = .missingSemicolon)
    (hwaits : l.keepsWaiting = old.keepsWaiting)
    (hnot : ∀ statement, ¬w.Runs index statement) :
    (w.withProgram (w.program.withLine index l)).step false =
      (w.step false).withProgram (w.program.withLine index l) := by
  have hindex : index < w.program.length := (List.getElem?_eq_some_iff.mp hold).1
  have hread : w.program.statement? index = some old.statement := by
    rw [Program.statement?, hold]
    rfl
  have hedited : (w.program.withLine index l).statement? index = some .missingSemicolon := by
    rw [Program.statement?_withLine_self hindex, hmissing]
  have hpassable := Statement.isPassable_of_isCommand hcommand
  by_cases hline : w.phase.line? = some index
  · rcases runs_or_passedOver hline hread hpassable with hruns | ⟨closing?, hphase, hregion⟩
    · exact absurd hruns (hnot _)
    · exact step_withProgram_of_passedOver hphase hregion hread hedited hpassable rfl
  · refine step_withProgram ?_ ?_ ?_
    · intro _
      rw [Program.isBlank_eq_false_of_statement? hedited Statement.noConfusion,
        Program.isBlank_eq_false_of_statement? hread (Statement.isPassable_iff.mp hpassable).1]
    · intro line hreads
      refine Program.statement?_withLine_of_ne ?_
      rintro rfl
      exact hline hreads
    · intro line _
      refine Program.block?_withLine hold ?_ ?_ fun _ => .inl hwaits
      · rw [hmissing, Statement.isHeader_of_isCommand hcommand]
        rfl
      · rw [Line.braces_eq_nil_of_isCommand hcommand, Line.braces, hmissing]

/-- Where the line is run, the edited run fails. -/
theorem step_withLine_of_runs {passes index : Nat} {l : Line} (hsilent : w.IsSilent passes)
    (hruns : w.Runs index statement) (hmissing : l.statement = .missingSemicolon) :
    (w.withProgram (w.program.withLine index l)).step false =
      (w.withProgram (w.program.withLine index l)).finish
        (.failed ⟨index, .missingSemicolon⟩) := by
  let edited := w.withProgram (w.program.withLine index l)
  have hsilent' : edited.IsSilent passes := ⟨hsilent.mode, hsilent.pending⟩
  have hread : edited.program.statement? index = some .missingSemicolon := by
    change (w.program.withLine index l).statement? index = some .missingSemicolon
    rw [Program.statement?_withLine_self (lt_length_of_statement? hruns.statement?_eq), hmissing]
  have hruns' : edited.Runs index .missingSemicolon := by
    cases hruns with
    | setup closing? hphase hregion =>
        exact .setup closing? hphase hregion hread nofun nofun nofun
    | loop block passes hphase hinside =>
        exact .loop block passes hphase hinside hread nofun
  rw [step_of_runs hruns', hsilent'.runLine_of_error rfl]

/-- The run of the edited program goes with the original one up to the line and fails there. -/
theorem exists_first_run {index passes : Nat} {l old : Line} (hold : p.lines[index]? = some old)
    (hcommand : old.statement.isCommand = true) (hmissing : l.statement = .missingSemicolon)
    (hwaits : l.keepsWaiting = old.keepsWaiting)
    (hruns : ∃ steps statement, (silentAt p passes steps).Runs index statement) :
    ∃ first, (silentAt p passes first).Runs index old.statement ∧
      (∀ earlier < first, ∀ statement, ¬(silentAt p passes earlier).Runs index statement) ∧
      silentAt (p.withLine index l) passes (first + 1) =
        ((silentAt p passes first).withProgram (p.withLine index l)).finish
          (.failed ⟨index, .missingSemicolon⟩) := by
  classical
  let first := Nat.find hruns
  obtain ⟨statement, hfirst⟩ : ∃ statement, (silentAt p passes first).Runs index statement :=
    Nat.find_spec hruns
  have hearlier (earlier : Nat) (hlt : earlier < first) (statement : Statement) :
      ¬(silentAt p passes earlier).Runs index statement := by
    intro h
    exact Nat.find_min hruns hlt ⟨statement, h⟩
  have htogether : silentAt (p.withLine index l) passes first =
      (silentAt p passes first).withProgram (p.withLine index l) := by
    refine silentAt_withProgram ?_
    intro earlier hlt
    have hstep := step_withLine (w := silentAt p passes earlier)
      (by rwa [program_silentAt]) hcommand hmissing hwaits (hearlier earlier hlt)
    rwa [program_silentAt] at hstep
  have hstatement : statement = old.statement := by
    have hread := hfirst.statement?_eq
    rw [program_silentAt, Program.statement?, hold] at hread
    exact (Option.some.inj hread).symm
  refine ⟨first, hstatement ▸ hfirst, hearlier, ?_⟩
  have hfails := step_withLine_of_runs (isSilent_silentAt p passes first) hfirst hmissing
  rw [program_silentAt] at hfails
  rw [silentAt_succ, htogether, hfails]

/-- A forgotten semicolon is always reported on its own line. For every source, every number of
passes and every line that assigns a value, declares a pin or switches one and that the run comes to
run: take the semicolons and blanks off its end, and suppose that what remains does not end in an
opening brace. Then the run of the new source fails on that line for its missing semicolon, with the
state of the original run just before it ran the line for the first time. -/
theorem missing_semicolon_reported {source line : Text} {passes index : Nat}
    (hline : source.lines[index]? = some line)
    (hcommand : (Statement.ofLine line).isCommand = true)
    (hruns : ∃ steps statement,
      (silentAt (.ofSource source) passes steps).Runs index statement)
    (hbrace : line.withoutSemicolon.getLast? ≠ some '{') :
    let program := Program.ofSource source
    ∃ first, (silentAt program passes first).Runs index (Statement.ofLine line) ∧
      (∀ earlier < first, ∀ statement,
        ¬(silentAt program passes earlier).Runs index statement) ∧
      runSilent (source.withLine index line.withoutSemicolon) passes =
        ⟨(silentAt program passes first).state, .failed ⟨index, .missingSemicolon⟩⟩ := by
  intro program
  obtain ⟨hne, hmissing, hwaits⟩ := Line.ofText_withoutSemicolon hcommand hbrace
  have hindex : index < source.lines.length := (List.getElem?_eq_some_iff.mp hline).1
  have hnewline : '\n' ∉ line.withoutSemicolon := by
    intro hmem
    have hwhole : '\n' ∈ line := line.withoutSemicolon_isPrefix.subset hmem
    exact Text.newline_notMem_of_mem_lines (List.mem_of_getElem? hline) hwhole
  have hedited := Program.ofSource_withLine hindex hnewline (.inr hne)
  have hold : program.lines[index]? = some (.ofText line) := by
    simp only [program, Program.ofSource, List.getElem?_map, hline, Option.map_some]
  obtain ⟨first, hfirst, hearlier, hfails⟩ := exists_first_run hold hcommand hmissing hwaits hruns
  refine ⟨first, hfirst, hearlier, ?_⟩
  have hreaches := reaches_silentAt (program.withLine index (.ofText line.withoutSemicolon)) passes
    (first + 1)
  rw [hfails, ← hedited] at hreaches
  have hreport := runSilent_eq_of_reaches hreaches rfl
  exact hreport

/-- The line stands in a branch that only the second pass takes. -/
theorem missing_semicolon_reported_secondPass :
    let setup := "void setup()\n\x7b\nn = 0;\n\x7d\n".toList
    let above := setup ++ "void loop()\n\x7b\nsi (n == 1) alors \x7b\n".toList
    let below := "\n\x7d\nn = 1;\n\x7d".toList
    let line : Text := "  x = 5;; ".toList
    let source : Text := above ++ line ++ below
    let edited : Text := above ++ "  x = 5".toList ++ below
    let program := Program.ofSource source
    (silentAt program 2 10).phase = .loop ⟨5, 10⟩ 7 1 ∧
      ∃ first, (silentAt program 2 first).Runs 7 (Statement.ofLine line) ∧
        (∀ earlier < first, ∀ statement, ¬(silentAt program 2 earlier).Runs 7 statement) ∧
        runSilent edited 2 =
          ⟨(silentAt program 2 first).state, .failed ⟨7, .missingSemicolon⟩⟩ := by
  intro setup above below line source edited program
  have hline : source.lines[7]? = some line := by decide +kernel
  have hphase : (silentAt program 2 10).phase = .loop ⟨5, 10⟩ 7 1 := by decide +kernel
  have hread : (silentAt program 2 10).program.statement? 7 = some (Statement.ofLine line) := by
    decide +kernel
  have hruns : (silentAt program 2 10).Runs 7 (Statement.ofLine line) :=
    .loop ⟨5, 10⟩ 1 hphase (by decide) hread (by decide)
  have hedited : edited = source.withLine 7 line.withoutSemicolon := by decide +kernel
  refine ⟨hphase, ?_⟩
  rw [hedited]
  exact missing_semicolon_reported hline (by decide) ⟨10, _, hruns⟩ (by decide)

end Walk

end Breadboard
