import Breadboard.Proofs.Program.Placement
import Breadboard.Proofs.Walk.Replay

/-!
Blocks that never close. A walk fails for want of a closing brace on a header that has no block, and
on no other line. For a header with an opening brace on its own line that should mean that the brace
is missing indeed: counted from there on, the open braces never come back to zero. It does mean that,
unless a brace closes on the line before the first one opens. Then the header has no block although
its closing brace may well be there.
-/

namespace Breadboard

namespace Walk

variable {v : Walk} {program : Program} {mode : Mode} {side : Side} {timing : Timing} {line : Nat}

/-- The step that fails for want of a closing brace is at a header without a block. -/
theorem Fails.block?_eq_none {w : Walk} (h : w.Fails ⟨line, .unclosedBlock⟩) :
    w.program.IsHeader line ∧ w.program.block? line = none := by
  cases h with
  | empty hphase hblank hfailure => cases hfailure
  | unclosed hcursor hsection =>
      obtain ⟨hsetup | hloop, hblock, _⟩ := hsection
      · exact ⟨⟨.setup, hsetup, rfl⟩, hblock⟩
      · exact ⟨⟨.loop, hloop, rfl⟩, hblock⟩
  | run statement hruns hexec =>
      obtain ⟨hheader, hblock⟩ := blamedOn_of_execute hexec
      exact ⟨⟨statement, hruns.statement?_eq, hheader⟩, hblock⟩

/-- So it is in every run, whatever the signal does. -/
theorem Visits.block?_eq_none (hv : (fresh program mode side timing).Visits v)
    (hfailed : v.phase = .stopped (.failed ⟨line, .unclosedBlock⟩)) :
    program.IsHeader line ∧ program.block? line = none := by
  induction hv with
  | start => cases hfailed
  | delivery cue rest _ _ ih => exact ih hfailed
  | @step before raised hv hpending ih =>
      rcases before.running_or_stopped with hrunning | ⟨outcome, hstopped⟩
      · have hidle (hphase : before.phase = .idle) : before.state = .fresh := by
          rw [hv.eq_of_idle rfl hphase]
          rfl
        have hprogram : before.program = program := hv.program_eq
        have hfails := (fails_of_step hrunning hidle hfailed).1
        rw [← hprogram]
        exact hfails.block?_eq_none
      · rw [step_of_stopped hstopped] at hfailed
        exact ih hfailed

end Walk

namespace Program

/-- When a closing brace is missing. Let a header have an opening brace on its line, and let the
open braces be counted from the first of these on. If the count comes back to zero, then the block
of the header ends on that line, except that the header has no block if a brace closes on its line
before the first one opens. If the count does not come back, there is no block. And whatever walk
fails for want of a closing brace, it fails at a header without a block. -/
theorem unclosed_exact (source : Text) :
    let p := ofSource source
    (∀ header l, p.lines[header]? = some l → l.statement.isHeader = true →
      Brace.opening ∈ l.text.unquotedBraces →
      (∀ place token, (p.tokensFromOpening header)[place]? = some token →
        ReturnsAt (p.tokensFromOpening header) place →
        p.block? header =
          if l.text.unquotedBraces.head? = some .opening then some ⟨header, token.line⟩
          else none) ∧
      ((∀ place token, (p.tokensFromOpening header)[place]? = some token →
        ¬ReturnsAt (p.tokensFromOpening header) place) → p.block? header = none)) ∧
    ∀ mode side timing v line, (Walk.fresh p mode side timing).Visits v →
      v.phase = .stopped (.failed ⟨line, .unclosedBlock⟩) →
      p.IsHeader line ∧ p.block? line = none := by
  intro p
  constructor
  · intro header l hl hheader hopens
    have hblock (block : Block) : p.block? header = some block ↔
        l.text.unquotedBraces.head? = some .opening ∧ block.opening = header ∧
          p.ClosesOn header block.closing :=
      block?_eq_some_iff_closesOn hl hheader hopens
    constructor
    · intro place token htoken hreturns
      split
      · next hfirst =>
        apply (hblock _).mpr
        exact ⟨hfirst, rfl, place, token, htoken, hreturns, rfl⟩
      · next hclosed =>
        apply Option.eq_none_iff_forall_ne_some.mpr
        intro block hsome
        exact hclosed ((hblock block).mp hsome).1
    · intro hnever
      apply Option.eq_none_iff_forall_ne_some.mpr
      intro block hsome
      obtain ⟨_, _, place, token, htoken, hreturns, _⟩ := (hblock block).mp hsome
      exact hnever place token htoken hreturns
  · intro mode side timing v line hv hfailed
    exact hv.block?_eq_none hfailed

/-- A quoted brace in front, a nested block, and a brace too many at the end. -/
theorem unclosed_exact_nested :
    let source := ("si (x == \"\x7d\") alors \x7b\nsi (y == 1) alors \x7b\n\x7d\n\x7d\n" ++
      "\x7d").toList
    let p := ofSource source
    (p.tokensFromOpening 0)[3]? = some ⟨3, .closing⟩ ∧ ReturnsAt (p.tokensFromOpening 0) 3 ∧
      p.block? 0 = some ⟨0, 3⟩ := by
  intro source p
  have htokens : p.tokensFromOpening 0 =
      [⟨0, .opening⟩, ⟨1, .opening⟩, ⟨2, .closing⟩, ⟨3, .closing⟩, ⟨4, .closing⟩] := by
    decide +kernel
  have htoken : (p.tokensFromOpening 0)[3]? = some ⟨3, .closing⟩ := by
    rw [htokens]
    rfl
  have hreturns : ReturnsAt (p.tokensFromOpening 0) 3 := by
    rw [htokens]
    exact ⟨by decide, by decide⟩
  have hl : p.lines[0]? = some ⟨"si (x == \"\x7d\") alors \x7b".toList,
      .conditional "x == \"\x7d\"".toList⟩ := by
    decide +kernel
  obtain ⟨hheaders, _⟩ := unclosed_exact source
  obtain ⟨hcounted, _⟩ := hheaders 0 _ hl rfl (by decide)
  exact ⟨htoken, hreturns, hcounted 3 _ htoken hreturns⟩

/-- The loop begins on the line that closes the setup. Its closing brace is there, and still it has
no block. -/
theorem closing_brace_hides_block :
    let p := ofSource "void setup() \x7b\npin1;\n\x7d void loop() \x7b\npin1_allumé;\n\x7d".toList
    p.statement? 2 = some .loop ∧ p.tokensFromOpening 2 = [⟨2, .opening⟩, ⟨4, .closing⟩] ∧
      ReturnsAt (p.tokensFromOpening 2) 1 ∧ p.block? 2 = none := by
  intro p
  have htokens : p.tokensFromOpening 2 = [⟨2, .opening⟩, ⟨4, .closing⟩] := by decide +kernel
  have hreturns : ReturnsAt (p.tokensFromOpening 2) 1 := by
    rw [htokens]
    exact ⟨by decide, by decide⟩
  exact ⟨by decide +kernel, htokens, hreturns, by decide +kernel⟩

end Program

end Breadboard
