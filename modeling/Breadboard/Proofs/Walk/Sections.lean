import Breadboard.Proofs.Walk.Change

/-!
The order of the sections. A walk goes from idle to the setup, from there to the loop and from there
to its end; no step leads back. The body that a walk repeats is the block of a header, so it lies
within the program, and a walk that is in the loop cannot run out of lines.
-/

namespace Breadboard

private theorem lt_of_closingLine? {lines : List Line} {index depth closing : Nat}
    (h : closingLine? index depth lines = some closing) : closing < index + lines.length := by
  induction lines generalizing index depth with
  | nil => cases h
  | cons l rest ih =>
      rw [closingLine?] at h
      split at h
      · cases h
        simp
      · have hrest := ih h
        rw [List.length_cons]
        omega

private theorem lt_of_blockOn? {index : Nat} {braces : List Brace} {rest : List Line}
    {block : Block} (h : blockOn? index braces rest = some block) :
    block.closing < index + 1 + rest.length := by
  unfold blockOn? at h
  split at h
  · split at h
    · cases h
      change index < index + 1 + rest.length
      omega
    · obtain ⟨closing, hclosing, rfl⟩ := Option.map_eq_some_iff.mp h
      exact lt_of_closingLine? hclosing
  · cases h

private theorem lt_of_blockBelow? {lines : List Line} {index : Nat} {block : Block}
    (h : blockBelow? index lines = some block) : block.closing < index + lines.length := by
  induction lines generalizing index with
  | nil => cases h
  | cons l rest ih =>
      rw [List.length_cons]
      rw [blockBelow?] at h
      split at h
      · cases h
      · split at h
        · have hrest := ih h
          omega
        · have hrest := lt_of_blockOn? h
          omega

/-- A block closes on a line of the program. -/
theorem Program.closing_lt_of_block? {p : Program} {header : Nat} {block : Block}
    (h : p.block? header = some block) : block.closing < p.length := by
  unfold Program.block? at h
  split at h
  · cases h
  · next l rest hdrop =>
    have hlength : p.length - header = rest.length + 1 := by
      rw [Program.length, ← List.length_drop, hdrop, List.length_cons]
    split at h
    · cases h
    · split at h
      · have hbelow := lt_of_blockBelow? h
        omega
      · have hon := lt_of_blockOn? h
        omega

theorem Program.bodyEnd_le_of_block? {p : Program} {header : Nat} {block : Block}
    (h : p.block? header = some block) : block.bodyEnd ≤ p.length := by
  have hclosing := Program.closing_lt_of_block? h
  have hopening := Program.le_of_block? h
  simp only [Block.bodyEnd, Block.bodyStart]
  omega

theorem Program.statement?_ne_none {p : Program} {line : Nat} (h : line < p.length) :
    p.statement? line ≠ none := by
  rw [Program.statement?, List.getElem?_eq_getElem h]
  exact Option.some_ne_none _

@[simp]
theorem Phase.rank_movedTo (phase : Phase) (next : Nat) :
    (phase.movedTo next).rank = phase.rank := by
  cases phase with
  | setup cursor closing? => cases closing? <;> rfl
  | _ => rfl

theorem Phase.movedTo_eq_loop {phase : Phase} {next cursor done : Nat} {block : Block}
    (h : phase.movedTo next = .loop block cursor done) :
    ∃ before, phase = .loop block before done := by
  cases phase with
  | loop block before done =>
      cases h
      exact ⟨before, rfl⟩
  | setup before closing? => cases closing? <;> cases h
  | _ => cases h

theorem Mode.continues_zero {mode : Mode} (h : mode.repeats = true) :
    mode.continues 0 = true := by
  cases mode with
  | animated looping => rfl
  | silent limit => exact h

namespace Walk

variable {raised : Bool} {w : Walk}

private theorem Change.rank_le {state : State} {phase : Phase} {cues : List Cue}
    (h : Change raised w state phase cues) : phase.rank ≤ w.phase.rank := by
  cases h with
  | started hphase => simp [hphase, Phase.rank]
  | entersSetup cursor closing? block hphase =>
      rw [Phase.rank_movedTo, hphase]
      exact Nat.le_refl _
  | entersLoop cursor closing? block hphase => split <;> simp [hphase, Phase.rank]
  | endsPass block cursor passes hphase => simp [hphase, Phase.rank]
  | blankInLoop block cursor passes hphase => simp [hphase, Phase.rank]
  | blankInSetup => simp
  | passedOver => simp
  | quiet => simp
  | effect => simp
  | taken => simp
  | skipped => simp
  | _ => exact Nat.zero_le _

/-- No step leads back to an earlier section. -/
theorem rank_step_le (raised : Bool) (w : Walk) : (w.step raised).phase.rank ≤ w.phase.rank := by
  rcases w.running_or_stopped with hrunning | ⟨outcome, hstopped⟩
  · obtain ⟨state, phase, cues, hchange, hstep⟩ := step_changes raised w hrunning
    rw [hstep]
    exact hchange.rank_le
  · exact Nat.le_of_eq (congrArg (·.phase.rank) (step_of_stopped hstopped))

/-- A step leads into the loop from its header, or from a place in the loop. -/
private theorem Change.eq_loop {state : State} {phase : Phase} {cues : List Cue} {block : Block}
    {cursor done : Nat} (h : Change raised w state phase cues)
    (hloop : phase = .loop block cursor done) :
    ((∃ line, w.program.block? line = some block) ∧ w.mode.repeats = true ∧ done = 0) ∨
      (∃ before, w.phase = .loop block before done) ∨
      ∃ before earlier, w.phase = .loop block before earlier ∧
        w.mode.continues done = true := by
  cases h with
  | entersLoop line closing? entered hphase hread hblock =>
      split at hloop
      · next hrepeats =>
        cases hloop
        exact .inl ⟨⟨line, hblock⟩, hrepeats, rfl⟩
      · cases hloop
  | endsPass ended before earlier hphase hend hcontinues =>
      cases hloop
      exact .inr (.inr ⟨before, earlier, hphase, hcontinues⟩)
  | blankInLoop inside before earlier hphase =>
      cases hloop
      exact .inr (.inl ⟨before, hphase⟩)
  | entersSetup =>
      obtain ⟨before, hbefore⟩ := Phase.movedTo_eq_loop hloop
      cases hbefore
  | blankInSetup => exact .inr (.inl (Phase.movedTo_eq_loop hloop))
  | passedOver => exact .inr (.inl (Phase.movedTo_eq_loop hloop))
  | quiet => exact .inr (.inl (Phase.movedTo_eq_loop hloop))
  | effect => exact .inr (.inl (Phase.movedTo_eq_loop hloop))
  | taken => exact .inr (.inl (Phase.movedTo_eq_loop hloop))
  | skipped => exact .inr (.inl (Phase.movedTo_eq_loop hloop))
  | _ => cases hloop

/-- What holds of a walk in the loop: the body is the block of a header, and there is a pass to
go. -/
structure LoopSound (w : Walk) : Prop where
  header : ∀ block cursor done, w.phase = .loop block cursor done →
    ∃ line, w.program.block? line = some block
  ahead : ∀ block cursor done, w.phase = .loop block cursor done →
    w.mode.continues done = true

theorem loopSound_of_idle (h : w.phase = .idle) : w.LoopSound := by
  refine ⟨?_, ?_⟩
  · intro block cursor done hphase
    cases h.symm.trans hphase
  · intro block cursor done hphase
    cases h.symm.trans hphase

theorem LoopSound.step (h : w.LoopSound) (raised : Bool) : (w.step raised).LoopSound := by
  rcases w.running_or_stopped with hrunning | ⟨outcome, hstopped⟩
  · obtain ⟨state, phase, cues, hchange, hstep⟩ := step_changes raised w hrunning
    rw [hstep]
    refine ⟨?_, ?_⟩
    · intro block cursor done hphase
      rcases hchange.eq_loop hphase with
        ⟨hheader, _⟩ | ⟨before, hbefore⟩ | ⟨before, earlier, hbefore, _⟩
      · exact hheader
      · exact h.header block before done hbefore
      · exact h.header block before earlier hbefore
    · intro block cursor done hphase
      rcases hchange.eq_loop hphase with
        ⟨_, hrepeats, rfl⟩ | ⟨before, hbefore⟩ | ⟨before, earlier, _, hcontinues⟩
      · exact Mode.continues_zero hrepeats
      · exact h.ahead block before done hbefore
      · exact hcontinues
  · rwa [step_of_stopped hstopped]

/-- A step that completes a walk in the loop ends its last pass. -/
theorem LoopSound.of_completed {block : Block} {cursor done : Nat} (h : w.LoopSound)
    (hphase : w.phase = .loop block cursor done)
    (hcompleted : (w.step false).phase = .stopped .completed) :
    block.bodyEnd ≤ cursor ∧ w.mode.continues (done + 1) = false := by
  have hrunning : 0 < w.phase.rank := by simp [hphase, Phase.rank]
  obtain ⟨state, phase, cues, hchange, hstep⟩ := step_changes false w hrunning
  rw [hstep] at hcompleted
  replace hcompleted : phase = .stopped .completed := hcompleted
  have hmoved (next : Nat) : w.phase.movedTo next ≠ .stopped .completed := by
    rw [hphase]
    exact Phase.noConfusion
  cases hchange with
  | endsLastPass ended before earlier hphase' hend hlast =>
      cases hphase.symm.trans hphase'
      exact ⟨hend, hlast⟩
  | ranOut inside before earlier hphase' hinside hread =>
      cases hphase.symm.trans hphase'
      obtain ⟨line, hblock⟩ := h.header block cursor done hphase
      have hbody := Program.bodyEnd_le_of_block? hblock
      exact absurd hread (Program.statement?_ne_none (Nat.lt_of_lt_of_le hinside hbody))
  | ended cursor' closing? hphase' => cases hphase.symm.trans hphase'
  | entersLoop cursor' closing? entered hphase' => cases hphase.symm.trans hphase'
  | entersSetup cursor' closing? entered hphase' => cases hphase.symm.trans hphase'
  | blankInSetup => exact absurd hcompleted (hmoved _)
  | passedOver => exact absurd hcompleted (hmoved _)
  | quiet => exact absurd hcompleted (hmoved _)
  | effect => exact absurd hcompleted (hmoved _)
  | taken => exact absurd hcompleted (hmoved _)
  | skipped => exact absurd hcompleted (hmoved _)
  | _ => cases hcompleted

end Walk

end Breadboard
