import Mathlib.Order.Monotone.Basic
import Mathlib.Data.Nat.Find
import Breadboard.Proofs.Walk.Alike
import Breadboard.Proofs.Walk.Play
import Breadboard.Proofs.Walk.Sections

/-!
Silent and animated runs agree. Started on the same program, a silent walk and an animated one take
the same steps until the silent walk ends its last pass: there it stops and the other goes on. So
either both stop, with the same report, or the state in which the silent walk stops is the state in
which the animated walk counts that pass.
-/

namespace Breadboard

def Phase.passes : Phase → Nat
  | .loop _ _ done => done
  | _ => 0

namespace Walk

/-- After this call, and no earlier one, the walk has counted pass number `passes`. -/
def CountsPass (w : Walk) (passes calls : Nat) : Prop :=
  (w.after calls).phase.passes = passes ∧
    ∀ earlier < calls, (w.after earlier).phase.passes < passes

/-- The walk comes to the loop, if nobody tells it to stop. -/
def EntersLoop (w : Walk) : Prop :=
  ∃ v block cursor done, w.Reaches v ∧ v.phase = .loop block cursor done

/-- The next step ends the last pass. -/
def EndsLastPass (w : Walk) : Prop :=
  ∃ block cursor done, w.phase = .loop block cursor done ∧ block.bodyEnd ≤ cursor ∧
    w.mode.continues (done + 1) = false

variable {w v : Walk} {passes : Nat} {outcome : Outcome}

theorem EndsLastPass.step_eq (h : v.EndsLastPass) : v.step false = v.finish .completed := by
  obtain ⟨block, cursor, done, hphase, hend, hlast⟩ := h
  rw [step_of_endOfPass hphase hend, endPass_eq_queue, if_neg (by simp [hlast])]

/-- A silent walk that has not stopped has a last step. -/
theorem exists_last_step (h : v.IsSilent passes) (hrunning : 0 < v.phase.rank) :
    ∃ count outcome, (∀ i ≤ count, 0 < ((step false)^[i] v).phase.rank) ∧
      ((step false)^[count + 1] v).phase = .stopped outcome := by
  have hstops : ∃ count, ((step false)^[count] v).phase.rank = 0 := by
    obtain ⟨u, outcome, ⟨count, rfl⟩, hstopped⟩ := h.exists_stopped
    exact ⟨count, by rw [hstopped]; rfl⟩
  cases hfirst : Nat.find hstops with
  | zero =>
      have hzero := Nat.find_spec hstops
      rw [hfirst] at hzero
      exact absurd hzero (Nat.ne_of_gt hrunning)
  | succ count =>
      have hend := Nat.find_spec hstops
      rw [hfirst] at hend
      rcases ((step false)^[count + 1] v).running_or_stopped with hrunning' | ⟨outcome, hstopped⟩
      · exact absurd hend (Nat.ne_of_gt hrunning')
      · refine ⟨count, outcome, ?_, hstopped⟩
        intro i hi
        exact Nat.pos_of_ne_zero (Nat.find_min hstops (by omega))

/-- An animated walk and a silent one at the same place, each between two steps. -/
structure Companions (w v : Walk) (passes : Nat) : Prop where
  animated : w.mode = .animated (decide (0 < passes))
  pending : w.pending = []
  silent : v.IsSilent passes
  sound : v.LoopSound
  alike : w.Alike v

namespace Companions

theorem start (program : Program) (passes : Nat) (side : Side) (timing : Timing) :
    (Walk.animated program (decide (0 < passes)) side timing).Companions
      (Walk.silent program passes) passes :=
  ⟨rfl, rfl, isSilent_silent program passes, loopSound_of_idle rfl, ⟨rfl, rfl, rfl⟩⟩

/-- Companions take the same step, unless it ends the last pass of the silent one. -/
theorem step (h : w.Companions v passes) (hlast : ¬ v.EndsLastPass) :
    w.advance.Companions (v.step false) passes := by
  have hstep : (w.step false).Alike (v.step false) := by
    refine h.alike.step false ?_ ?_
    · rw [h.animated, h.silent.mode]
      rfl
    · intro block cursor done hphase hend
      rw [h.animated]
      by_contra hstops
      exact hlast ⟨block, cursor, done, hphase, hend, Bool.eq_false_iff.mpr (Ne.symm hstops)⟩
  refine ⟨(mode_step false w).trans h.animated, rfl, h.silent.step, h.sound.step false, ?_⟩
  exact ⟨hstep.program, hstep.state, hstep.phase⟩

theorem iterate {count : Nat} (h : w.Companions v passes)
    (hrunning : ∀ i ≤ count, 0 < ((Walk.step false)^[i] v).phase.rank) :
    (advance^[count] w).Companions ((Walk.step false)^[count] v) passes := by
  induction count with
  | zero => exact h
  | succ count ih =>
      have hbefore := ih fun i hi => hrunning i (Nat.le_succ_of_le hi)
      rw [Function.iterate_succ_apply', Function.iterate_succ_apply']
      refine hbefore.step ?_
      intro hlast
      have hgoesOn := hrunning (count + 1) (Nat.le_refl _)
      rw [Function.iterate_succ_apply', hlast.step_eq] at hgoesOn
      exact absurd hgoesOn (Nat.lt_irrefl 0)

theorem passes_lt (h : w.Companions v passes) (hpasses : 0 < passes) :
    w.phase.passes < passes := by
  rw [h.alike.phase]
  cases hphase : v.phase with
  | loop block cursor done =>
      have hahead := h.sound.ahead block cursor done hphase
      rw [h.silent.mode] at hahead
      exact of_decide_eq_true hahead
  | _ => exact hpasses

end Companions

/-- A walk that has come to its end by steps comes to it by calls. -/
theorem endsWith_of_alike {count : Nat} (hpending : w.pending = [])
    (h : (advance^[count] w).Alike v) (hstopped : v.phase = .stopped outcome) :
    w.EndsWith ⟨v.state, outcome⟩ := by
  obtain ⟨calls, hnext, _⟩ := catch_up hpending count
  have hphase := h.phase.trans hstopped
  have hempty := pending_advance_iterate hpending count
  rw [next_of_stopped hempty hphase] at hnext
  have hafter : w.after (calls + 1) = advance^[count] w := by rw [after_succ, hnext]
  refine ⟨calls + 1, ?_, ?_⟩
  · simp only [hafter, isFinished, hphase, hempty, List.isEmpty_nil]
  · simp only [hafter, report, hphase, h.state]

/-- An animated walk that ends a pass by a step counts it by a call, and its state is the same. -/
theorem exists_countsPass {count cursor done : Nat} {looping : Bool} {block : Block}
    (hpending : w.pending = []) (hw : w.mode = .animated looping)
    (hphase : (advance^[count] w).phase = .loop block cursor done) (hend : block.bodyEnd ≤ cursor)
    (hbelow : ∀ i ≤ count, (advance^[i] w).phase.passes < done + 1) :
    ∃ calls, w.CountsPass (done + 1) calls ∧
      (w.after calls).state = (advance^[count] w).state := by
  obtain ⟨calls, hnext, _, hseen⟩ := catch_up hpending count
  have hempty := pending_advance_iterate hpending count
  have hmode := (mode_advance_iterate w count).trans hw
  have hrunning : 0 < (advance^[count] w).phase.rank := by simp [hphase, Phase.rank]
  let u := advance^[count] w
  let ahead : Walk := { u with phase := .loop block block.bodyStart (done + 1) }
  have hstep : u.step false = ahead.queue [.pause u.timing.loop] := by
    rw [step_of_endOfPass hphase hend, endPass_eq_queue, if_pos (by rw [hmode]; rfl)]
  have hcues : (u.step false).pending = [.pause u.timing.loop] := by
    rw [hstep, pending_queue, show ahead.mode = _ from hmode, show ahead.pending = _ from hempty]
    rfl
  have hafter : w.after (calls + 1) = { u.step false with pending := [] } := by
    rw [after_succ, hnext, next_of_running hempty hrunning, next_of_pending hcues]
  refine ⟨calls + 1, ⟨?_, ?_⟩, ?_⟩
  · rw [hafter, hstep]
    rfl
  · intro earlier hearlier
    obtain ⟨i, hi, heq⟩ := hseen earlier (Nat.le_of_lt_succ hearlier)
    have hpasses : (w.after earlier).phase.passes = (advance^[i] w).phase.passes := by rw [← heq]
    rw [hpasses]
    exact hbelow i hi
  · rw [hafter, hstep]
    rfl

theorem antitone_rank (v : Walk) : Antitone fun count => ((step false)^[count] v).phase.rank := by
  refine antitone_nat_of_succ_le ?_
  intro count
  rw [Function.iterate_succ_apply']
  exact rank_step_le false _

/-- A run that has been in the loop and has not stopped is still there. -/
theorem EntersLoop.exists_phase {count : Nat} (h : v.EntersLoop)
    (hrunning : 0 < ((step false)^[count] v).phase.rank)
    (hstops : ((step false)^[count + 1] v).phase = .stopped outcome) :
    ∃ block cursor done, ((step false)^[count] v).phase = .loop block cursor done := by
  obtain ⟨u, block, cursor, done, ⟨entry, rfl⟩, hentry⟩ := h
  have hrank : ((step false)^[entry] v).phase.rank = 1 := by rw [hentry]; rfl
  have hentered : entry ≤ count := by
    by_contra hlate
    have hle : ((step false)^[entry] v).phase.rank ≤ ((step false)^[count + 1] v).phase.rank :=
      v.antitone_rank (Nat.lt_of_not_le hlate)
    rw [hrank, hstops] at hle
    exact absurd hle (Nat.not_succ_le_zero 0)
  have hle : ((step false)^[count] v).phase.rank ≤ ((step false)^[entry] v).phase.rank :=
    v.antitone_rank hentered
  rw [hrank] at hle
  cases hphase : ((step false)^[count] v).phase with
  | loop block cursor done => exact ⟨block, cursor, done, rfl⟩
  | stopped outcome => simp [hphase, Phase.rank] at hrunning
  | idle => simp [hphase, Phase.rank] at hle
  | setup cursor closing? => simp [hphase, Phase.rank] at hle

/-- The two ways in which a silent run and its animated companion end. -/
theorem endsWith_or_countsPass (source : Text) (passes : Nat) (side : Side) (timing : Timing) :
    let w := animated (.ofSource source) (decide (0 < passes)) side timing
    let v := silent (.ofSource source) passes
    let report := runSilent source passes
    (w.EndsWith report ∧ (report.outcome = .completed → ¬ v.EntersLoop)) ∨
      (report.outcome = .completed ∧ v.EntersLoop ∧ 0 < passes ∧
        ∃ calls, w.CountsPass passes calls ∧ (w.after calls).state = report.state) := by
  intro w v report
  have hstart : w.Companions v passes := .start _ passes side timing
  obtain ⟨count, outcome, hrunning, hstopped⟩ :=
    exists_last_step hstart.silent (Nat.succ_pos 2)
  have hreport : report = ⟨((step false)^[count + 1] v).state, outcome⟩ :=
    runSilent_eq_of_reaches ⟨count + 1, rfl⟩ hstopped
  have hbefore (i : Nat) (hi : i ≤ count) :
      (advance^[i] w).Companions ((step false)^[i] v) passes :=
    hstart.iterate fun j hj => hrunning j (Nat.le_trans hj hi)
  have hlastBefore := hbefore count (Nat.le_refl count)
  -- Up to the last step of the silent walk both agree; only that step can tell them apart.
  by_cases hlast : ((step false)^[count] v).EndsLastPass
  · rw [Function.iterate_succ_apply', hlast.step_eq] at hstopped hreport
    cases hstopped
    obtain ⟨block, cursor, done, hphase, hend, hcontinues⟩ := hlast
    have hahead := hlastBefore.sound.ahead block cursor done hphase
    rw [hlastBefore.silent.mode] at hahead hcontinues
    obtain rfl : passes = done + 1 := by
      simp only [Mode.continues, decide_eq_true_eq, decide_eq_false_iff_not] at hahead hcontinues
      omega
    obtain ⟨calls, hcounts, hstate⟩ := exists_countsPass hstart.pending hstart.animated
      (hlastBefore.alike.phase.trans hphase) hend
      fun i hi => (hbefore i hi).passes_lt (Nat.succ_pos done)
    refine .inr ⟨by rw [hreport], ⟨_, block, cursor, done, ⟨count, rfl⟩, hphase⟩,
      Nat.succ_pos done, calls, hcounts, ?_⟩
    rw [hstate, hlastBefore.alike.state, hreport]
    rfl
  · refine .inl ⟨?_, ?_⟩
    · have hend := (hlastBefore.step hlast).alike
      rw [← Function.iterate_succ_apply' (step false), ← Function.iterate_succ_apply' advance]
        at hend
      rw [hreport]
      exact endsWith_of_alike hstart.pending hend hstopped
    · -- in the loop a silent walk completes in no other way than by ending its last pass
      intro hcompleted hloop
      rw [hreport] at hcompleted
      cases hcompleted
      obtain ⟨block, cursor, done, hphase⟩ :=
        hloop.exists_phase (hrunning count (Nat.le_refl count)) hstopped
      rw [Function.iterate_succ_apply'] at hstopped
      obtain ⟨hend, hcontinues⟩ := hlastBefore.sound.of_completed hphase hstopped
      exact hlast ⟨block, cursor, done, hphase, hend, hcontinues⟩

/-- Silent and animated runs agree, on every source, side and timing. A run without the loop ends
with the report of the silent run. With the loop on, it ends with the report of the silent run of
`passes` passes if that fails or never comes to the loop; otherwise its state, when it counts that
pass, is the state in which the silent run stopped. -/
theorem animated_agrees_silent (source : Text) (side : Side) (timing : Timing) :
    (animated (.ofSource source) false side timing).EndsWith (runSilent source 0) ∧
      ∀ passes, 1 ≤ passes →
        (((∃ failure, (runSilent source passes).outcome = .failed failure) ∨
            ((runSilent source passes).outcome = .completed ∧
              ¬ (silent (.ofSource source) passes).EntersLoop)) →
          (animated (.ofSource source) true side timing).EndsWith (runSilent source passes)) ∧
        ((runSilent source passes).outcome = .completed →
          (silent (.ofSource source) passes).EntersLoop →
          ∃ calls, (animated (.ofSource source) true side timing).CountsPass passes calls ∧
            ((animated (.ofSource source) true side timing).after calls).state =
              (runSilent source passes).state) := by
  refine ⟨?_, ?_⟩
  · rcases endsWith_or_countsPass source 0 side timing with ⟨hends, _⟩ | ⟨_, _, hpasses, _⟩
    · exact hends
    · exact absurd hpasses (Nat.lt_irrefl 0)
  · intro passes hpasses
    have hagrees := endsWith_or_countsPass source passes side timing
    rw [show decide (0 < passes) = true from decide_eq_true hpasses] at hagrees
    rcases hagrees with ⟨hends, hloop⟩ | ⟨hcompleted, hloop, _, hcounts⟩
    · exact ⟨fun _ => hends, fun hcompleted hentered => absurd hentered (hloop hcompleted)⟩
    · refine ⟨?_, fun _ _ => hcounts⟩
      rintro (⟨failure, hfailed⟩ | ⟨_, hnever⟩)
      · cases hcompleted.symm.trans hfailed
      · exact absurd hloop hnever

theorem animated_agrees_silent_twoPasses :
    let source : Text := "void loop()\n\x7b\nx = 1;\n\x7d".toList
    (runSilent source 2).outcome = .completed ∧ (silent (.ofSource source) 2).EntersLoop ∧
      ∃ calls, (animated (.ofSource source) true .demo .standard).CountsPass 2 calls ∧
        ((animated (.ofSource source) true .demo .standard).after calls).state =
          (runSilent source 2).state := by
  intro source
  have hcompleted : (runSilent source 2).outcome = .completed := by
    have hstopped : ((step false)^[6] (silent (.ofSource source) 2)).phase =
        .stopped .completed := by decide
    rw [runSilent_eq_of_reaches ⟨6, rfl⟩ hstopped]
  have hloop : (silent (.ofSource source) 2).EntersLoop :=
    ⟨_, ⟨1, 3⟩, 2, 0, ⟨2, rfl⟩, by decide⟩
  exact ⟨hcompleted, hloop,
    ((animated_agrees_silent source .demo .standard).2 2 (by decide)).2 hcompleted hloop⟩

end Walk

end Breadboard
