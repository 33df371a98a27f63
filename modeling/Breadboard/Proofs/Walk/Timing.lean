import Breadboard.Proofs.Walk.Alike
import Breadboard.Proofs.Walk.Stream

/-!
The timing of a walk and the side it is for decide how its events are spaced and tagged, and nothing
else. Two walks of one program that differ in these make the same moves, so the cues of the first
steps tell the same in both, whatever the number of steps. The calls of a spectator are spread over
the steps in another way for each timing. They are compared through the steps: what some calls have
delivered is a beginning of what some steps queue, and the cues of any number of steps are delivered
by some number of calls.
-/

namespace Breadboard

namespace Walk

/-- Of the events that calls with the signal down deliver, number `n` is this one. -/
def NthEvent (w : Walk) (n : Nat) (shown : Event) : Prop :=
  ∃ calls, (Cue.shown (w.delivered calls))[n]? = some shown

/-- With the signal down there comes a call that delivers nothing any more. The walk has shown `n`
events by then, and this is its report. -/
def EndsAfter (w : Walk) (n : Nat) (report : Report) : Prop :=
  ∃ calls, w.answer (fun _ => false) calls = none ∧ (Cue.shown (w.delivered calls)).length = n ∧
    (w.after (calls + 1)).report = report

variable {w v : Walk} {n : Nat} {report : Report}

/-- The events are those of the steps. -/
theorem nthEvent_iff (hpending : w.pending = []) {shown : Event} :
    w.NthEvent n shown ↔ ∃ steps, (Cue.shown (w.script steps))[n]? = some shown := by
  constructor
  · rintro ⟨calls, hshown⟩
    obtain ⟨steps, _, hscript⟩ := exists_script hpending calls
    obtain ⟨hlt, _⟩ := List.getElem?_eq_some_iff.mp hshown
    refine ⟨steps, ?_⟩
    rw [← hscript, Cue.shown_append, List.getElem?_append_left hlt, hshown]
  · rintro ⟨steps, hshown⟩
    obtain ⟨calls, _, hscript, _⟩ := catch_up hpending steps
    exact ⟨calls, by rw [hscript, hshown]⟩

/-- The end is where a step stops the walk. -/
theorem endsAfter_iff (hpending : w.pending = []) :
    w.EndsAfter n report ↔ ∃ steps outcome, (advance^[steps] w).phase = .stopped outcome ∧
      (Cue.shown (w.script steps)).length = n ∧
      ⟨(advance^[steps] w).state, outcome⟩ = report := by
  constructor
  · rintro ⟨calls, hanswer, hlength, hreport⟩
    have hlast : (w.after calls).next false = (none, w.after (calls + 1)) :=
      Prod.ext hanswer rfl
    obtain ⟨hempty, outcome, hstopped⟩ := finished_of_next hlast
    have hcues : w.delivered (calls + 1) = w.delivered calls := by
      rw [delivered, play_succ, hanswer]
      exact List.append_nil _
    obtain ⟨steps, hwalk, hscript⟩ := exists_script hpending (calls + 1)
    rw [hempty, List.append_nil, hcues] at hscript
    refine ⟨steps, outcome, ?_, ?_, ?_⟩
    · rw [← hwalk]
      exact hstopped
    · rw [← hscript, hlength]
    · rw [← hwalk, ← hreport, Walk.report, hstopped]
  · rintro ⟨steps, outcome, hstopped, hlength, hreport⟩
    obtain ⟨calls, hnext, hscript, _⟩ := catch_up hpending steps
    rw [next_of_stopped (pending_advance_iterate hpending steps) hstopped] at hnext
    refine ⟨calls, congrArg Prod.fst hnext, by rw [hscript, hlength], ?_⟩
    rw [after_succ, hnext, ← hreport, Walk.report, hstopped]

namespace Alike

/-- Walks that are alike and in the same mode stay alike, and their steps tell the same. -/
theorem script (h : w.Alike v) (hmode : w.mode = v.mode) (hw : w.pending = [])
    (hv : v.pending = []) (steps : Nat) :
    (advance^[steps] w).Alike (advance^[steps] v) ∧
      Cue.told (w.script steps) = Cue.told (v.script steps) := by
  induction steps with
  | zero => exact ⟨h, rfl⟩
  | succ steps ih =>
      obtain ⟨halike, htold⟩ := ih
      have hmodes : (advance^[steps] w).mode = (advance^[steps] v).mode := by
        rw [mode_advance_iterate, mode_advance_iterate, hmode]
      have hmove := halike.move false (by rw [hmodes]) fun _ _ _ _ _ => by rw [hmodes]
      have hstep := hmove.alike halike
      obtain ⟨state, phase, cues, more, hsame, hleft, hright⟩ := hmove
      rw [Function.iterate_succ_apply', Function.iterate_succ_apply']
      refine ⟨⟨hstep.program, hstep.state, hstep.phase⟩, ?_⟩
      rw [Walk.script, Walk.script, Cue.told_append, Cue.told_append, htold, hleft, hright,
        changed, changed, pending_queue, pending_queue]
      change _ ++ Cue.told ((advance^[steps] w).pending ++ (advance^[steps] w).mode.heard cues) =
        _ ++ Cue.told ((advance^[steps] v).pending ++ (advance^[steps] v).mode.heard more)
      rw [pending_advance_iterate hw, pending_advance_iterate hv, hmodes, List.nil_append,
        List.nil_append, Mode.told_heard _ hsame]

end Alike

/-- The events of an animated walk are what it tells, each with its side. -/
theorem shown_script_animated (program : Program) (looping : Bool) (side : Side) (timing : Timing)
    (steps : Nat) :
    Cue.shown ((animated program looping side timing).script steps) =
      (Cue.told ((animated program looping side timing).script steps)).map (Event.mk side) := by
  obtain ⟨calls, _, hscript, _⟩ := catch_up (w := animated program looping side timing) rfl steps
  have hdelivers : (animated program looping side timing).Delivers _ _ :=
    delivers_play _ (fun _ => false) calls
  rw [← hscript, Cue.told, List.map_map]
  refine (List.map_id _).symm.trans (List.map_congr_left ?_)
  intro shown hshown
  rw [Function.comp_apply, ← hdelivers.side_eq hshown]
  rfl

theorem nthEvent_animated_iff {program : Program} {looping : Bool} {side : Side} {timing : Timing}
    {shown : Event} :
    (animated program looping side timing).NthEvent n shown ↔ shown.side = side ∧
      ∃ steps, (Cue.told ((animated program looping side timing).script steps))[n]? =
        some shown.happening := by
  rw [nthEvent_iff rfl]
  simp only [shown_script_animated, List.getElem?_map, Option.map_eq_some_iff]
  constructor
  · rintro ⟨steps, happening, htold, rfl⟩
    exact ⟨rfl, steps, htold⟩
  · rintro ⟨rfl, steps, htold⟩
    exact ⟨steps, shown.happening, htold, rfl⟩

/-- Timing only changes pauses. Take two animated walks of one source with the same looping flag,
each with its own side and its own timing, and leave the signal to stop down. Event number `n` of
the one is event number `n` of the other, up to the side that it names. The one ends after `n`
events exactly if the other does, and their reports are equal then. -/
theorem timing_changes_only_pauses (source : Text) (looping : Bool) (side side' : Side)
    (timing timing' : Timing) :
    let w := animated (.ofSource source) looping side timing
    let v := animated (.ofSource source) looping side' timing'
    (∀ n shown, w.NthEvent n shown ↔
      shown.side = side ∧ v.NthEvent n ⟨side', shown.happening⟩) ∧
    ∀ n report, w.EndsAfter n report ↔ v.EndsAfter n report := by
  intro w v
  have halike : w.Alike v := ⟨rfl, rfl, rfl⟩
  have hsteps := halike.script rfl rfl rfl
  constructor
  · intro n shown
    rw [nthEvent_animated_iff, nthEvent_animated_iff]
    simp only [(hsteps _).2, true_and, w, v]
  · intro n report
    rw [endsAfter_iff rfl, endsAfter_iff rfl]
    simp only [w, v, shown_script_animated, List.length_map, (hsteps _).1.phase,
      (hsteps _).1.state, (hsteps _).2]

end Walk

end Breadboard
