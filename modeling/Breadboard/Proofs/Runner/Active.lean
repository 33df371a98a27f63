import Breadboard.Runner
import Breadboard.Proofs.Walk.Silent

/-!
A runner with an active run. Its calls for cues are those of the walk, with the signal that the
runner keeps, until the walk answers nothing. The events up to the next pause, which are found in
one go, are the answers that as many calls for cues would get.
-/

namespace Breadboard

namespace Walk

variable {raised : Bool} {w : Walk}

theorem untilPause_of_event {event : Event} {rest : List Cue}
    (h : w.pending = .event event :: rest) :
    w.untilPause raised =
      let later := { w with pending := rest }.untilPause raised
      (event :: later.1, later.2.1, later.2.2) := by
  rw [untilPause]
  split
  · next hcues =>
    cases h.symm.trans hcues
    rfl
  · next hcues => cases h.symm.trans hcues
  · next hcues => cases h.symm.trans hcues

theorem untilPause_of_pause {milliseconds : Nat} {rest : List Cue}
    (h : w.pending = .pause milliseconds :: rest) :
    w.untilPause raised = ([], some milliseconds, { w with pending := rest }) := by
  rw [untilPause]
  split
  · next hcues => cases h.symm.trans hcues
  · next hcues =>
    cases h.symm.trans hcues
    rfl
  · next hcues => cases h.symm.trans hcues

theorem untilPause_of_running (hpending : w.pending = []) (hrunning : 0 < w.phase.rank) :
    w.untilPause raised = (w.step raised).untilPause raised := by
  rw [untilPause]
  split
  · next hcues => cases hpending.symm.trans hcues
  · next hcues => cases hpending.symm.trans hcues
  · rw [dif_pos hrunning]

theorem untilPause_of_stopped {outcome : Outcome} (hpending : w.pending = [])
    (hstopped : w.phase = .stopped outcome) : w.untilPause raised = ([], none, w) := by
  rw [untilPause]
  split
  · next hcues => cases hpending.symm.trans hcues
  · next hcues => cases hpending.symm.trans hcues
  · rw [dif_neg (by simp [hstopped, Phase.rank])]

/-- The events up to the next pause or the end, if so many rounds are enough to find them. -/
def untilPauseIn? (raised : Bool) : Nat → Walk → Option (List Event × Option Nat × Walk)
  | 0, _ => none
  | rounds + 1, w =>
      match w.pending, w.phase with
      | .event event :: rest, _ =>
          (untilPauseIn? raised rounds { w with pending := rest }).map fun later =>
            (event :: later.1, later.2.1, later.2.2)
      | .pause milliseconds :: rest, _ => some ([], some milliseconds, { w with pending := rest })
      | [], .stopped _ => some ([], none, w)
      | [], _ => untilPauseIn? raised rounds (w.step raised)

theorem untilPause_eq_of_untilPauseIn? {rounds : Nat} {found : List Event × Option Nat × Walk}
    (h : w.untilPauseIn? raised rounds = some found) : w.untilPause raised = found := by
  induction rounds generalizing w found with
  | zero => cases h
  | succ rounds ih =>
      rw [untilPauseIn?] at h
      split at h
      · next hpending =>
          obtain ⟨later, hlater, rfl⟩ := Option.map_eq_some_iff.mp h
          rw [untilPause_of_event hpending, ih hlater]
      · next hpending =>
          cases h
          exact untilPause_of_pause hpending
      · next hpending hstopped =>
          cases h
          exact untilPause_of_stopped hpending hstopped
      · next hpending hnot =>
          rcases w.running_or_stopped with hrunning | ⟨outcome, hstopped⟩
          · rw [untilPause_of_running hpending hrunning, ih h]
          · exact absurd hstopped (hnot outcome)

end Walk

namespace Runner

variable (r : Runner)

/-- The runner with this walk as its active run. -/
def on (w : Walk) : Runner :=
  { r with active := some w }

/-- The runner once this walk has come to its end. -/
def ended (w : Walk) : Runner :=
  { r with active := none, last := some w.report }

variable {r} {w v : Walk}

theorem on_eq (h : r.active = some w) : r.on w = r := by
  rw [on, ← h]

theorem next_on_of_some {cue : Cue} (h : w.next r.raised = (some cue, v)) :
    (r.on w).next = (some cue, r.on v) := by
  simp only [next, on, h]

theorem next_on_of_none (h : w.next r.raised = (none, v)) : (r.on w).next = (none, r.ended v) := by
  simp only [next, on, ended, h]

theorem next_on_congr (h : w.next r.raised = v.next r.raised) : (r.on w).next = (r.on v).next := by
  simp only [next, on, h]

theorem take_succ_congr {r' : Runner} (h : r.next = r'.next) (count : Nat) :
    r.take (count + 1) = r'.take (count + 1) := by
  rw [take, take, h]

theorem untilPause_on (r : Runner) (w : Walk) :
    (r.on w).untilPause =
      let found := w.untilPause r.raised
      (found.1, found.2.1, if found.2.1.isSome then r.on found.2.2 else r.ended found.2.2) := by
  simp only [untilPause, on]
  generalize w.untilPause r.raised = found
  obtain ⟨events, pause?, v⟩ := found
  cases pause? <;> rfl

/-- The events before a pause are the answers to as many calls, and the next call answers with the
pause or finds the run at its end. -/
def Bursts (r : Runner) (events : List Event) (pause? : Option Nat) (after : Runner) : Prop :=
  ∃ before, r.take events.length = (events.map Cue.event, before) ∧
    before.next = (pause?.map Cue.pause, after)

theorem Bursts.of_next_eq {r' : Runner} {events : List Event} {pause? : Option Nat}
    {after : Runner} (hnext : r.next = r'.next) (h : r'.Bursts events pause? after) :
    r.Bursts events pause? after := by
  obtain ⟨before, htake, hlast⟩ := h
  cases events with
  | nil =>
      cases htake
      exact ⟨r, rfl, hnext.trans hlast⟩
  | cons event rest => exact ⟨before, (take_succ_congr hnext _).trans htake, hlast⟩

theorem Bursts.cons {r' : Runner} {event : Event} {events : List Event} {pause? : Option Nat}
    {after : Runner} (hnext : r.next = (some (.event event), r'))
    (h : r'.Bursts events pause? after) : r.Bursts (event :: events) pause? after := by
  obtain ⟨before, htake, hlast⟩ := h
  refine ⟨before, ?_, hlast⟩
  rw [List.length_cons, take, hnext]
  simp only [htake, List.map_cons]

theorem bursts_on (r : Runner) (w : Walk) :
    let found := (r.on w).untilPause
    (r.on w).Bursts found.1 found.2.1 found.2.2 := by
  induction w using Walk.untilPause.induct r.raised with
  | case1 w event rest hpending _ _ _ _ ih =>
      rw [untilPause_on] at ih ⊢
      rw [Walk.untilPause_of_event hpending]
      exact .cons (next_on_of_some (Walk.next_of_pending hpending)) ih
  | case2 w milliseconds rest hpending =>
      rw [untilPause_on, Walk.untilPause_of_pause hpending]
      exact ⟨r.on w, rfl, next_on_of_some (Walk.next_of_pending hpending)⟩
  | case3 w hpending hrunning ih =>
      rw [untilPause_on] at ih ⊢
      rw [Walk.untilPause_of_running hpending hrunning]
      exact .of_next_eq (next_on_congr (Walk.next_of_running hpending hrunning)) ih
  | case4 w hpending hrunning =>
      rcases w.running_or_stopped with hrunning' | ⟨outcome, hstopped⟩
      · exact absurd hrunning' hrunning
      · rw [untilPause_on, Walk.untilPause_of_stopped hpending hstopped]
        exact ⟨r.on w, rfl, next_on_of_none (Walk.next_of_stopped hpending hstopped)⟩

theorem bursts_untilPause (r : Runner) :
    r.Bursts r.untilPause.1 r.untilPause.2.1 r.untilPause.2.2 := by
  cases hactive : r.active with
  | none =>
      have huntil : r.untilPause = ([], none, r) := by simp only [untilPause, hactive]
      rw [huntil]
      exact ⟨r, rfl, by simp only [next, hactive, Option.map_none]⟩
  | some w =>
      rw [← on_eq hactive]
      exact bursts_on r w

end Runner

end Breadboard
