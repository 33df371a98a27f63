import Breadboard.Proofs.Runner.Isolation
import Breadboard.Proofs.Walk.Stream

/-!
A board that follows a run. A run is a walk that is called for cues until one call delivers nothing;
on the way the signal to stop may be raised, once, and then it stays up. The board starts blank and
takes in the events. `Board.Follows` is the middle of such a run and `Board.ShowsRun` its end. A
burst of events leads from the one to the other, or leaves the run in the middle, at its next pause.
-/

namespace Breadboard

namespace Walk

/-- The signal that is raised before call number `stop?` and stays up, or is never raised. -/
def stopping (stop? : Option Nat) (call : Nat) : Bool :=
  stop?.any (· ≤ call)

variable {stop? : Option Nat} {calls : Nat}

theorem stopping_of_le (hstop : ∀ stop ∈ stop?, stop ≤ calls) {call : Nat} (hcall : calls ≤ call) :
    stopping stop? call = stop?.isSome := by
  cases stop? with
  | none => rfl
  | some stop => simpa [stopping] using Nat.le_trans (hstop stop rfl) hcall

/-- Behind the call before which it is raised the signal does not change any more. -/
theorem play_stopping (w : Walk) (hstop : ∀ stop ∈ stop?, stop ≤ calls) (more : Nat) :
    w.play (stopping stop?) (calls + more) =
      let later := (w.play (stopping stop?) calls).2.play (fun _ => stop?.isSome) more
      ((w.play (stopping stop?) calls).1 ++ later.1, later.2) := by
  have hsignal : (fun n => stopping stop? (calls + n)) = fun _ => stop?.isSome := by
    funext n
    exact stopping_of_le hstop (Nat.le_add_right calls n)
  rw [play_add, hsignal]

end Walk

namespace Board

/-- The board after a run from its first call to the one that delivers nothing, and the report. -/
def ShowsRun (b : Board) (w : Walk) (report : Report) : Prop :=
  ∃ stop? calls, w.answer (Walk.stopping stop?) calls = none ∧
    b = (Board.blank w.side).watch (w.play (Walk.stopping stop?) calls).1 ∧
    (w.play (Walk.stopping stop?) (calls + 1)).2.report = report

/-- The board has taken in all that was delivered of a run. It was started as `w` and is `v` now. -/
def Follows (b : Board) (w v : Walk) (raised : Bool) : Prop :=
  ∃ stop? calls, stop?.isSome = raised ∧ (∀ stop ∈ stop?, stop ≤ calls) ∧
    b = (Board.blank w.side).watch (w.play (Walk.stopping stop?) calls).1 ∧
    (w.play (Walk.stopping stop?) calls).2 = v

theorem watch_events (b : Board) (events : List Event) :
    b.watch (events.map .event) = b.applyAll events := by
  have hshown : (events.map Cue.event).filterMap Cue.event? = events := by
    induction events with
    | nil => rfl
    | cons event rest ih => exact congrArg (event :: ·) ih
  rw [watch, hshown]

namespace Follows

variable {b : Board} {w v u : Walk} {raised : Bool}

theorem start (w : Walk) : (Board.blank w.side).Follows w w false :=
  ⟨none, 0, rfl, nofun, rfl, rfl⟩

/-- The signal is raised. If it was down so far, this is the call before which it happens. -/
theorem raise (h : b.Follows w v raised) : b.Follows w v true := by
  obtain ⟨stop?, calls, hraised, hstop, hboard, hwalk⟩ := h
  cases stop? with
  | some stop => exact ⟨some stop, calls, rfl, hstop, hboard, hwalk⟩
  | none =>
      have hplay : w.play (Walk.stopping (some calls)) calls =
          w.play (Walk.stopping none) calls := by
        apply Walk.play_congr
        intro call hcall
        simp [Walk.stopping, hcall]
      refine ⟨some calls, calls, rfl, ?_, ?_, ?_⟩
      · simp
      · rw [hplay, hboard]
      · rw [hplay, hwalk]

/-- More calls, and the board takes in what they deliver. -/
theorem play {cues : List Cue} {more : Nat} (h : b.Follows w v raised)
    (hplay : v.play (fun _ => raised) more = (cues, u)) : (b.watch cues).Follows w u raised := by
  obtain ⟨stop?, calls, rfl, hstop, rfl, rfl⟩ := h
  have hboth := w.play_stopping hstop more
  rw [hplay] at hboth
  refine ⟨stop?, calls + more, rfl, ?_, ?_, ?_⟩
  · intro stop hmem
    exact Nat.le_add_right_of_le (hstop stop hmem)
  · rw [hboth, watch_append]
  · rw [hboth]

/-- The call that delivers nothing ends the run. -/
theorem ends (h : b.Follows w v raised) (hnext : v.next raised = (none, u)) :
    b.ShowsRun w u.report := by
  obtain ⟨stop?, calls, rfl, hstop, hboard, rfl⟩ := h
  have hsignal : Walk.stopping stop? calls = stop?.isSome :=
    Walk.stopping_of_le hstop (Nat.le_refl calls)
  refine ⟨stop?, calls, ?_, hboard, ?_⟩
  · rw [Walk.answer, hsignal, hnext]
  · rw [Walk.play_succ, hsignal, hnext]

end Follows

end Board

namespace Runner

variable {r after : Runner} {w v : Walk} {events : List Event} {pause? : Option Nat}

/-- Cues that are taken from a runner are delivered by its walk. -/
theorem exists_play_of_take {cues : List Cue} {before : Runner}
    (h : (r.on w).take cues.length = (cues, before)) :
    ∃ v, before = r.on v ∧ w.play (fun _ => r.raised) cues.length = (cues, v) := by
  induction cues generalizing w with
  | nil =>
      cases h
      exact ⟨w, rfl, rfl⟩
  | cons cue rest ih =>
      rw [List.length_cons, take] at h
      obtain ⟨cue?, u, hnext⟩ : ∃ cue? u, w.next r.raised = (cue?, u) := ⟨_, _, rfl⟩
      cases cue? with
      | none =>
          rw [next_on_of_none hnext] at h
          cases h
      | some first =>
          rw [next_on_of_some hnext] at h
          obtain ⟨hcues, hbefore⟩ := Prod.mk.inj h
          obtain ⟨rfl, hrest⟩ := List.cons.inj hcues
          obtain ⟨v, hv, hplay⟩ := ih (Prod.ext hrest hbefore)
          have hfirst : w.play (fun _ => r.raised) 1 = ([first], u) := by
            simp [Walk.play, hnext]
          refine ⟨v, hv, ?_⟩
          rw [List.length_cons, Nat.add_comm, Walk.play_add, hfirst]
          simp only [hplay, List.singleton_append]

theorem Bursts.exists_play (h : (r.on w).Bursts events pause? after) :
    ∃ v u, w.play (fun _ => r.raised) events.length = (events.map .event, v) ∧
      v.next r.raised = (pause?.map .pause, u) ∧
      after = if pause?.isSome then r.on u else r.ended u := by
  obtain ⟨before, htake, hlast⟩ := h
  have hlength : (events.map Cue.event).length = events.length := List.length_map _
  rw [← hlength] at htake
  obtain ⟨v, rfl, hplay⟩ := exists_play_of_take htake
  rw [hlength] at hplay
  obtain ⟨cue?, u, hnext⟩ : ∃ cue? u, v.next r.raised = (cue?, u) := ⟨_, _, rfl⟩
  refine ⟨v, u, hplay, ?_⟩
  cases cue? with
  | none =>
      rw [next_on_of_none hnext] at hlast
      cases pause? with
      | none => exact ⟨hnext, (congrArg Prod.snd hlast).symm⟩
      | some milliseconds => cases hlast
  | some cue =>
      rw [next_on_of_some hnext] at hlast
      cases pause? with
      | none => cases hlast
      | some milliseconds =>
          cases hlast
          exact ⟨hnext, rfl⟩

/-- With no run active there is nothing to show. -/
theorem Bursts.of_idle (hidle : r.active = none) (h : r.Bursts events pause? after) :
    events = [] ∧ pause? = none ∧ after = r := by
  obtain ⟨before, htake, hlast⟩ := h
  have hnothing : r.take events.length = ([], r) := by
    cases events with
    | nil => rfl
    | cons event rest => rw [List.length_cons, take, next_of_idle hidle]
  rw [hnothing] at htake
  obtain ⟨hcues, rfl⟩ := Prod.mk.inj htake
  rw [next_of_idle hidle] at hlast
  obtain ⟨hpause, rfl⟩ := Prod.mk.inj hlast
  exact ⟨List.map_eq_nil_iff.mp hcues.symm, Option.map_eq_none_iff.mp hpause.symm, rfl⟩

/-- A burst leaves the run in the middle, at a pause, or at its end. -/
theorem Bursts.follows {b : Board} (h : b.Follows w v r.raised)
    (hbursts : (r.on v).Bursts events pause? after) :
    (∃ u, pause?.isSome = true ∧ after = r.on u ∧
      (b.applyAll events).Follows w u r.raised) ∨
    ∃ u, pause? = none ∧ after = r.ended u ∧ (b.applyAll events).ShowsRun w u.report := by
  obtain ⟨v', u, hplay, hnext, hafter⟩ := hbursts.exists_play
  have hshown := h.play hplay
  rw [Board.watch_events] at hshown
  cases pause? with
  | none => exact .inr ⟨u, rfl, hafter, hshown.ends hnext⟩
  | some milliseconds =>
      have hpause : v'.play (fun _ => r.raised) 1 = ([.pause milliseconds], u) := by
        simp [Walk.play, hnext]
      exact .inl ⟨u, rfl, hafter, hshown.play hpause⟩

end Runner

section Animated

variable {program : Program} {looping : Bool} {side : Side} {timing : Timing} {b : Board}
  {v : Walk} {raised : Bool} {report : Report}

theorem Board.Follows.side_eq
    (h : b.Follows (.animated program looping side timing) v raised) : v.side = side := by
  obtain ⟨stop?, calls, _, _, _, rfl⟩ := h
  exact (Walk.delivers_play _ _ calls).told.side_eq

/-- What a burst of the run shows is for its side alone. -/
theorem Board.Follows.side_of_burst {r after : Runner} {events : List Event} {pause? : Option Nat}
    (h : b.Follows (.animated program looping side timing) v r.raised)
    (hbursts : (r.on v).Bursts events pause? after) {event : Event} (hevent : event ∈ events) :
    event.side = side := by
  obtain ⟨v', u, hplay, _, _⟩ := hbursts.exists_play
  obtain ⟨stop?, calls, hraised, hstop, _, rfl⟩ := h
  have hboth := Walk.play_stopping (.animated program looping side timing) hstop events.length
  have hdelivers := Walk.delivers_play (.animated program looping side timing)
    (Walk.stopping stop?) (calls + events.length)
  rw [hboth, hraised, hplay] at hdelivers
  apply hdelivers.side_eq
  rw [Cue.shown_append]
  apply List.mem_append_right
  exact List.mem_filterMap.mpr ⟨.event event, List.mem_map_of_mem hevent, rfl⟩

/-- At the end of a run no line is highlighted. -/
theorem Board.ShowsRun.highlighted_eq
    (h : b.ShowsRun (.animated program looping side timing) report) : b.highlighted = none := by
  obtain ⟨stop?, calls, hanswer, rfl, _⟩ := h
  let w := Walk.animated program looping side timing
  let v := (w.play (Walk.stopping stop?) calls).2
  have hempty : v.pending = [] := by
    cases hpending : v.pending with
    | nil => rfl
    | cons cue rest =>
        change (v.next (Walk.stopping stop? calls)).1 = none at hanswer
        rw [Walk.next_of_pending hpending] at hanswer
        cases hanswer
  have hmirrors : Board.Mirrors _ v :=
    Walk.mirrors_play program looping side timing (Walk.stopping stop?) calls
  have hhighlighted := hmirrors.highlighted
  change (Board.watch _ (_ ++ v.pending)).highlighted = none at hhighlighted
  rwa [hempty, List.append_nil] at hhighlighted

end Animated

end Breadboard
