import Breadboard.Session
import Breadboard.Proofs.Runner.Active
import Breadboard.Proofs.Walk.Yield

/-!
A look at the clock lets the active run go on until it pauses. It stands for a loop that calls for
cues, shows each event and leaves at the first pause or at the end of the run. The loop ends because
no walk shows events for ever: every pass over the body of the loop ends in a pause.
-/

namespace Breadboard

namespace Session

variable (s : Session)

theorem demoBoard_conclude (report : Report) : (s.conclude report).demoBoard = s.demoBoard := by
  unfold conclude
  split <;> rfl

theorem studentBoard_conclude (report : Report) :
    (s.conclude report).studentBoard = s.studentBoard := by
  unfold conclude
  split <;> rfl

theorem resumeAt_conclude (report : Report) : (s.conclude report).resumeAt = s.resumeAt := by
  unfold conclude
  split <;> rfl

theorem runner_conclude (report : Report) : (s.conclude report).runner = s.runner := by
  unfold conclude
  split <;> rfl

/-- The session with a burst of events shown on both boards. -/
def showing (events : List Event) (runner : Runner) (resumeAt : Option Nat) : Session :=
  { s with
    runner
    resumeAt
    demoBoard := s.demoBoard.applyAll events
    studentBoard := s.studentBoard.applyAll events }

/-- The session with a burst of events shown. It waits out the pause behind them, or takes the report
and announces it. -/
def afterBurst (now : Nat) (events : List Event) (pause? : Option Nat) (after : Runner) : Session :=
  match pause?, after.last with
  | some pause, _ => s.showing events after (some (now + pause))
  | none, some report => (s.showing events after.takeReport.2 none).conclude report
  | none, none => s.showing events after.takeReport.2 none

/-- A look at the clock when no pause is waited out. -/
theorem tick_eq {events : List Event} {pause? : Option Nat} {after : Runner} (now : Nat)
    (hdue : s.resumeAt.any (now < ·) = false)
    (huntil : s.runner.untilPause = (events, pause?, after)) :
    s.tick now = s.afterBurst now events pause? after := by
  unfold tick afterBurst
  rw [if_neg (by simp [hdue]), huntil]
  cases pause? with
  | some pause => rfl
  | none =>
      dsimp only [Runner.takeReport]
      cases after.last <;> rfl

theorem exists_tick_eq (now : Nat) (hdue : s.resumeAt.any (now < ·) = false) :
    ∃ events pause? after, s.runner.Bursts events pause? after ∧
      s.tick now = s.afterBurst now events pause? after :=
  ⟨_, _, _, s.runner.bursts_untilPause, s.tick_eq now hdue rfl⟩

/-- The same, field by field. -/
theorem exists_burst_tick (now : Nat) (hdue : s.resumeAt.any (now < ·) = false) :
    ∃ events pause? after, s.runner.Bursts events pause? after ∧
      (s.tick now).demoBoard = s.demoBoard.applyAll events ∧
      (s.tick now).studentBoard = s.studentBoard.applyAll events ∧
      (s.tick now).resumeAt = pause?.map (now + ·) ∧
      (s.tick now).runner = if pause?.isSome then after else after.takeReport.2 := by
  obtain ⟨events, pause?, after, hbursts, htick⟩ := s.exists_tick_eq now hdue
  refine ⟨events, pause?, after, hbursts, ?_⟩
  rw [htick]
  unfold afterBurst
  cases pause? with
  | some pause => exact ⟨rfl, rfl, rfl, rfl⟩
  | none =>
      cases after.last with
      | none => exact ⟨rfl, rfl, rfl, rfl⟩
      | some report =>
          dsimp only
          rw [demoBoard_conclude, studentBoard_conclude, resumeAt_conclude, runner_conclude]
          exact ⟨rfl, rfl, rfl, rfl⟩

end Session

namespace Walk

/-- Walks end or keep yielding. Every silent run ends. In any other a call for a cue takes only so
many steps, and only so many events come before a pause or the end, even if the loop is empty and no
pause has any length. So a look at the clock, which shows events until then, comes to its end. -/
theorem walks_keep_yielding :
    (∀ source passes, ∃ steps outcome,
      let lines := (Program.ofSource source).length
      let v := (step false)^[steps] (silent (.ofSource source) passes)
      steps ≤ lines + 2 + passes * (lines + 1) ∧ v.phase = .stopped outcome ∧
        runSilent source passes = ⟨v.state, outcome⟩) ∧
    (∀ program mode side timing w, (fresh program mode side timing).Visits w →
      let bound := program.length + 2 + mode.budget 0 * (program.length + 1)
      (∀ signal, ∃ steps ≤ bound,
        (∀ i < steps, ¬ (w.rounds signal i).Returns) ∧ (w.rounds signal steps).Returns ∧
        ∀ raised, (∀ i < steps, signal i = raised) →
          let v := w.rounds signal steps
          w.next raised = (v.pending.head?, { v with pending := v.pending.tail })) ∧
      ∀ signal, ∃ count ≤ w.pending.length + 3 * bound,
        (∀ i < count, ∃ event, w.answer signal i = some (.event event)) ∧
        (w.answer signal count = none ∨
          ∃ milliseconds, w.answer signal count = some (.pause milliseconds))) ∧
    ∀ (s : Session) (now : Nat),
      (s.resumeAt.any (now < ·) = true → s.tick now = s) ∧
      (s.resumeAt.any (now < ·) = false →
        ∃ (events : List Event) (pause? : Option Nat) (before after : Runner),
          s.runner.take events.length = (events.map Cue.event, before) ∧
          before.next = (pause?.map Cue.pause, after) ∧
          (s.tick now).demoBoard = s.demoBoard.applyAll events ∧
          (s.tick now).studentBoard = s.studentBoard.applyAll events ∧
          (s.tick now).resumeAt = pause?.map (now + ·) ∧
          (s.tick now).runner = if pause?.isSome then after else after.takeReport.2) := by
  refine ⟨?_, ?_, ?_⟩
  · intro source passes
    let start := silent (.ofSource source) passes
    have hsilent : start.IsSilent passes := isSilent_silent _ passes
    obtain ⟨steps, hsteps, _, hreturns⟩ := exists_returns (fun _ => false) start
    rw [rounds_const] at hreturns
    rcases hreturns with hpending | ⟨outcome, hstopped⟩
    · exact absurd (hsilent.reaches ⟨steps, rfl⟩).pending hpending
    · exact ⟨steps, outcome, hsteps, hstopped, runSilent_eq_of_reaches ⟨steps, rfl⟩ hstopped⟩
  · intro program mode side timing w hw bound
    have hbound : w.stepsAhead ≤ bound := hw.stepsAhead_le
    refine ⟨?_, ?_⟩
    · intro signal
      obtain ⟨steps, hsteps, hbefore, hreturns⟩ := exists_returns signal w
      refine ⟨steps, Nat.le_trans hsteps hbound, hbefore, hreturns, ?_⟩
      intro raised hsignal
      rw [next_eq_of_rounds hbefore hsignal, next_of_returns raised hreturns]
    · intro signal
      obtain ⟨count, hcount, hevents, hend⟩ := exists_pause signal w
      have hpending : Cue.events w.pending ≤ w.pending.length := List.countP_le_length
      refine ⟨count, ?_, hevents, hend⟩
      rw [eventsAhead] at hcount
      omega
  · intro s now
    refine ⟨fun hwaits => if_pos hwaits, ?_⟩
    intro hdue
    obtain ⟨events, pause?, after, ⟨before, htake, hlast⟩, htick⟩ := s.exists_burst_tick now hdue
    exact ⟨events, pause?, before, after, htake, hlast, htick⟩

/-- An empty loop that repeats, with no pause of any length: a walk that shows nothing at all. -/
theorem walks_keep_yielding_emptyLoop :
    let program : Program := .ofSource "void loop()\n\x7b\n\x7d".toList
    let start := fresh program (.animated true) .student .instant
    let w := { (start.step false).step false with pending := [] }
    start.Visits w ∧ w.phase = .loop ⟨1, 2⟩ 2 0 ∧
      ∀ signal, ∃ count ≤ 3 * 9,
        (∀ i < count, ∃ event, w.answer signal i = some (.event event)) ∧
        (w.answer signal count = none ∨
          ∃ milliseconds, w.answer signal count = some (.pause milliseconds)) := by
  intro program start w
  let inside := (start.step false).step false
  let shown : Walk := { inside with pending := [.event ⟨.student, .highlightEnd 0⟩] }
  have hcues : inside.pending =
      [.event ⟨.student, .highlightStart 0⟩, .event ⟨.student, .highlightEnd 0⟩] := by decide
  have hinside : start.Visits inside := .step false (.step false .start rfl) (by decide)
  have hshown : start.Visits shown := .delivery _ _ hinside hcues
  have hvisits : start.Visits w := .delivery (v := shown) _ _ hshown rfl
  exact ⟨hvisits, by decide, (walks_keep_yielding.2.1 _ _ _ _ w hvisits).2⟩

end Walk

end Breadboard
