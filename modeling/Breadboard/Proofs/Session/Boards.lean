import Breadboard.Proofs.Runner.Shown
import Breadboard.Proofs.Session.Gate
import Breadboard.Proofs.Session.Tick

/-!
What the boards show. The listing of a side can change and its board is not told, a run can be
stopped, and a burst of events goes to both boards. Still, with no run active each board is blank or
shows a run of the listing beside it, from the first event to the last. This is because listings
change only while no run is active, and the board of a listing that changes is cleared.

`Stage` is the part of a session that this depends on. What an input can do to it is said once, in
`Stage.Change`, and each case keeps it steady.
-/

namespace Breadboard

/-- The runner and the boards, and what can be run on each side. -/
structure Stage where
  settings : Settings
  listing : Side → Text
  runner : Runner
  resumeAt : Option Nat
  board : Side → Board

namespace Stage

/-- The example is never repeated. -/
def loops (g : Stage) : Side → Bool
  | .demo => false
  | .student => g.settings.looping

/-- The run of a side, before its first step. -/
def run (g : Stage) (side : Side) : Walk :=
  .animated (.ofSource (g.listing side)) (g.loops side) side g.settings.timing

/-- Nothing on the board, or a run from its beginning to its end. -/
def IsSettled (g : Stage) (side : Side) : Prop :=
  g.board side = .blank side ∨ ∃ report, (g.board side).ShowsRun (g.run side) report

structure IsSteady (g : Stage) : Prop where
  timing : g.runner.timing = g.settings.timing
  waits : g.resumeAt.isSome = true → g.runner.isBusy = true
  read : g.runner.last = none
  settled : ∀ side, g.runner.activeSide ≠ some side → g.IsSettled side
  follows : ∀ v, g.runner.active = some v →
    (g.board v.side).Follows (g.run v.side) v g.runner.raised

end Stage

namespace Session

def stage (s : Session) : Stage where
  settings := s.settings
  listing
    | .demo => s.exampleCode
    | .student => s.source
  runner := s.runner
  resumeAt := s.resumeAt
  board
    | .demo => s.demoBoard
    | .student => s.studentBoard

/-- The line at the bottom, and whether it is an error. -/
def notice (s : Session) : String × Bool :=
  (s.status, s.statusIsError)

end Session

/-- The notice at the end of a run. -/
def Outcome.notice : Outcome → String × Bool
  | .completed => ("Exécution terminée", false)
  | .cancelled => ("Exécution arrêtée", false)
  | .failed failure => ("Erreur à la " ++ failure.report, true)

/-- What an input can do to the stage. -/
inductive Stage.Change (s : Session) (input : Input) : Stage → Prop where
  | same : Change s input s.stage
  | started (side : Side) (hidle : s.runner.active = none) (board : Side → Board)
      (hblank : board side = .blank side)
      (hother : ∀ other, other ≠ side → board other = s.stage.board other) :
      Change s input
        { s.stage with
          runner := (Runner.fresh s.runner.timing).on
            (.animated (.ofSource (s.stage.listing side)) (s.stage.loops side) side
              s.runner.timing)
          resumeAt := none
          board }
  | stopping (hbusy : s.runner.isBusy = true) :
      Change s input { s.stage with runner := s.runner.raise }
  | renewed (hidle : s.runner.active = none) (listing : Side → Text) (board : Side → Board)
      (hboard : ∀ side, board side = .blank side ∨
        board side = s.stage.board side ∧ listing side = s.stage.listing side) :
      Change s input { s.stage with listing, board }
  | burst (now : Nat) (hinput : input = .tick now) (events : List Event) (pause? : Option Nat)
      (after : Runner) (hbursts : s.runner.Bursts events pause? after)
      (hnotice : ∀ report, pause? = none → after.last = some report →
        (s.tick now).notice = report.outcome.notice) :
      Change s input
        { s.stage with
          runner := if pause?.isSome then after else after.takeReport.2
          resumeAt := pause?.map (now + ·)
          board := fun side => (s.stage.board side).applyAll events }

namespace Session

variable (s : Session)

theorem stage_conclude (report : Report) : (s.conclude report).stage = s.stage := by
  unfold conclude
  split <;> rfl

theorem notice_conclude (report : Report) :
    (s.conclude report).notice = report.outcome.notice := by
  unfold conclude
  cases report.outcome <;> rfl

theorem stage_check : s.check.stage = s.stage := by
  unfold check
  split <;> rfl

theorem stage_scroll (move : Scroll → Scroll) : (s.scroll move).stage = s.stage := by
  unfold scroll
  split <;> rfl

theorem stage_showing (events : List Event) (runner : Runner) (resumeAt : Option Nat) :
    (s.showing events runner resumeAt).stage =
      { s.stage with
        runner, resumeAt
        board := fun side => (s.stage.board side).applyAll events } := by
  have hboard : (s.showing events runner resumeAt).stage.board =
      fun side => (s.stage.board side).applyAll events := by
    funext side
    cases side <;> rfl
  rw [← hboard]
  rfl

end Session

namespace Stage

variable {s : Session} {input : Input}

theorem Change.of_eq {g : Stage} (h : g = s.stage) : Change s input g := by
  rw [h]
  exact .same

theorem change_tick (now : Nat) : Change s (.tick now) (s.tick now).stage := by
  cases hdue : s.resumeAt.any (now < ·) with
  | true => exact .of_eq (by rw [Session.tick, if_pos hdue])
  | false =>
      obtain ⟨events, pause?, after, hbursts, htick⟩ := s.exists_tick_eq now hdue
      unfold Session.afterBurst at htick
      cases pause? with
      | some pause =>
          rw [htick, Session.stage_showing]
          refine .burst now rfl events (some pause) after hbursts ?_
          intro report hnone
          cases hnone
      | none =>
          cases hlast : after.last with
          | none =>
              rw [hlast] at htick
              rw [htick, Session.stage_showing]
              refine .burst now rfl events none after hbursts ?_
              intro report _ hreport
              cases hlast.symm.trans hreport
          | some report =>
              rw [hlast] at htick
              have hnotice : (s.tick now).notice = report.outcome.notice := by
                rw [htick]
                exact Session.notice_conclude _ report
              rw [htick, Session.stage_conclude, Session.stage_showing]
              refine .burst now rfl events none after hbursts ?_
              intro report' _ hreport
              cases hlast.symm.trans hreport
              exact hnotice

theorem change_runExample : Change s input s.runExample.stage := by
  unfold Session.runExample
  cases hbusy : s.runner.isBusy with
  | true =>
      rw [Runner.start_of_busy hbusy]
      exact .same
  | false =>
      have hidle := Runner.isBusy_eq_false_iff.mp hbusy
      rw [Runner.start_of_idle hidle]
      refine .started .demo hidle _ rfl ?_
      intro other hother
      cases other with
      | demo => exact absurd rfl hother
      | student => rfl

theorem change_runStudent : Change s input s.runStudent.stage := by
  unfold Session.runStudent
  cases hbusy : s.runner.isBusy with
  | true =>
      rw [Runner.start_of_busy hbusy]
      exact .same
  | false =>
      have hidle := Runner.isBusy_eq_false_iff.mp hbusy
      rw [Runner.start_of_idle hidle]
      refine .started .student hidle _ rfl ?_
      intro other hother
      cases other with
      | demo => rfl
      | student => exact absurd rfl hother

theorem change_stop : Change s input { s.stage with runner := s.runner.stop } := by
  unfold Runner.stop
  split
  · next hbusy => exact .stopping hbusy
  · exact .same

theorem change_nextExercise : Change s input s.nextExercise.stage := by
  unfold Session.nextExercise
  split
  · exact .same
  · split
    · exact .same
    · next hbusy =>
      split
      · exact .same
      · have hidle := Runner.isBusy_eq_false_iff.mp (Bool.eq_false_iff.mpr hbusy)
        refine .renewed hidle _ _ ?_
        intro side
        cases side <;> exact .inl rfl

theorem change_reload (file : Except String Text) : Change s input (s.reload file).stage := by
  unfold Session.reload
  split
  · exact .same
  · next hbusy =>
    split
    · exact .same
    · split
      · have hidle := Runner.isBusy_eq_false_iff.mp (Bool.eq_false_iff.mpr hbusy)
        refine .renewed hidle _ _ ?_
        intro side
        cases side with
        | demo => exact .inr ⟨rfl, rfl⟩
        | student => exact .inl rfl
      · exact .same

theorem change_press (file : Except String Text) (pressed : Key) :
    Change s input (s.press file pressed).stage := by
  unfold Session.press
  split
  · split
    · exact change_stop
    · exact change_runExample
    · exact change_runStudent
    · unfold Session.stop
      split
      · exact change_stop
      · exact .same
    · exact .of_eq s.stage_check
    · exact change_nextExercise
    · exact change_reload file
    · exact .same
    · exact .same
  · exact .same
  · exact .of_eq (s.stage_scroll _)
  · exact .of_eq (s.stage_scroll _)
  · exact .same
  · exact .same
  · exact .same

/-- Every input does one of these things. -/
theorem change_receive (s : Session) (input : Input) : Change s input (s.receive input).stage := by
  cases input with
  | tick now => exact change_tick now
  | key file pressed =>
      unfold Session.receive Session.handle
      dsimp only
      split
      · split
        · exact .same
        · exact .same
        · split
          · exact .same
          · exact change_stop
          · exact .same
        · exact .same
      · exact change_press file pressed

end Stage

namespace Stage

variable {s : Session} {input : Input} {g : Stage}

theorem IsSettled.congr {g' : Stage} {side : Side} (hboard : g'.board side = g.board side)
    (hrun : g'.run side = g.run side) (h : g.IsSettled side) : g'.IsSettled side := by
  unfold IsSettled
  rw [hboard, hrun]
  exact h

theorem IsSettled.side_eq {side : Side} (h : g.IsSettled side) : (g.board side).side = side := by
  rcases h with hblank | ⟨report, stop?, calls, _, hboard, _⟩
  · rw [hblank]
    rfl
  · rw [hboard]
    exact Board.side_applyAll _ _

theorem IsSettled.highlighted_eq {side : Side} (h : g.IsSettled side) :
    (g.board side).highlighted = none := by
  rcases h with hblank | ⟨report, hshows⟩
  · rw [hblank]
    rfl
  · exact hshows.highlighted_eq

theorem IsSteady.settled_of_idle (h : g.IsSteady) (hidle : g.runner.active = none) (side : Side) :
    g.IsSettled side := by
  apply h.settled
  simp [Runner.activeSide, hidle]

theorem isSteady_start (settings : Settings) (course : Course) (path : Option String)
    (source : Text) : (Session.start settings course path source).stage.IsSteady where
  timing := rfl
  waits hwaits := Bool.noConfusion hwaits
  read := rfl
  settled side _ := .inl (by cases side <;> rfl)
  follows v hactive := absurd hactive (Option.some_ne_none v).symm

/-- A run is started: its board is blank, and the other one stays as it is. -/
theorem IsSteady.started {side : Side} {board : Side → Board} (h : g.IsSteady)
    (hidle : g.runner.active = none) (hblank : board side = .blank side)
    (hother : ∀ other, other ≠ side → board other = g.board other) :
    IsSteady
      { g with
        runner := (Runner.fresh g.runner.timing).on
          (.animated (.ofSource (g.listing side)) (g.loops side) side g.runner.timing)
        resumeAt := none
        board } where
  timing := h.timing
  waits hwaits := Bool.noConfusion hwaits
  read := rfl
  settled other hactive := by
    have hne : other ≠ side := by
      rintro rfl
      exact hactive rfl
    exact (h.settled_of_idle hidle other).congr (hother other hne) rfl
  follows v hactive := by
    obtain rfl := Option.some.inj hactive
    change (board side).Follows _ (.animated _ _ side g.runner.timing) false
    rw [hblank, h.timing]
    exact Board.Follows.start (run g side)

theorem IsSteady.stopping (h : g.IsSteady) (hbusy : g.runner.isBusy = true) :
    IsSteady { g with runner := g.runner.raise } where
  timing := h.timing
  waits _ := hbusy
  read := h.read
  settled := h.settled
  follows v hactive := (h.follows v hactive).raise

/-- Listings are replaced, and the boards beside them are cleared. -/
theorem IsSteady.renewed {listing : Side → Text} {board : Side → Board} (h : g.IsSteady)
    (hidle : g.runner.active = none)
    (hboard : ∀ side, board side = .blank side ∨
      board side = g.board side ∧ listing side = g.listing side) :
    IsSteady { g with listing, board } where
  timing := h.timing
  waits := h.waits
  read := h.read
  settled side _ := by
    rcases hboard side with hblank | ⟨hsame, hlisting⟩
    · exact .inl hblank
    · refine (h.settled_of_idle hidle side).congr hsame ?_
      simp only [run, hlisting]
      rfl
  follows v hactive := by cases hidle.symm.trans hactive

section Active

variable {v : Walk} {events : List Event} {pause? : Option Nat} {after : Runner}
  (h : g.IsSteady) (hactive : g.runner.active = some v)

include h hactive

/-- While a run is active the other side is settled. -/
theorem IsSteady.settled_other {side : Side} (hne : v.side ≠ side) : g.IsSettled side := by
  apply h.settled
  simpa [Runner.activeSide, hactive] using hne

/-- Its board does not heed the events of the run. -/
theorem IsSteady.applyAll_other (hbursts : (g.runner.on v).Bursts events pause? after) {side : Side}
    (hne : v.side ≠ side) : (g.board side).applyAll events = g.board side := by
  apply Board.applyAll_of_other
  intro event hevent
  rw [(h.follows v hactive).side_of_burst hbursts hevent, (h.settled_other hactive hne).side_eq]
  exact hne

end Active

/-- A burst of events goes to the board of its run. -/
theorem IsSteady.burst {events : List Event} {pause? : Option Nat} {after : Runner}
    (h : g.IsSteady) (now : Nat) (hbursts : g.runner.Bursts events pause? after) :
    IsSteady
      { g with
        runner := if pause?.isSome then after else after.takeReport.2
        resumeAt := pause?.map (now + ·)
        board := fun side => (g.board side).applyAll events } := by
  cases hactive : g.runner.active with
  | none =>
      obtain ⟨rfl, rfl, rfl⟩ := hbursts.of_idle hactive
      exact ⟨h.timing, fun hwaits => Bool.noConfusion hwaits, rfl, h.settled, h.follows⟩
  | some v =>
      rw [← Runner.on_eq hactive] at hbursts
      rcases hbursts.follows (h.follows v hactive) with
        ⟨u, hpause, rfl, hshown⟩ | ⟨u, rfl, rfl, hshown⟩
      · -- The run goes on, on the same side.
        have hside : u.side = v.side := hshown.side_eq
        rw [if_pos hpause]
        refine ⟨h.timing, fun _ => rfl, h.read, ?_, ?_⟩
        · intro side hother
          have hne : v.side ≠ side := by
            rintro rfl
            exact hother (congrArg some hside)
          exact (h.settled_other hactive hne).congr (h.applyAll_other hactive hbursts hne) rfl
        · intro u' hu
          obtain rfl := Option.some.inj hu
          change (Board.applyAll (g.board u.side) events).Follows (g.run u.side) u _
          rw [hside]
          exact hshown
      · refine ⟨h.timing, fun hwaits => Bool.noConfusion hwaits, rfl, ?_, ?_⟩
        · intro side _
          by_cases hside : v.side = side
          · subst hside
            exact .inr ⟨u.report, hshown⟩
          · exact (h.settled_other hactive hside).congr
              (h.applyAll_other hactive hbursts hside) rfl
        · intro u' hu
          exact absurd hu (Option.some_ne_none u').symm

/-- Every input keeps the stage steady. -/
theorem Change.isSteady (h : s.stage.IsSteady) (hchange : Change s input g) : g.IsSteady := by
  cases hchange with
  | same => exact h
  | started side hidle board hblank hother => exact h.started hidle hblank hother
  | stopping hbusy => exact h.stopping hbusy
  | renewed hidle listing board hboard => exact h.renewed hidle hboard
  | burst now hinput events pause? after hbursts hnotice => exact h.burst now hbursts

theorem Change.settings_eq (hchange : Change s input g) : g.settings = s.settings := by
  cases hchange <;> rfl

/-- The input that ends a run shows the rest of it and announces its report. -/
theorem Change.announced {v : Walk} (h : s.stage.IsSteady) (hactive : s.runner.active = some v)
    (hended : g.runner.active = none) (hchange : Change s input g) :
    ∃ report, (g.board v.side).ShowsRun (s.stage.run v.side) report ∧
      (s.receive input).notice = report.outcome.notice := by
  cases hchange with
  | same => cases hactive.symm.trans hended
  | started side hidle => cases hactive.symm.trans hidle
  | stopping hbusy => cases hactive.symm.trans hended
  | renewed hidle => cases hactive.symm.trans hidle
  | burst now hinput events pause? after hbursts hnotice =>
      -- The only input that can end a run; a burst that ends in a pause does not.
      subst hinput
      rw [← Runner.on_eq hactive] at hbursts
      rcases hbursts.follows (h.follows v hactive) with
        ⟨u, hpause, rfl, _⟩ | ⟨u, rfl, rfl, hshown⟩
      · rw [if_pos hpause] at hended
        cases hended
      · exact ⟨u.report, hshown, hnotice u.report rfl rfl⟩

end Stage

namespace Session

variable {course : Course}

/-- No sequence of inputs upsets the stage. -/
theorem receiveAll_isSteady {s : Session} (h : s.stage.IsSteady) (inputs : List Input) :
    (s.receiveAll inputs).settings = s.settings ∧ (s.receiveAll inputs).stage.IsSteady := by
  induction inputs generalizing s with
  | nil => exact ⟨rfl, h⟩
  | cons input rest ih =>
      have hchange := Stage.change_receive s input
      obtain ⟨hsettings, hsteady⟩ := ih (hchange.isSteady h)
      exact ⟨hsettings.trans hchange.settings_eq, hsteady⟩

/-- The boards are never stale, and no run ends unnoticed. Whatever the keys, the looks at the clock
and the learner's file, a pause is waited out only during a run and no report is left unread. With
no run active each board is blank or shows a whole run of the listing beside it, with no line lit.
The input that ends a run leaves all of it on its board and announces its outcome. -/
theorem boards_never_stale {document : Text} (hparse : Course.parse document = .ok course)
    (settings : Settings) (path : Option String) (source : Text) (inputs : List Input) :
    let s := (start settings course path source).receiveAll inputs
    (s.resumeAt.isSome = true → s.runner.isBusy = true) ∧
    s.runner.last = none ∧
    (∃ exercise, course.exercise? s.progress = some exercise ∧
      let demo := Walk.animated (.ofSource exercise.exampleCode) false .demo settings.timing
      let student := Walk.animated (.ofSource s.source) settings.looping .student settings.timing
      (s.runner.isBusy = false →
        (s.demoBoard = .blank .demo ∨ ∃ report, s.demoBoard.ShowsRun demo report) ∧
        (s.studentBoard = .blank .student ∨ ∃ report, s.studentBoard.ShowsRun student report) ∧
        s.demoBoard.highlighted = none ∧ s.studentBoard.highlighted = none)) ∧
    ∀ input side, s.runner.activeSide = some side → (s.receive input).runner.isBusy = false →
      ∃ report, ((s.receive input).stage.board side).ShowsRun (s.stage.run side) report ∧
        (s.receive input).notice = report.outcome.notice := by
  intro s
  have hchecked := Course.isChecked_of_parse hparse
  obtain ⟨hcourse, hsound⟩ : s.course = course ∧ s.gate.IsSound :=
    receiveAll_isSound (s := start settings course path source) hchecked
      (start_isSound hchecked settings path source) inputs
  obtain ⟨hsettings, hsteady⟩ : s.settings = settings ∧ s.stage.IsSteady :=
    receiveAll_isSteady (Stage.isSteady_start settings course path source) inputs
  obtain ⟨exercise, hexercise⟩ : ∃ exercise, s.course.exercise? s.progress = some exercise :=
    hsound.place
  refine ⟨hsteady.waits, hsteady.read, ⟨exercise, hcourse ▸ hexercise, ?_⟩, ?_⟩
  · intro demo student hidle
    have hsettled := hsteady.settled_of_idle (Runner.isBusy_eq_false_iff.mp hidle)
    have hdemo : s.stage.run .demo = demo := by
      change Walk.animated (.ofSource s.exampleCode) false .demo s.settings.timing = demo
      rw [exampleCode, hexercise, hsettings]
      rfl
    have hstudent : s.stage.run .student = student := by
      change Walk.animated (.ofSource s.source) s.settings.looping .student s.settings.timing = _
      rw [hsettings]
    refine ⟨?_, ?_, (hsettled .demo).highlighted_eq, (hsettled .student).highlighted_eq⟩
    · rw [← hdemo]
      exact hsettled .demo
    · rw [← hstudent]
      exact hsettled .student
  · intro input side hside hidle
    obtain ⟨v, hactive, rfl⟩ := Option.map_eq_some_iff.mp hside
    exact (Stage.change_receive s input).announced hsteady hactive
      (Runner.isBusy_eq_false_iff.mp hidle)

/-- A course with one exercise. Its example sets a name, and one look at the clock plays it all. -/
theorem boards_never_stale_oneExercise :
    let document : Text :=
      "\x7b\"levels\":[\x7b\"number\":1,\"title\":\"\",\"subtitle\":\"\",\"exercises\":[".toList ++
      "\x7b\"number\":1,\"example_code\":\"void setup()\\n\x7b\\nx = 1;\\n\x7d\",".toList ++
      "\"challenge\":\x7b\"title\":\"\",\"instructions\":[]\x7d\x7d]\x7d]\x7d".toList
    let code : Text := "void setup()\n\x7b\nx = 1;\n\x7d".toList
    let course : Course := ⟨[⟨1, [], [], {}, [⟨1, code, ⟨[], []⟩, {}, none⟩]⟩]⟩
    let s := (start ⟨.instant, true⟩ course none []).receiveAll
      [.key (.error "") (.char 'x'), .tick 0]
    Course.parse document = .ok course ∧ s.runner.isBusy = false ∧
      s.demoBoard.bindings.get? ['x'] = some ['1'] ∧ s.runner.last = none ∧
      ∃ exercise, course.exercise? s.progress = some exercise ∧
        let demo := Walk.animated (.ofSource exercise.exampleCode) false .demo .instant
        let student := Walk.animated (.ofSource s.source) true .student .instant
        (∃ report, s.demoBoard.ShowsRun demo report) ∧
        (s.studentBoard = .blank .student ∨ ∃ report, s.studentBoard.ShowsRun student report) ∧
        s.demoBoard.highlighted = none ∧ s.studentBoard.highlighted = none := by
  intro document code course s
  have hparse : Course.parse document = .ok course := Course.parse_eq_ok (by decide +kernel)
  obtain ⟨_, hread, ⟨exercise, hexercise, hboards⟩, _⟩ :=
    boards_never_stale hparse ⟨.instant, true⟩ none [] [.key (.error "") (.char 'x'), .tick 0]
  let run := Walk.animated (.ofSource code) false .demo .instant
  have hplayed : (run.untilPauseIn? false 20).any (fun found => found.2.1 = none ∧
      ((Board.blank .demo).applyAll found.1).bindings.get? ['x'] = some ['1']) = true := by
    decide +kernel
  obtain ⟨⟨events, pause?, v⟩, hfound, htests⟩ := (Option.any_eq_true _ _).mp hplayed
  obtain ⟨rfl, hvalue⟩ := of_decide_eq_true htests
  let started := (start ⟨.instant, true⟩ course none []).runExample
  have huntil : started.runner.untilPause = (events, none, (Runner.fresh .instant).ended v) := by
    have hrun : run.untilPause (Runner.fresh .instant).raised = (events, none, v) :=
      Walk.untilPause_eq_of_untilPauseIn? hfound
    change ((Runner.fresh .instant).on run).untilPause = _
    rw [Runner.untilPause_on, hrun]
    rfl
  have hs : s = (started.showing events
      ((Runner.fresh .instant).ended v).takeReport.2 none).conclude v.report :=
    started.tick_eq 0 rfl huntil
  have hidle : s.runner.isBusy = false := by
    rw [hs, runner_conclude]
    rfl
  have hx : s.demoBoard.bindings.get? ['x'] = some ['1'] := by
    rw [hs, demoBoard_conclude]
    exact hvalue
  obtain ⟨hdemo, hstudent, hlit⟩ := hboards hidle
  refine ⟨hparse, hidle, hx, hread, exercise, hexercise, ?_, hstudent, hlit⟩
  rcases hdemo with hblank | hshows
  · change s.demoBoard = _ at hblank
    rw [hblank] at hx
    cases hx
  · exact hshows

end Session

end Breadboard
