import Breadboard.Proofs.Walk.Invariant

/-!
How long a walk can keep its spectator waiting. `stepsAhead` bounds the steps that a walk takes
before it pauses or ends: the lines to go in the setup, then the lines of each pass that a silent
walk has to make, or of the one pass after which an animated walk pauses. Every step uses some of
it up, except for the one that ends a pass of an animated walk, and that one queues a pause even if
the pause has no length. A step shows at most three events, so the same number bounds the events
between two pauses.
-/

namespace Breadboard

/-- The passes that a walk makes before it pauses or ends, when `done` are complete. -/
def Mode.budget : Mode → Nat → Nat
  | .animated _, _ => 1
  | .silent limit, done => limit - done

theorem Mode.budget_pos {mode : Mode} {done : Nat} (h : mode.continues done = true) :
    0 < mode.budget done := by
  cases mode with
  | animated looping => exact Nat.one_pos
  | silent limit => exact Nat.sub_pos_of_lt (of_decide_eq_true h)

theorem Mode.budget_le (mode : Mode) (done : Nat) : mode.budget done ≤ mode.budget 0 := by
  cases mode with
  | animated looping => exact Nat.le_refl 1
  | silent limit => exact Nat.sub_le limit done

namespace Phase

def stepsAhead (lines : Nat) (mode : Mode) : Phase → Nat
  | .idle => lines + 2 + mode.budget 0 * (lines + 1)
  | .setup cursor _ => lines - cursor + 1 + mode.budget 0 * (lines + 1)
  | .loop block cursor done =>
      block.bodyEnd - cursor + 1 +
        (mode.budget done - 1) * (block.bodyEnd - block.bodyStart + 1)
  | .stopped _ => 0

/-- There is a line under the cursor. -/
def OnLine (lines : Nat) : Phase → Prop
  | .setup cursor _ => cursor < lines
  | .loop block cursor _ => cursor < block.bodyEnd
  | _ => False

variable {phase : Phase} {lines : Nat} {mode : Mode}

theorem stepsAhead_pos (h : 0 < phase.rank) : 0 < phase.stepsAhead lines mode := by
  cases phase with
  | stopped outcome => exact absurd h (Nat.lt_irrefl 0)
  | _ => simp only [stepsAhead]; omega

theorem stepsAhead_movedTo_lt {next : Nat} (honLine : phase.OnLine lines)
    (hdown : phase.cursor < next) :
    (phase.movedTo next).stepsAhead lines mode < phase.stepsAhead lines mode := by
  cases phase with
  | setup cursor closing? =>
      have hcursor : cursor < lines := honLine
      have hnext : cursor < next := hdown
      cases closing? <;> simp only [movedTo, stepsAhead] <;> omega
  | loop block cursor done =>
      have hcursor : cursor < block.bodyEnd := honLine
      have hnext : cursor < next := hdown
      simp only [movedTo, stepsAhead]
      omega
  | idle => exact absurd honLine id
  | stopped outcome => exact absurd honLine id

/-- The first pass of the loop and those that follow it. -/
theorem stepsAhead_loop_start {block : Block} (done : Nat) (h : mode.continues done = true) :
    stepsAhead lines mode (.loop block block.bodyStart done) =
      mode.budget done * (block.bodyEnd - block.bodyStart + 1) := by
  obtain ⟨more, hmore⟩ := Nat.exists_eq_succ_of_ne_zero (Nat.ne_of_gt (Mode.budget_pos h))
  simp only [stepsAhead, hmore, Nat.succ_eq_add_one, Nat.add_sub_cancel, Nat.add_mul, Nat.one_mul]
  omega

end Phase

namespace Cue

/-- The number of events among some cues. -/
def events (cues : List Cue) : Nat :=
  cues.countP fun cue => !cue.isPause

@[simp]
theorem events_append (cues more : List Cue) : events (cues ++ more) = events cues + events more :=
  List.countP_append

theorem events_eq_length_shown (cues : List Cue) : events cues = (shown cues).length := by
  rw [events, shown, List.length_filterMap_eq_countP]
  apply List.countP_congr
  intro cue _
  cases cue <;> simp [isPause, event?]

@[simp]
theorem events_wait (milliseconds : Nat) : events (Cue.wait milliseconds) = 0 := by
  rw [events_eq_length_shown, shown_wait]
  rfl

theorem events_heard_le (mode : Mode) (cues : List Cue) :
    events (mode.heard cues) ≤ events cues := by
  cases mode with
  | animated looping => exact Nat.le_refl _
  | silent limit => exact Nat.zero_le _

end Cue

namespace Walk

variable {raised : Bool} {w v : Walk}

def stepsAhead (w : Walk) : Nat :=
  w.phase.stepsAhead w.program.length w.mode

/-- A bound on the events before the next pause or the end. -/
def eventsAhead (w : Walk) : Nat :=
  Cue.events w.pending + 3 * w.stepsAhead

theorem events_opened (w : Walk) (line : Nat) : Cue.events (w.opened line) = 1 := by
  rw [Cue.events_eq_length_shown, shown_opened]
  rfl

theorem events_closed (w : Walk) (line milliseconds : Nat) :
    Cue.events (w.closed line milliseconds) = 1 := by
  rw [Cue.events_eq_length_shown, shown_closed]
  rfl

theorem events_skipped (w : Walk) (count : Nat) : Cue.events (w.skipped count) = 0 := by
  rw [Cue.events_eq_length_shown, shown_skipped]
  rfl

theorem Runs.onLine {line : Nat} {statement : Statement} (h : w.Runs line statement) :
    w.phase.OnLine w.program.length := by
  cases h with
  | setup closing? hphase _ hread =>
      rw [hphase]
      exact lt_length_of_statement? hread
  | loop block passes hphase hinside =>
      rw [hphase]
      exact hinside

namespace Change

variable {state : State} {phase : Phase} {cues : List Cue}

/-- A step shows a line, an effect, and the end of the line; or less. -/
theorem events_le (h : Change raised w state phase cues) : Cue.events cues ≤ 3 := by
  have hmark (line : Nat) (fault : Fault) : Cue.events [w.mark line fault] = 1 := rfl
  have heffect (shown : Effect) : Cue.events [.event ⟨w.side, .effect shown⟩] = 1 := rfl
  have hpause (milliseconds : Nat) : Cue.events [.pause milliseconds] = 0 := rfl
  have hnil : Cue.events [] = 0 := rfl
  cases h <;>
    simp only [Cue.events_append, Cue.events_wait, events_opened, events_closed, events_skipped,
      hmark, heffect, hpause, hnil] <;> omega

/-- A step comes closer to the next pause or the end, or it ends a pass of an animated walk. -/
theorem stepsAhead_lt (h : Change raised w state phase cues) (hrunning : 0 < w.phase.rank) :
    phase.stepsAhead w.program.length w.mode < w.stepsAhead ∨
      (∃ looping, w.mode = .animated looping) ∧ cues = [.pause w.timing.loop] := by
  have stops : 0 < w.stepsAhead := Phase.stepsAhead_pos hrunning
  have setupDown {cursor : Nat} {closing? : Option Nat} {statement : Statement}
      (hphase : w.phase = .setup cursor closing?)
      (hread : w.program.statement? cursor = some statement) :
      (w.phase.movedTo (cursor + 1)).stepsAhead w.program.length w.mode < w.stepsAhead := by
    refine Phase.stepsAhead_movedTo_lt ?_ ?_
    · rw [hphase]
      exact lt_length_of_statement? hread
    · rw [hphase]
      exact Nat.lt_succ_self cursor
  have runDown {line next : Nat} {statement : Statement} (hruns : w.Runs line statement)
      (hdown : line < next) :
      (w.phase.movedTo next).stepsAhead w.program.length w.mode < w.stepsAhead :=
    Phase.stepsAhead_movedTo_lt hruns.onLine (hruns.cursor_eq ▸ hdown)
  cases h with
  | started hphase =>
      rw [stepsAhead, hphase]
      simp only [Phase.stepsAhead]
      omega
  | blankInSetup cursor closing? hphase hread => exact .inl (setupDown hphase hread)
  | passedOver cursor closing? statement hphase hread => exact .inl (setupDown hphase hread)
  | entersSetup cursor closing? block hphase hread hblock =>
      have hcursor := lt_length_of_statement? hread
      have hdown : (Phase.movedTo (.setup cursor (some block.closing)) (cursor + 1)).stepsAhead
          w.program.length w.mode < w.stepsAhead := by
        rw [stepsAhead, hphase]
        exact Phase.stepsAhead_movedTo_lt hcursor (Nat.lt_succ_self cursor)
      exact .inl hdown
  | entersLoop cursor closing? block hphase hread hblock =>
      refine .inl ?_
      split
      · next hrepeats =>
        have hbody := Program.bodyEnd_le_of_block? hblock
        have hpasses : w.mode.budget 0 * (block.bodyEnd - block.bodyStart + 1) ≤
            w.mode.budget 0 * (w.program.length + 1) := Nat.mul_le_mul_left _ (by omega)
        rw [Phase.stepsAhead_loop_start 0 (Mode.continues_zero hrepeats), stepsAhead, hphase]
        simp only [Phase.stepsAhead]
        omega
      · exact stops
  | endsPass block cursor passes hphase hend hcontinues =>
      cases hmode : w.mode with
      | animated looping => exact .inr ⟨⟨looping, rfl⟩, rfl⟩
      | silent limit =>
          rw [hmode] at hcontinues
          have hlimit : w.mode.budget passes = w.mode.budget (passes + 1) + 1 := by
            have hlt : passes + 1 < limit := of_decide_eq_true hcontinues
            simp only [hmode, Mode.budget]
            omega
          refine .inl ?_
          rw [← hmode, Phase.stepsAhead_loop_start _ (hmode ▸ hcontinues), stepsAhead, hphase]
          simp only [Phase.stepsAhead, hlimit, Nat.add_sub_cancel]
          omega
  | blankInLoop block cursor passes hphase hinside hread =>
      rw [stepsAhead, hphase]
      simp only [Phase.stepsAhead]
      omega
  | quiet line statement state hruns => exact .inl (runDown hruns (Nat.lt_succ_self line))
  | effect line statement shown state hruns => exact .inl (runDown hruns (Nat.lt_succ_self line))
  | taken line statement block state hruns => exact .inl (runDown hruns (Nat.lt_succ_self line))
  | skipped line statement block state hruns hexec =>
      obtain ⟨_, _, hblock, _⟩ := execute_eq_branch hexec
      have hbelow := Program.le_of_block? hblock
      exact .inl (runDown hruns (by omega))
  | _ => exact .inl stops

end Change

/-- One step with nothing pending: it queues the pause at the end of a pass, or it uses up a step and
queues at most three events. -/
theorem step_pauses_or_nears (raised : Bool) (hpending : w.pending = [])
    (hrunning : 0 < w.phase.rank) :
    (w.step raised).pending = [.pause w.timing.loop] ∨
      (w.step raised).stepsAhead < w.stepsAhead ∧ Cue.events (w.step raised).pending ≤ 3 := by
  obtain ⟨state, phase, cues, hchange, hstep⟩ := step_changes raised w hrunning
  have hqueue : (w.step raised).pending = w.mode.heard cues := by
    rw [hstep, changed, pending_queue, hpending]
    rfl
  rw [hqueue]
  rcases hchange.stepsAhead_lt hrunning with hnearer | ⟨⟨looping, hmode⟩, hpause⟩
  · refine .inr ⟨?_, Nat.le_trans (Cue.events_heard_le _ _) hchange.events_le⟩
    rw [hstep]
    exact hnearer
  · rw [hmode, hpause]
    exact .inl rfl

/-- The walk after some rounds of a call, each of them a step. `signal n` is the signal at round
number `n`. -/
def rounds (signal : Nat → Bool) (w : Walk) : Nat → Walk
  | 0 => w
  | count + 1 => (w.step (signal 0)).rounds (fun n => signal (n + 1)) count

/-- A call returns here without another step. -/
def Returns (w : Walk) : Prop :=
  w.pending ≠ [] ∨ ∃ outcome, w.phase = .stopped outcome

theorem running_of_not_returns (h : ¬ w.Returns) : w.pending = [] ∧ 0 < w.phase.rank := by
  refine ⟨by_contra fun hpending => h (.inl hpending), ?_⟩
  rcases w.running_or_stopped with hrunning | hstopped
  · exact hrunning
  · exact absurd (.inr hstopped) h

theorem next_of_returns (raised : Bool) (h : w.Returns) :
    w.next raised = (w.pending.head?, { w with pending := w.pending.tail }) := by
  cases hpending : w.pending with
  | cons cue rest => exact next_of_pending hpending
  | nil =>
      rcases h with hcues | ⟨outcome, hstopped⟩
      · exact absurd hpending hcues
      · rw [next_of_stopped hpending hstopped, List.head?_nil, List.tail_nil, ← hpending]

/-- A call returns, after no more steps than were ahead, whatever the signal is at each of them. -/
theorem exists_returns (signal : Nat → Bool) (w : Walk) :
    ∃ count ≤ w.stepsAhead, (∀ i < count, ¬ (w.rounds signal i).Returns) ∧
      (w.rounds signal count).Returns := by
  induction hahead : w.stepsAhead using Nat.strongRecOn generalizing w signal with
  | ind ahead ih =>
      subst hahead
      by_cases hreturns : w.Returns
      · exact ⟨0, Nat.zero_le _, nofun, hreturns⟩
      · obtain ⟨hpending, hrunning⟩ := running_of_not_returns hreturns
        rcases step_pauses_or_nears (signal 0) hpending hrunning with hpause | ⟨hnearer, _⟩
        · refine ⟨1, Phase.stepsAhead_pos hrunning, ?_, .inl (by simp [rounds, hpause])⟩
          intro i hi
          obtain rfl := Nat.lt_one_iff.mp hi
          exact hreturns
        · obtain ⟨count, hcount, hbefore, hend⟩ :=
            ih _ hnearer (fun n => signal (n + 1)) (w.step (signal 0)) rfl
          refine ⟨count + 1, Nat.lt_of_le_of_lt hcount hnearer, ?_, hend⟩
          intro i hi
          cases i with
          | zero => exact hreturns
          | succ i => exact hbefore i (Nat.lt_of_succ_lt_succ hi)

/-- With the same signal at every round, the answer of the call is found where it returns. -/
theorem next_eq_of_rounds {signal : Nat → Bool} {count : Nat}
    (hbefore : ∀ i < count, ¬ (w.rounds signal i).Returns)
    (hsignal : ∀ i < count, signal i = raised) :
    w.next raised = (w.rounds signal count).next raised := by
  induction count generalizing w signal with
  | zero => rfl
  | succ count ih =>
      obtain ⟨hpending, hrunning⟩ := running_of_not_returns (hbefore 0 (Nat.succ_pos count))
      have hfirst : signal 0 = raised := hsignal 0 (Nat.succ_pos count)
      rw [next_of_running (w := w) hpending hrunning, rounds, hfirst]
      refine ih ?_ fun i hi => hsignal (i + 1) (Nat.succ_lt_succ hi)
      intro i hi
      have hround := hbefore (i + 1) (Nat.succ_lt_succ hi)
      rwa [rounds, hfirst] at hround

theorem rounds_const (raised : Bool) (w : Walk) (count : Nat) :
    w.rounds (fun _ => raised) count = (step raised)^[count] w := by
  induction count generalizing w with
  | zero => rfl
  | succ count ih => exact ih (w.step raised)

/-- Every event that is delivered was accounted for. -/
theorem eventsAhead_next_lt {event : Event} (h : w.next raised = (some (.event event), v)) :
    v.eventsAhead < w.eventsAhead := by
  induction w using next.induct raised with
  | case1 w cue rest hpending =>
      rw [next_of_pending hpending] at h
      cases h
      have hevents : Cue.events (.event event :: rest) = Cue.events rest + 1 :=
        List.countP_cons_of_pos rfl
      change Cue.events rest + 3 * w.stepsAhead < Cue.events w.pending + 3 * w.stepsAhead
      rw [hpending]
      omega
  | case2 w hpending hrunning ih =>
      rw [next_of_running hpending hrunning] at h
      rcases step_pauses_or_nears raised hpending hrunning with hpause | ⟨hnearer, hevents⟩
      · rw [next_of_pending hpause] at h
        cases h
      · have hlt := ih h
        have hstep : (w.step raised).eventsAhead ≤ w.eventsAhead := by
          rw [eventsAhead, eventsAhead, hpending]
          omega
        exact Nat.lt_of_lt_of_le hlt hstep
  | case3 w hpending hrunning =>
      rcases w.running_or_stopped with hrunning' | ⟨outcome, hstopped⟩
      · exact absurd hrunning' hrunning
      · rw [next_of_stopped hpending hstopped] at h
        cases h

/-- Only so many events come before a pause or the end, whatever the signal is at each call. -/
theorem exists_pause (signal : Nat → Bool) (w : Walk) :
    ∃ count ≤ w.eventsAhead, (∀ i < count, ∃ event, w.answer signal i = some (.event event)) ∧
      (w.answer signal count = none ∨
        ∃ milliseconds, w.answer signal count = some (.pause milliseconds)) := by
  induction hahead : w.eventsAhead using Nat.strongRecOn generalizing w signal with
  | ind ahead ih =>
      subst hahead
      cases hnext : w.next (signal 0) with
      | mk answer? v =>
          have hanswer : w.answer signal 0 = answer? := congrArg Prod.fst hnext
          match answer? with
          | none => exact ⟨0, Nat.zero_le _, nofun, .inl hanswer⟩
          | some (.pause milliseconds) =>
              exact ⟨0, Nat.zero_le _, nofun, .inr ⟨milliseconds, hanswer⟩⟩
          | some (.event event) =>
              have hfewer := eventsAhead_next_lt hnext
              obtain ⟨count, hcount, hevents, hend⟩ :=
                ih _ hfewer (fun n => signal (n + 1)) v rfl
              have hlater (i : Nat) :
                  w.answer signal (i + 1) = v.answer (fun n => signal (n + 1)) i := by
                rw [answer_succ, hnext]
              refine ⟨count + 1, Nat.lt_of_le_of_lt hcount hfewer, ?_, by rwa [hlater]⟩
              intro i hi
              cases i with
              | zero => exact ⟨event, hanswer⟩
              | succ i =>
                  rw [hlater]
                  exact hevents i (Nat.lt_of_succ_lt_succ hi)

/-- Nowhere in a walk is more ahead than at its start. -/
theorem Visits.stepsAhead_le {program : Program} {mode : Mode} {side : Side} {timing : Timing}
    (hv : (fresh program mode side timing).Visits v) :
    v.stepsAhead ≤ program.length + 2 + mode.budget 0 * (program.length + 1) := by
  have hfits : v.Fits := hv.fits trivial
  have hprogram : v.program = program := hv.program_eq
  have hmode : v.mode = mode := hv.mode_eq
  rw [stepsAhead, hprogram, hmode]
  rw [Walk.Fits, hprogram, hmode] at hfits
  cases hphase : v.phase with
  | idle => exact Nat.le_refl _
  | setup cursor closing? =>
      simp only [Phase.stepsAhead]
      omega
  | loop block cursor done =>
      rw [hphase] at hfits
      obtain ⟨_, hblock, _, hahead⟩ := hfits
      have hbody := hblock.bodyEnd_le
      have hbudget := Nat.le_trans (Nat.sub_le _ 1) (mode.budget_le done)
      have hpasses : (mode.budget done - 1) * (block.bodyEnd - block.bodyStart + 1) ≤
          mode.budget 0 * (program.length + 1) := Nat.mul_le_mul hbudget (by omega)
      simp only [Phase.stepsAhead]
      omega
  | stopped outcome => exact Nat.zero_le _

end Walk

end Breadboard
