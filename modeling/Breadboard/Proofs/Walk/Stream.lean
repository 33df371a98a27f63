import Breadboard.Proofs.Mirror
import Breadboard.Proofs.Walk.Visits

/-!
The grammar of the event stream. What a spectator sees of an animated walk is one line after the
other, each from its highlight to its release and with one effect at most between them. A failure
comes last: it leaves the faulty line highlighted and marks it, except that an empty program has no
line to highlight. The signal to stop can cut the stream, but only between two lines, because a step
queues all that it has to show of a line and what is queued is always delivered.

`Delivers` keeps the cues of a walk together with the walk that is left, round by round, so the
signal may change at any moment. At every such moment the cues delivered and those still pending
make up a whole number of lines.
-/

namespace Breadboard

def Outcome.failure? : Outcome → Option Failure
  | .failed failure => some failure
  | _ => none

/-- The failure that stopped a walk in this phase. -/
def Phase.failure? : Phase → Option Failure
  | .stopped outcome => outcome.failure?
  | _ => none

theorem Phase.failure?_of_running {phase : Phase} (h : 0 < phase.rank) : phase.failure? = none := by
  cases phase with
  | stopped outcome => exact absurd h (Nat.lt_irrefl 0)
  | _ => rfl

def Happening.isFailure : Happening → Bool
  | .failed _ _ => true
  | _ => false

/-- A line that is shown, with the effect that it had, if any. -/
structure Showing where
  line : Nat
  effect? : Option Effect

def Showing.happenings (shown : Showing) : List Happening :=
  .highlightStart shown.line ::
    ((shown.effect?.map Happening.effect).toList ++ [.highlightEnd shown.line])

/-- How a failure is shown. -/
def Failure.happenings (failure : Failure) : List Happening :=
  match failure.fault with
  | .emptyProgram => [.failed 0 failure.message]
  | _ => [.highlightStart failure.line, .failed failure.line failure.message]

/-- Lines that are shown one after the other, and then a failure, if there is one. -/
def Showing.stream (lines : List Showing) (failure? : Option Failure) : List Happening :=
  lines.flatMap happenings ++ failure?.elim [] Failure.happenings

theorem Showing.stream_append (lines more : List Showing) (failure? : Option Failure) :
    stream (lines ++ more) failure? = lines.flatMap happenings ++ stream more failure? := by
  simp only [stream, List.flatMap_append, List.append_assoc]

theorem Showing.countP_isFailure_flatMap (lines : List Showing) :
    (lines.flatMap happenings).countP Happening.isFailure = 0 := by
  rw [List.countP_eq_zero]
  intro happening hmem
  obtain ⟨⟨line, effect?⟩, _, hshown⟩ := List.mem_flatMap.mp hmem
  cases effect? with
  | none =>
      simp only [happenings, Option.map_none, Option.toList_none, List.nil_append, List.mem_cons,
        List.not_mem_nil, or_false] at hshown
      rcases hshown with rfl | rfl <;> exact nofun
  | some effect =>
      simp only [happenings, Option.map_some, Option.toList_some, List.singleton_append,
        List.mem_cons, List.not_mem_nil, or_false] at hshown
      rcases hshown with rfl | rfl | rfl <;> exact nofun

theorem Failure.countP_isFailure (failure : Failure) :
    failure.happenings.countP Happening.isFailure = 1 := by
  unfold Failure.happenings
  split <;> rfl

/-- A stream has one failure or none. -/
theorem Showing.countP_isFailure_stream (lines : List Showing) (failure? : Option Failure) :
    (stream lines failure?).countP Happening.isFailure = failure?.toList.length := by
  rw [stream, List.countP_append, countP_isFailure_flatMap, Nat.zero_add]
  cases failure? with
  | none => rfl
  | some failure => exact failure.countP_isFailure

namespace Cue

theorem pause_zero_notMem_wait (milliseconds : Nat) : .pause 0 ∉ Cue.wait milliseconds := by
  unfold Cue.wait
  split
  · exact List.not_mem_nil
  · next hpositive =>
    intro hmem
    have heq := List.mem_singleton.mp hmem
    cases heq
    exact hpositive rfl

end Cue

namespace Walk

/-- Calls for cues on `w` have delivered these cues and left this walk. As in `Visits`, the signal
may change from one round to the next. -/
inductive Delivers (w : Walk) : List Cue → Walk → Prop where
  | start : Delivers w [] w
  | delivery {cues : List Cue} {v : Walk} (cue : Cue) (rest : List Cue) (hv : Delivers w cues v)
      (hpending : v.pending = cue :: rest) :
      Delivers w (cues ++ [cue]) { v with pending := rest }
  | step {cues : List Cue} {v : Walk} (raised : Bool) (hv : Delivers w cues v)
      (hpending : v.pending = []) : Delivers w cues (v.step raised)

variable {raised : Bool} {w v : Walk} {cues : List Cue}

section Lines

variable (w : Walk) (line milliseconds : Nat)

theorem pause_zero_notMem_opened : .pause 0 ∉ w.opened line := by
  intro hmem
  rcases List.mem_cons.mp hmem with heq | hwait
  · cases heq
  · exact Cue.pause_zero_notMem_wait _ hwait

theorem pause_zero_notMem_closed : .pause 0 ∉ w.closed line milliseconds := by
  intro hmem
  rcases List.mem_append.mp hmem with hwait | hlast
  · exact Cue.pause_zero_notMem_wait _ hwait
  · cases List.mem_singleton.mp hlast

theorem pause_zero_notMem_skipped (count : Nat) : .pause 0 ∉ w.skipped count := by
  intro hmem
  exact Cue.pause_zero_notMem_wait _ (mem_wait_of_mem_skipped hmem)

end Lines

/-- What a step has to show: whole lines of the program, then its failure. -/
def Tells (w : Walk) (phase : Phase) (cues : List Cue) : Prop :=
  ∃ lines, (∀ shown ∈ lines, shown.line < w.program.length) ∧
    Cue.shown cues = (Showing.stream lines phase.failure?).map (Event.mk w.side)

theorem tells_nothing {phase : Phase} (hphase : phase.failure? = none)
    (hcues : Cue.shown cues = []) : w.Tells phase cues := by
  refine ⟨[], nofun, ?_⟩
  rw [hcues, hphase]
  rfl

theorem tells_line (w : Walk) {phase : Phase} {line : Nat} (milliseconds : Nat)
    (hphase : phase.failure? = none) (hline : line < w.program.length) :
    w.Tells phase (w.opened line ++ w.closed line milliseconds) := by
  refine ⟨[⟨line, none⟩], ?_, ?_⟩
  · intro shown hshown
    rw [List.mem_singleton.mp hshown]
    exact hline
  · rw [Cue.shown_append, shown_opened, shown_closed, hphase]
    rfl

theorem tells_effect {phase : Phase} {line : Nat} {milliseconds : Nat} {effect : Effect}
    (hphase : phase.failure? = none) (hline : line < w.program.length) :
    w.Tells phase
      (w.opened line ++ [.event ⟨w.side, .effect effect⟩] ++ w.closed line milliseconds) := by
  refine ⟨[⟨line, some effect⟩], ?_, ?_⟩
  · intro shown hshown
    rw [List.mem_singleton.mp hshown]
    exact hline
  · rw [Cue.shown_append, Cue.shown_append, shown_opened, shown_closed, hphase]
    rfl

/-- An empty program apart, a failure leaves its line highlighted. -/
theorem tells_failure {line : Nat} {fault : Fault} (hfault : fault ≠ .emptyProgram) :
    w.Tells (.stopped (.failed ⟨line, fault⟩)) (w.opened line ++ [w.mark line fault]) := by
  refine ⟨[], nofun, ?_⟩
  have hshown : Failure.happenings ⟨line, fault⟩ =
      [.highlightStart line, .failed line (Failure.mk line fault).message] := by
    unfold Failure.happenings
    split
    · next hempty => exact absurd hempty hfault
    · rfl
  rw [Cue.shown_append, shown_opened]
  simp only [Showing.stream, Phase.failure?, Outcome.failure?, Option.elim_some, hshown]
  rfl

theorem Runs.line_lt {line : Nat} {statement : Statement} (h : w.Runs line statement) :
    line < w.program.length := by
  cases h with
  | setup closing? _ _ hread => exact lt_length_of_statement? hread
  | loop block passes _ _ hread => exact lt_length_of_statement? hread

theorem Change.tells {state : State} {phase : Phase} (hrunning : 0 < w.phase.rank)
    (h : Change raised w state phase cues) : w.Tells phase cues := by
  have hmoved (next : Nat) : (w.phase.movedTo next).failure? = none := by
    apply Phase.failure?_of_running
    rw [Phase.rank_movedTo]
    exact hrunning
  cases h with
  | empty hphase hblank => exact ⟨[], nofun, rfl⟩
  | started hphase hblank => exact tells_nothing rfl rfl
  | cancelled hphase hraised => exact tells_nothing rfl rfl
  | ended cursor closing? hphase hread => exact tells_nothing rfl rfl
  | blankInSetup cursor closing? hphase hread => exact tells_nothing (hmoved _) rfl
  | unclosed cursor closing? hphase hread hblock => exact tells_failure nofun
  | entersSetup cursor closing? block hphase hread hblock =>
      refine tells_line _ _ ?_ (lt_length_of_statement? hread)
      apply Phase.failure?_of_running
      rw [Phase.rank_movedTo]
      exact Nat.zero_lt_two
  | entersLoop cursor closing? block hphase hread hblock =>
      refine tells_line _ _ ?_ (lt_length_of_statement? hread)
      split <;> rfl
  | passedOver cursor closing? statement hphase hread hblank hregion =>
      exact tells_line _ _ (hmoved _) (lt_length_of_statement? hread)
  | endsPass block cursor passes hphase hend hcontinues => exact tells_nothing rfl rfl
  | endsLastPass block cursor passes hphase hend hlast => exact tells_nothing rfl rfl
  | ranOut block cursor passes hphase hinside hread => exact tells_nothing rfl rfl
  | blankInLoop block cursor passes hphase hinside hread =>
      exact tells_nothing rfl (Cue.shown_wait _)
  | failed line statement fault hruns hexec =>
      exact tells_failure (execute_ne_emptyProgram hexec)
  | quiet line statement state hruns hexec => exact tells_line _ _ (hmoved _) hruns.line_lt
  | effect line statement shown state hruns hexec => exact tells_effect (hmoved _) hruns.line_lt
  | taken line statement block state hruns hexec => exact tells_line _ _ (hmoved _) hruns.line_lt
  | skipped line statement block state hruns hexec =>
      obtain ⟨lines, hlines, hshown⟩ := w.tells_line w.timing.short
        (hmoved (block.closing + 1)) hruns.line_lt
      refine ⟨lines, hlines, ?_⟩
      rw [Cue.shown_append, shown_skipped, List.append_nil]
      exact hshown

/-- The walk has just ended a pass and stands before the next one. -/
def BetweenPasses (phase : Phase) : Prop :=
  ∃ block passes, phase = .loop block block.bodyStart passes ∧ 0 < passes

/-- The end of a pass is the only step that queues a pause of no length. -/
theorem Change.pause_zero {state : State} {phase : Phase} (h : Change raised w state phase cues)
    (hpause : .pause 0 ∈ cues) : cues = [.pause 0] ∧ BetweenPasses phase := by
  have notLine (line milliseconds : Nat) :
      .pause 0 ∉ w.opened line ++ w.closed line milliseconds := by
    intro hmem
    rcases List.mem_append.mp hmem with hopened | hclosed
    · exact w.pause_zero_notMem_opened line hopened
    · exact w.pause_zero_notMem_closed line milliseconds hclosed
  have notFailure (line : Nat) (fault : Fault) :
      .pause 0 ∉ w.opened line ++ [w.mark line fault] := by
    intro hmem
    rcases List.mem_append.mp hmem with hopened | hmark
    · exact w.pause_zero_notMem_opened line hopened
    · cases List.mem_singleton.mp hmark
  cases h with
  | empty hphase hblank => cases List.mem_singleton.mp hpause
  | unclosed cursor closing? hphase hread hblock => exact absurd hpause (notFailure _ _)
  | entersSetup cursor closing? block hphase hread hblock => exact absurd hpause (notLine _ _)
  | entersLoop cursor closing? block hphase hread hblock => exact absurd hpause (notLine _ _)
  | passedOver cursor closing? statement hphase => exact absurd hpause (notLine _ _)
  | endsPass block cursor passes hphase hend hcontinues =>
      rw [List.mem_singleton.mp hpause]
      exact ⟨rfl, block, passes + 1, rfl, Nat.succ_pos passes⟩
  | blankInLoop block cursor passes hphase =>
      exact absurd hpause (Cue.pause_zero_notMem_wait _)
  | failed line statement fault hruns hexec => exact absurd hpause (notFailure _ _)
  | quiet line statement state hruns hexec => exact absurd hpause (notLine _ _)
  | effect line statement shown state hruns hexec =>
      rcases List.mem_append.mp hpause with hbefore | hclosed
      · rcases List.mem_append.mp hbefore with hopened | heffect
        · exact absurd hopened (w.pause_zero_notMem_opened line)
        · cases List.mem_singleton.mp heffect
      · exact absurd hclosed (w.pause_zero_notMem_closed line _)
  | taken line statement block state hruns hexec => exact absurd hpause (notLine _ _)
  | skipped line statement block state hruns hexec =>
      rcases List.mem_append.mp hpause with hline | hskipped
      · exact absurd hline (notLine _ _)
      · exact absurd hskipped (w.pause_zero_notMem_skipped _)
  | _ => cases hpause

/-- What the cues of an animated walk have in common with it, delivered and pending ones taken
together. -/
structure Told (program : Program) (looping : Bool) (side : Side) (cues : List Cue) (v : Walk) :
    Prop where
  program_eq : v.program = program
  mode_eq : v.mode = .animated looping
  side_eq : v.side = side
  stream : ∃ lines, (∀ shown ∈ lines, shown.line < program.length) ∧
    Cue.shown (cues ++ v.pending) =
      (Showing.stream lines v.phase.failure?).map (Event.mk side)
  pauses : .pause 0 ∈ v.pending → v.pending = [.pause 0] ∧ BetweenPasses v.phase

namespace Told

variable {program : Program} {looping : Bool} {side : Side}

/-- A delivery moves a cue to the other side and leaves the sequence as it is. -/
theorem delivery {cue : Cue} {rest : List Cue} (h : Told program looping side cues v)
    (hpending : v.pending = cue :: rest) :
    Told program looping side (cues ++ [cue]) { v with pending := rest } := by
  refine ⟨h.program_eq, h.mode_eq, h.side_eq, ?_, ?_⟩
  · obtain ⟨lines, hlines, hshown⟩ := h.stream
    refine ⟨lines, hlines, ?_⟩
    rw [List.append_assoc, List.singleton_append, ← hpending]
    exact hshown
  · intro hpause
    have hmem : .pause 0 ∈ v.pending := by
      rw [hpending]
      exact List.mem_cons_of_mem cue hpause
    have honly := (h.pauses hmem).1
    rw [hpending] at honly
    cases honly
    cases hpause

theorem step (h : Told program looping side cues v) (hpending : v.pending = [])
    (raised : Bool) : Told program looping side cues (v.step raised) := by
  rcases v.running_or_stopped with hrunning | ⟨outcome, hstopped⟩
  · obtain ⟨state, phase, more, hchange, hstep⟩ := step_changes raised v hrunning
    have hmore : (v.changed state phase more).pending = more := by
      rw [changed, pending_queue]
      simp only [hpending, h.mode_eq, Mode.heard, List.nil_append]
    obtain ⟨lines, hlines, hshown⟩ := h.stream
    obtain ⟨new, hnew, hnewShown⟩ := hchange.tells hrunning
    rw [hpending, List.append_nil, Phase.failure?_of_running hrunning] at hshown
    refine ⟨(program_step raised v).trans h.program_eq, (mode_step raised v).trans h.mode_eq,
      (side_step raised v).trans h.side_eq, ?_, ?_⟩
    · rw [hstep, hmore]
      refine ⟨lines ++ new, ?_, ?_⟩
      · intro shown hmem
        rcases List.mem_append.mp hmem with hold | hadded
        · exact hlines shown hold
        · rw [← h.program_eq]
          exact hnew shown hadded
      · have hlinesOnly : Showing.stream lines none = lines.flatMap Showing.happenings :=
          List.append_nil _
        rw [Cue.shown_append, hshown, hnewShown, h.side_eq, ← List.map_append, hlinesOnly,
          ← Showing.stream_append]
        rfl
    · rw [hstep, hmore]
      exact hchange.pause_zero
  · rwa [step_of_stopped hstopped]

end Told

theorem Delivers.told {program : Program} {looping : Bool} {side : Side} {timing : Timing}
    (h : (animated program looping side timing).Delivers cues v) :
    Told program looping side cues v := by
  induction h with
  | start => exact ⟨rfl, rfl, rfl, ⟨[], nofun, rfl⟩, nofun⟩
  | delivery cue rest _ hpending ih => exact ih.delivery hpending
  | step raised _ hpending ih => exact ih.step hpending raised

/-- A call goes through rounds, so it leads from one of these moments to another. -/
theorem Delivers.next (h : w.Delivers cues v) (raised : Bool) :
    w.Delivers (cues ++ (v.next raised).1.toList) (v.next raised).2 :=
  next_invariant (P := fun cues v => w.Delivers cues v)
    (fun _ _ cue rest hpending hv => .delivery cue rest hv hpending)
    (fun _ _ hpending _ hv => .step raised hv hpending) h

theorem delivers_play (w : Walk) (signal : Nat → Bool) (count : Nat) :
    w.Delivers (w.play signal count).1 (w.play signal count).2 := by
  induction count with
  | zero => exact .start
  | succ count ih => exact ih.next (signal count)

/-- The events of a walk name its side. -/
theorem Delivers.side_eq {program : Program} {looping : Bool} {side : Side} {timing : Timing}
    (h : (animated program looping side timing).Delivers cues v) {event : Event}
    (hevent : event ∈ Cue.shown cues) : event.side = side := by
  obtain ⟨lines, _, hshown⟩ := h.told.stream
  rw [Cue.shown_append] at hshown
  have hmem : event ∈ (Showing.stream lines v.phase.failure?).map (Event.mk side) := by
    rw [← hshown]
    exact List.mem_append_left _ hevent
  obtain ⟨happening, _, rfl⟩ := List.mem_map.mp hmem
  rfl

/-- The grammar of the event stream. At any moment of an animated walk the events seen so far begin
a stream: lines of the program, each from its highlight to its release and with at most one effect,
and then perhaps a failure. At the end they are all of it, and a failure is there exactly when it is
the outcome. A pause of no length stands only between two passes of the loop. -/
theorem event_stream_grammar (source : Text) (looping : Bool) (side : Side) (timing : Timing)
    {cues : List Cue} {v : Walk}
    (hv : (animated (.ofSource source) looping side timing).Delivers cues v) :
    let program := Program.ofSource source
    let events := cues.filterMap Cue.event?
    (∃ lines failure?, (∀ shown ∈ lines, shown.line < program.length) ∧
      events <+: (Showing.stream lines failure?).map (Event.mk side)) ∧
    (∀ raised u, v.next raised = (none, u) →
      (∃ lines, (∀ shown ∈ lines, shown.line < program.length) ∧
        events = (Showing.stream lines u.report.outcome.failure?).map (Event.mk side)) ∧
      events.countP (·.happening.isFailure) = u.report.outcome.failure?.toList.length) ∧
    ∀ rest, v.pending = .pause 0 :: rest →
      rest = [] ∧ ∃ block passes, v.phase = .loop block block.bodyStart passes ∧ 0 < passes := by
  intro program events
  refine ⟨?_, ?_, ?_⟩
  · obtain ⟨lines, hlines, hshown⟩ := hv.told.stream
    rw [Cue.shown_append] at hshown
    exact ⟨lines, v.phase.failure?, hlines, Cue.shown v.pending, hshown⟩
  · intro raised u hnext
    have hdelivered := hv.next raised
    rw [hnext, Option.toList_none, List.append_nil] at hdelivered
    obtain ⟨hpending, outcome, hstopped⟩ := finished_of_next hnext
    obtain ⟨lines, hlines, hshown⟩ := hdelivered.told.stream
    have hfailure : u.phase.failure? = u.report.outcome.failure? := by
      simp only [report, hstopped, Phase.failure?]
    rw [hpending, List.append_nil, hfailure] at hshown
    have hevents : events =
        (Showing.stream lines u.report.outcome.failure?).map (Event.mk side) := hshown
    refine ⟨⟨lines, hlines, hevents⟩, ?_⟩
    rw [hevents, List.countP_map]
    exact Showing.countP_isFailure_stream lines _
  · intro rest hpending
    have hmem : .pause 0 ∈ v.pending := by
      rw [hpending]
      exact List.mem_cons_self
    obtain ⟨honly, hbetween⟩ := hv.told.pauses hmem
    rw [hpending] at honly
    cases honly
    exact ⟨rfl, hbetween⟩

/-- A walk that fails inside the setup and has delivered everything, and one that is about to
deliver the pause between two passes over an empty loop. -/
theorem event_stream_grammar_setup_and_loop :
    let faulty : Text := "void setup() \x7b\npin1\n\x7d".toList
    let empty : Text := "void loop() \x7b\n\x7d".toList
    let failure : Failure := ⟨1, .missingSemicolon⟩
    let shown : List Event := [⟨.demo, .highlightStart 0⟩, ⟨.demo, .highlightEnd 0⟩,
      ⟨.demo, .highlightStart 1⟩, ⟨.demo, .failed 1 failure.message⟩]
    (∃ v, (animated (.ofSource faulty) true .demo .instant).Delivers (shown.map .event) v ∧
      v.next false = (none, v) ∧ v.report.outcome = .failed failure ∧
      (∃ lines, (∀ line ∈ lines, line.line < (Program.ofSource faulty).length) ∧
        shown = (Showing.stream lines (some failure)).map (Event.mk .demo)) ∧
      shown.countP (·.happening.isFailure) = 1) ∧
    ∃ cues v, (animated (.ofSource empty) true .demo .instant).Delivers cues v ∧
      v.pending = [.pause 0] ∧
      ∃ block passes, v.phase = .loop block block.bodyStart passes ∧ 0 < passes := by
  intro faulty empty failure shown
  refine ⟨?_, ?_⟩
  · have hheader : Delivers (animated (.ofSource faulty) true .demo .instant) _ _ :=
      .delivery (.event ⟨.demo, .highlightEnd 0⟩) []
        (.delivery (.event ⟨.demo, .highlightStart 0⟩) [.event ⟨.demo, .highlightEnd 0⟩]
          (.step false (.step false .start rfl) (by decide)) (by decide)) rfl
    have hfault :=
      Delivers.delivery (.event ⟨.demo, .failed 1 failure.message⟩) []
        (.delivery (.event ⟨.demo, .highlightStart 1⟩)
          [.event ⟨.demo, .failed 1 failure.message⟩] (.step false hheader rfl) (by decide)) rfl
    have hgrammar := event_stream_grammar faulty true .demo .instant hfault
    have hstream := hgrammar.2.1 false _
      (next_of_stopped rfl (show _ = Phase.stopped (.failed failure) by decide))
    exact ⟨_, hfault, next_of_stopped rfl (show _ = Phase.stopped (.failed failure) by decide),
      by decide, hstream⟩
  · have hheader : Delivers (animated (.ofSource empty) true .demo .instant) _ _ :=
      .delivery (.event ⟨.demo, .highlightEnd 0⟩) []
        (.delivery (.event ⟨.demo, .highlightStart 0⟩) [.event ⟨.demo, .highlightEnd 0⟩]
          (.step false (.step false .start rfl) (by decide)) (by decide)) rfl
    have hpass := Delivers.step false hheader rfl
    have hgrammar := event_stream_grammar empty true .demo .instant hpass
    exact ⟨_, _, hpass, by decide, (hgrammar.2.2 [] (by decide)).2⟩

end Walk

end Breadboard
