import Breadboard.Proofs.Board
import Breadboard.Proofs.Execute
import Breadboard.Proofs.Walk.Play
import Breadboard.Proofs.Walk.Sections

/-!
The board mirrors the walk. A board sees nothing but events, and still its lights, its variables and
its error mark are those of the walk, once it has taken in what was delivered and what is pending.
Each step queues its cues in full: a line that is highlighted is released by the same step, and an
effect is queued by the step that changes the state. So the mirror holds between any two steps,
whatever the signal was, and deliveries only move cues from one side of the queue to the other.
-/

namespace Breadboard

namespace Board

variable (b : Board)

/-- The board after the events among these cues. -/
def watch (cues : List Cue) : Board :=
  b.applyAll (cues.filterMap Cue.event?)

theorem watch_append (cues more : List Cue) :
    b.watch (cues ++ more) = (b.watch cues).watch more := by
  simp only [watch, applyAll, List.filterMap_append, List.foldl_append]

@[simp]
theorem watch_nil : b.watch [] = b :=
  rfl

@[simp]
theorem watch_pause (milliseconds : Nat) : b.watch [.pause milliseconds] = b :=
  rfl

/-- Cues that show nothing change nothing. -/
theorem watch_of_shown_eq_nil {cues : List Cue} (h : Cue.shown cues = []) : b.watch cues = b := by
  change b.applyAll (Cue.shown cues) = b
  rw [h]
  rfl

@[simp]
theorem watch_wait (milliseconds : Nat) : b.watch (Cue.wait milliseconds) = b :=
  b.watch_of_shown_eq_nil (Cue.shown_wait milliseconds)

theorem watch_event {event : Event} (h : event.side = b.side) :
    b.watch [.event event] = b.note event.happening :=
  if_pos h

@[simp]
theorem watch_skipped (w : Walk) (count : Nat) : b.watch (w.skipped count) = b :=
  b.watch_of_shown_eq_nil (w.shown_skipped count)

/-- The board with another highlight. -/
def lit (line? : Option Nat) : Board :=
  { b with highlighted := line? }

theorem lit_none (h : b.highlighted = none) : b.lit none = b := by
  rw [lit, ← h]

theorem side_note_effect (effect : Effect) : (b.note (.effect effect)).side = b.side := by
  cases effect <;> rfl

theorem note_effect_lit (line? : Option Nat) (effect : Effect) :
    (b.lit line?).note (.effect effect) = (b.note (.effect effect)).lit line? := by
  cases effect <;> rfl

theorem highlighted_note_effect (effect : Effect) :
    (b.note (.effect effect)).highlighted = b.highlighted := by
  cases effect <;> rfl

theorem error_note_effect (effect : Effect) : (b.note (.effect effect)).error = b.error := by
  cases effect <;> rfl

section Line

variable {b} {w : Walk} (hside : w.side = b.side)

include hside

theorem watch_opened (line : Nat) : b.watch (w.opened line) = b.lit (some line) := by
  rw [Walk.opened, ← List.singleton_append, watch_append, b.watch_event hside, watch_wait]
  rfl

theorem watch_closed (line milliseconds : Nat) :
    (b.lit (some line)).watch (w.closed line milliseconds) = b.lit none := by
  rw [Walk.closed, watch_append, watch_wait, watch_event _ hside]
  exact if_pos rfl

theorem watch_mark (line : Nat) (fault : Fault) :
    b.watch [w.mark line fault] = b.note (.failed line (Failure.mk line fault).message) :=
  b.watch_event hside

theorem watch_failure (line : Nat) (fault : Fault) :
    b.watch (w.opened line ++ [w.mark line fault]) =
      b.note (.failed line (Failure.mk line fault).message) := by
  rw [watch_append, watch_opened hside]
  exact watch_mark (b := b.lit (some line)) hside line fault

variable (hdark : b.highlighted = none)

include hdark

/-- A line with nothing to show leaves no trace. -/
theorem watch_line (line milliseconds : Nat) :
    b.watch (w.opened line ++ w.closed line milliseconds) = b := by
  rw [watch_append, watch_opened hside, watch_closed hside, b.lit_none hdark]

theorem watch_effect (line milliseconds : Nat) (effect : Effect) :
    b.watch (w.opened line ++ [.event ⟨w.side, .effect effect⟩] ++ w.closed line milliseconds) =
      b.note (.effect effect) := by
  rw [watch_append, watch_append, watch_opened hside, watch_event _ hside, note_effect_lit,
    watch_closed (hside.trans (b.side_note_effect effect).symm), lit_none]
  exact (b.highlighted_note_effect effect).trans hdark

end Line

/-- What a transition has to show. -/
def heed : Transition → Board
  | .effect effect => b.note (.effect effect)
  | _ => b

/-- The board shows the pins and the variables of a state. -/
structure Shows (s : State) : Prop where
  lights : ∀ pin, b.lights.get pin = (s.pins.get pin).on
  names : b.bindings.names.Nodup
  bindings : ∀ name, b.bindings.get? name = (s.bindings.get? name).map Variable.display

namespace Shows

variable {b} {s : State}

theorem inRegion (h : b.Shows s) (region : Region) : b.Shows (s.inRegion region) :=
  ⟨h.lights, h.names, h.bindings⟩

theorem movedFrom (h : b.Shows s) (phase : Phase) (next : Nat) :
    b.Shows (s.movedFrom phase next) := by
  unfold State.movedFrom
  split
  · split
    · exact h.inRegion .outside
    · exact h
  · exact h

theorem failed (h : b.Shows s) (line : Nat) (message : String) :
    (b.note (.failed line message)).Shows s :=
  ⟨h.lights, h.names, h.bindings⟩

/-- A statement does to the state what its transition does to the board. -/
theorem executed {after : State} {transition : Transition} (h : b.Shows s)
    (hexec : Executed s transition after) : (b.heed transition).Shows after := by
  cases hexec with
  | same => exact h
  | branched taken block => exact h
  | declared pin =>
      refine ⟨?_, h.names, h.bindings⟩
      intro other
      change b.lights.get other = _
      rw [h.lights other, State.declare, PerPin.get_set]
      by_cases hpin : other = pin
      · rw [if_pos hpin, hpin]
      · rw [if_neg hpin]
  | switched pin on hdeclared =>
      refine ⟨?_, h.names, h.bindings⟩
      intro other
      simp only [heed, note, PerPin.get_set]
      by_cases hpin : other = pin
      · rw [if_pos hpin, if_pos hpin]
      · rw [if_neg hpin, if_neg hpin]
        exact h.lights other
  | assigned name v =>
      refine ⟨h.lights, Register.nodup_names_put h.names name v.display, ?_⟩
      intro other
      simp only [heed, note, State.assign, Register.get?_put]
      by_cases hname : other = name
      · rw [if_pos hname, if_pos hname]
        rfl
      · rw [if_neg hname, if_neg hname]
        exact h.bindings other

end Shows

end Board

/-- The error mark that belongs to a phase. -/
def Phase.mark? : Phase → Option (Nat × String)
  | .stopped (.failed failure) => some (failure.line, failure.message)
  | _ => none

theorem Phase.mark?_of_running {phase : Phase} (h : 0 < phase.rank) : phase.mark? = none := by
  cases phase with
  | stopped outcome => exact absurd h (Nat.lt_irrefl 0)
  | _ => rfl

theorem Phase.mark?_eq_some {phase : Phase} {line : Nat} {message : String} :
    phase.mark? = some (line, message) ↔
      ∃ failure, phase = .stopped (.failed failure) ∧ failure.line = line ∧
        failure.message = message := by
  cases phase with
  | stopped outcome => cases outcome <;> simp [mark?]
  | _ => simp [mark?]

theorem Phase.movedTo_ne_idle {phase : Phase} (h : phase ≠ .idle) (next : Nat) :
    phase.movedTo next ≠ .idle := by
  cases phase with
  | idle => exact absurd rfl h
  | setup cursor closing? => cases closing? <;> exact nofun
  | _ => exact nofun

/-- What a board makes of a walk when it has seen everything. A walk that has not begun has nothing
to show, which is what its first step relies on. -/
structure Board.Mirrors (b : Board) (w : Walk) : Prop where
  side : w.side = b.side
  shows : b.Shows w.state
  error : b.error = w.phase.mark?
  highlighted : b.highlighted = none
  idle : w.phase = .idle → w.state = .fresh

namespace Walk

variable {raised : Bool} {b : Board} {w : Walk}

theorem mirrors_start (program : Program) (looping : Bool) (side : Side) (timing : Timing) :
    (Board.blank side).Mirrors (animated program looping side timing) := by
  refine ⟨rfl, ⟨?_, List.nodup_nil, fun _ => rfl⟩, rfl, rfl, fun _ => rfl⟩
  intro pin
  cases pin <;> rfl

theorem Runs.not_idle {line : Nat} {statement : Statement} (h : w.Runs line statement) :
    w.phase ≠ .idle := by
  cases h with
  | setup closing? hphase => simp [hphase]
  | loop block passes hphase => simp [hphase]

end Walk

namespace Board.Mirrors

variable {b : Board} {w : Walk} {state : State} {cues : List Cue} (h : b.Mirrors w)
  (hrunning : 0 < w.phase.rank)

include h

theorem error_eq_none (hrunning : 0 < w.phase.rank) : b.error = none :=
  h.error.trans (Phase.mark?_of_running hrunning)

/-- A step that stops the walk with a failure shows its mark and nothing else. -/
theorem fails {line : Nat} {fault : Fault}
    (hwatch : b.watch cues = b.note (.failed line (Failure.mk line fault).message))
    (hshows : b.Shows state) :
    (b.watch cues).Mirrors (w.changed state (.stopped (.failed ⟨line, fault⟩)) cues) := by
  rw [hwatch]
  exact ⟨h.side, hshows.failed line _, rfl, rfl, nofun⟩

include hrunning

/-- A step without a failure whose cues leave the board as it is. -/
theorem stays {phase : Phase} (hwatch : b.watch cues = b) (hshows : b.Shows state)
    (hmark : phase.mark? = none) (hidle : phase ≠ .idle) :
    (b.watch cues).Mirrors (w.changed state phase cues) := by
  rw [hwatch]
  refine ⟨h.side, hshows, ?_, h.highlighted, fun hphase => absurd hphase hidle⟩
  exact (h.error_eq_none hrunning).trans hmark.symm

/-- The same for a step to another line. -/
theorem moves (next : Nat) (hwatch : b.watch cues = b) (hshows : b.Shows state)
    (hidle : w.phase ≠ .idle) :
    (b.watch cues).Mirrors
      (w.changed (state.movedFrom w.phase next) (w.phase.movedTo next) cues) := by
  refine h.stays hrunning hwatch (hshows.movedFrom w.phase next) ?_
    (Phase.movedTo_ne_idle hidle next)
  exact Phase.mark?_of_running (by rwa [Phase.rank_movedTo])

/-- A line with an effect changes the board as it changes the state. -/
theorem takesEffect {shown : Effect} (line milliseconds next : Nat)
    (hshows : (b.note (.effect shown)).Shows state) (hidle : w.phase ≠ .idle) :
    let cues := w.opened line ++ [.event ⟨w.side, .effect shown⟩] ++ w.closed line milliseconds
    (b.watch cues).Mirrors
      (w.changed (state.movedFrom w.phase next) (w.phase.movedTo next) cues) := by
  intro cues
  rw [watch_effect h.side h.highlighted]
  refine ⟨h.side.trans (b.side_note_effect shown).symm, hshows.movedFrom _ _, ?_,
    (b.highlighted_note_effect shown).trans h.highlighted, ?_⟩
  · have hmark : (w.phase.movedTo next).mark? = none :=
      Phase.mark?_of_running (by rwa [Phase.rank_movedTo])
    exact (b.error_note_effect shown).trans ((h.error_eq_none hrunning).trans hmark.symm)
  · exact fun hphase => absurd hphase (Phase.movedTo_ne_idle hidle _)

end Board.Mirrors

namespace Walk

variable {raised : Bool} {b : Board} {w : Walk}

/-- One step: the cues it queues do to the board what it does to the walk. -/
theorem Change.mirrors {state : State} {phase : Phase} {cues : List Cue} (h : b.Mirrors w)
    (hrunning : 0 < w.phase.rank) (hchange : Change raised w state phase cues) :
    (b.watch cues).Mirrors (w.changed state phase cues) := by
  have hline (line milliseconds : Nat) :
      b.watch (w.opened line ++ w.closed line milliseconds) = b :=
    Board.watch_line h.side h.highlighted line milliseconds
  cases hchange with
  | empty hphase hblank => exact h.fails (Board.watch_mark h.side _ _) (h.idle hphase ▸ h.shows)
  | started hphase hblank =>
      exact h.stays hrunning b.watch_nil (h.idle hphase ▸ h.shows) rfl nofun
  | cancelled hphase hraised => exact h.stays hrunning b.watch_nil h.shows rfl nofun
  | ended cursor closing? hphase hread =>
      exact h.stays hrunning b.watch_nil h.shows rfl nofun
  | blankInSetup cursor closing? hphase hread =>
      exact h.moves hrunning _ b.watch_nil h.shows (by simp [hphase])
  | unclosed cursor closing? hphase hread hblock =>
      exact h.fails (Board.watch_failure h.side _ _) h.shows
  | entersSetup cursor closing? block hphase hread hblock =>
      refine h.stays hrunning (hline _ _) ((h.shows.inRegion .setup).movedFrom _ _) ?_ ?_
      · exact Phase.mark?_of_running (by rw [Phase.rank_movedTo]; exact Nat.zero_lt_two)
      · exact Phase.movedTo_ne_idle (by simp) _
  | entersLoop cursor closing? block hphase hread hblock =>
      refine h.stays hrunning (hline _ _) (h.shows.inRegion .loop) ?_ ?_
      · split <;> rfl
      · split <;> exact nofun
  | passedOver cursor closing? statement hphase hread hblank hregion =>
      exact h.moves hrunning _ (hline _ _) h.shows (by simp [hphase])
  | endsPass block cursor passes hphase hend hcontinues =>
      exact h.stays hrunning (b.watch_pause _) h.shows rfl nofun
  | endsLastPass block cursor passes hphase hend hlast =>
      exact h.stays hrunning b.watch_nil h.shows rfl nofun
  | ranOut block cursor passes hphase hinside hread =>
      exact h.stays hrunning b.watch_nil h.shows rfl nofun
  | blankInLoop block cursor passes hphase hinside hread =>
      exact h.stays hrunning (b.watch_wait _) h.shows rfl nofun
  | failed line statement fault hruns hexec =>
      exact h.fails (Board.watch_failure h.side _ _) h.shows
  | quiet line statement state hruns hexec =>
      have hshows := h.shows.executed (executed_of_execute hexec)
      exact h.moves hrunning _ (hline _ _) hshows hruns.not_idle
  | taken line statement block state hruns hexec =>
      have hshows := h.shows.executed (executed_of_execute hexec)
      exact h.moves hrunning _ (hline _ _) hshows hruns.not_idle
  | skipped line statement block state hruns hexec =>
      have hshows := h.shows.executed (executed_of_execute hexec)
      refine h.moves hrunning _ ?_ hshows hruns.not_idle
      rw [Board.watch_append, hline, Board.watch_skipped]
  | effect line statement shown state hruns hexec =>
      have hshows := h.shows.executed (executed_of_execute hexec)
      exact h.takesEffect hrunning line w.timing.medium (line + 1) hshows hruns.not_idle

theorem mirrors_play (program : Program) (looping : Bool) (side : Side) (timing : Timing)
    (signal : Nat → Bool) (count : Nat) :
    let (cues, v) := (animated program looping side timing).play signal count
    ((Board.blank side).watch (cues ++ v.pending)).Mirrors v := by
  have hplay := play_invariant (w := animated program looping side timing)
    (P := fun cues v => v.mode = .animated looping ∧
      ((Board.blank side).watch (cues ++ v.pending)).Mirrors v)
    ⟨rfl, mirrors_start program looping side timing⟩ ?_ ?_ signal count
  · exact hplay.2
  · -- a delivery moves a cue across the boundary and leaves the sequence as it is
    rintro cues v cue rest hpending ⟨hmode, h⟩
    rw [hpending] at h
    rw [List.append_assoc]
    exact ⟨hmode, h.side, h.shows, h.error, h.highlighted, h.idle⟩
  · rintro raised cues v hpending hrunning ⟨hmode, h⟩
    obtain ⟨state, phase, more, hchange, hstep⟩ := step_changes raised v hrunning
    rw [hpending, List.append_nil] at h
    have hmore : (v.changed state phase more).pending = more := by
      rw [changed, pending_queue]
      simp only [hpending, hmode, Mode.heard, List.nil_append]
    refine ⟨(mode_step raised v).trans hmode, ?_⟩
    rw [hstep, hmore, Board.watch_append]
    exact hchange.mirrors h hrunning

/-- The board mirrors the walk. After any number of calls for cues, whatever the signal to
stop was at each, the events delivered so far and then those still pending give a board that agrees
with the walk: its lights are the pins that are on, its variables are the variables of the state as
they are displayed, each name once, its error mark is the failure that stopped the walk, and no line
is highlighted. -/
theorem board_mirrors_walk (source : Text) (looping : Bool) (side : Side) (timing : Timing)
    (signal : Nat → Bool) (count : Nat) :
    let (cues, v) := (animated (.ofSource source) looping side timing).play signal count
    let board := (Board.blank side).applyAll ((cues ++ v.pending).filterMap Cue.event?)
    (∀ pin, board.lights.get pin = (v.state.pins.get pin).on) ∧
      (board.bindings.names.Nodup ∧
        ∀ name, board.bindings.get? name = (v.state.bindings.get? name).map Variable.display) ∧
      (∀ line message, board.error = some (line, message) ↔
        ∃ failure, v.phase = .stopped (.failed failure) ∧ failure.line = line ∧
          failure.message = message) ∧
      board.highlighted = none := by
  have h := mirrors_play (.ofSource source) looping side timing signal count
  refine ⟨h.shows.lights, ⟨h.shows.names, h.shows.bindings⟩, ?_, h.highlighted⟩
  intro line message
  rw [← Phase.mark?_eq_some]
  exact iff_of_eq (congrArg (· = _) h.error)

end Walk

end Breadboard
