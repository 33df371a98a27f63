import Breadboard.Walk.Cues

/-!
What the parts of a step queue. Every cue goes through `push`, which appends it to what is pending
or, in a silent walk, drops it. So showing, pausing and failing are all the same walk with a list of
cues behind its queue, and nothing else about the walk depends on them. The lists are written out
here once, with the events among them; proofs about steps use them and no longer look at `push`.
-/

namespace Breadboard

/-- A pause of no length is no cue. -/
def Cue.wait (milliseconds : Nat) : List Cue :=
  if milliseconds = 0 then [] else [.pause milliseconds]

def Cue.event? : Cue → Option Event
  | .event shown => some shown
  | .pause _ => none

/-- The events among some cues. -/
def Cue.shown (cues : List Cue) : List Event :=
  cues.filterMap Cue.event?

theorem Cue.shown_append (cues more : List Cue) :
    shown (cues ++ more) = shown cues ++ shown more :=
  List.filterMap_append

theorem Cue.shown_eq_nil_of_isPause {cues : List Cue} (h : ∀ cue ∈ cues, cue.isPause = true) :
    shown cues = [] := by
  apply List.filterMap_eq_nil_iff.mpr
  intro cue hcue
  cases cue with
  | pause milliseconds => rfl
  | event event => cases h _ hcue

theorem Cue.isPause_of_mem_wait {milliseconds : Nat} {cue : Cue} (h : cue ∈ wait milliseconds) :
    cue.isPause = true := by
  unfold wait at h
  split at h
  · cases h
  · rw [List.mem_singleton.mp h]
    rfl

@[simp]
theorem Cue.shown_wait (milliseconds : Nat) : shown (Cue.wait milliseconds) = [] :=
  shown_eq_nil_of_isPause fun _ => isPause_of_mem_wait

/-- The cues that reach the queue. -/
def Mode.heard : Mode → List Cue → List Cue
  | .animated _, cues => cues
  | .silent _, _ => []

/-- Whether another pass follows when `done` passes are complete. -/
def Mode.continues : Mode → Nat → Bool
  | .animated _, _ => true
  | .silent limit, done => done < limit

@[simp]
theorem Mode.heard_nil (mode : Mode) : mode.heard [] = [] := by
  cases mode <;> rfl

theorem Mode.heard_append (mode : Mode) (cues more : List Cue) :
    mode.heard (cues ++ more) = mode.heard cues ++ mode.heard more := by
  cases mode <;> rfl

namespace Walk

def queue (w : Walk) (cues : List Cue) : Walk :=
  { w with pending := w.pending ++ w.mode.heard cues }

/-- The cues in front of the effect of a line. -/
def opened (w : Walk) (line : Nat) : List Cue :=
  .event ⟨w.side, .highlightStart line⟩ :: Cue.wait w.timing.highlight

/-- The cues behind the effect of a line. -/
def closed (w : Walk) (line milliseconds : Nat) : List Cue :=
  Cue.wait milliseconds ++ [.event ⟨w.side, .highlightEnd line⟩]

/-- The pauses for `count` lines that are passed over. -/
def skipped (w : Walk) (count : Nat) : List Cue :=
  (List.replicate count (Cue.wait w.timing.skip)).flatten

theorem mem_wait_of_mem_skipped {w : Walk} {count : Nat} {cue : Cue} (h : cue ∈ w.skipped count) :
    cue ∈ Cue.wait w.timing.skip := by
  obtain ⟨cues, hcues, hcue⟩ := List.mem_flatten.mp h
  rwa [List.eq_of_mem_replicate hcues] at hcue

section Fields

variable (w : Walk) (cues : List Cue)

@[simp]
theorem program_queue : (w.queue cues).program = w.program := rfl

@[simp]
theorem mode_queue : (w.queue cues).mode = w.mode := rfl

@[simp]
theorem side_queue : (w.queue cues).side = w.side := rfl

@[simp]
theorem timing_queue : (w.queue cues).timing = w.timing := rfl

@[simp]
theorem state_queue : (w.queue cues).state = w.state := rfl

@[simp]
theorem phase_queue : (w.queue cues).phase = w.phase := rfl

theorem pending_queue : (w.queue cues).pending = w.pending ++ w.mode.heard cues := rfl

theorem queue_nil : w.queue [] = w := by
  simp [queue]

theorem queue_queue (more : List Cue) : (w.queue cues).queue more = w.queue (cues ++ more) := by
  simp [queue, Mode.heard_append]

end Fields

/-- A silent walk queues nothing. -/
theorem queue_of_silent {w : Walk} {passes : Nat} (h : w.mode = .silent passes)
    (cues : List Cue) : w.queue cues = w := by
  rw [queue, h, Mode.heard, List.append_nil, ← h]

variable (w : Walk)

theorem push_eq_queue (cue : Cue) : w.push cue = w.queue [cue] := by
  unfold push
  split
  · next hmode => rw [queue, hmode, Mode.heard]
  · next hmode => exact (queue_of_silent hmode [cue]).symm

theorem pause_eq_queue (milliseconds : Nat) :
    w.pause milliseconds = w.queue (Cue.wait milliseconds) := by
  by_cases h : milliseconds = 0
  · rw [pause, if_pos h, Cue.wait, if_pos h, queue_nil]
  · rw [pause, if_neg h, Cue.wait, if_neg h, push_eq_queue]

theorem emit_eq_queue (happening : Happening) :
    w.emit happening = w.queue [.event ⟨w.side, happening⟩] :=
  w.push_eq_queue _

theorem highlight_eq_queue (line : Nat) : w.highlight line = w.queue (w.opened line) := by
  rw [highlight, emit_eq_queue, pause_eq_queue, queue_queue]
  rfl

theorem release_eq_queue (line milliseconds : Nat) :
    w.release line milliseconds = w.queue (w.closed line milliseconds) := by
  rw [release, pause_eq_queue, emit_eq_queue, queue_queue]
  rfl

theorem pauses_eq_queue (count : Nat) : w.pauses count = w.queue (w.skipped count) := by
  induction count generalizing w with
  | zero => exact w.queue_nil.symm
  | succ count ih =>
      rw [pauses, pause_eq_queue, ih, queue_queue]
      simp [skipped, List.replicate_succ]

theorem fail_eq_queue (line : Nat) (fault : Fault) :
    w.fail line fault =
      (w.queue [.event ⟨w.side, .failed line (Failure.mk line fault).message⟩]).finish
        (.failed ⟨line, fault⟩) := by
  rw [fail, emit_eq_queue]

theorem endPass_eq_queue (block : Block) (done : Nat) :
    w.endPass block done =
      if w.mode.continues (done + 1) then
        { w with phase := .loop block block.bodyStart (done + 1) }.queue [.pause w.timing.loop]
      else w.finish .completed := by
  unfold endPass
  split
  · next looping hmode =>
    have hcontinues : w.mode.continues (done + 1) = true := by rw [hmode]; rfl
    rw [if_pos hcontinues, push_eq_queue]
    rfl
  · next limit hmode =>
    have hcontinues : w.mode.continues (done + 1) = decide (done + 1 < limit) := by rw [hmode]; rfl
    let ahead : Walk := { w with phase := .loop block block.bodyStart (done + 1) }
    rw [hcontinues, queue_of_silent (w := ahead) hmode]
    by_cases h : done + 1 < limit
    · simp [ahead, h, Nat.not_le.mpr h]
    · simp [h, Nat.le_of_not_lt h]

section Shown

variable (line milliseconds : Nat)

theorem shown_opened : Cue.shown (w.opened line) = [⟨w.side, .highlightStart line⟩] := by
  rw [opened, ← List.singleton_append, Cue.shown_append, Cue.shown_wait]
  rfl

theorem shown_closed :
    Cue.shown (w.closed line milliseconds) = [⟨w.side, .highlightEnd line⟩] := by
  rw [closed, Cue.shown_append, Cue.shown_wait]
  rfl

theorem shown_skipped (count : Nat) : Cue.shown (w.skipped count) = [] := by
  apply Cue.shown_eq_nil_of_isPause
  intro cue hcue
  exact Cue.isPause_of_mem_wait (mem_wait_of_mem_skipped hcue)

end Shown

end Walk

end Breadboard
