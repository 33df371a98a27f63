import Mathlib.Logic.Function.Iterate
import Breadboard.Proofs.Walk.Silent

/-!
Calls and steps. A spectator calls `next` again and again, and the signal may be up or down at each
call; `play` is what has been delivered after some calls, and the walk as it is then. Between two
calls the walk may take several steps or none, so an invariant is shown for a step and for a
delivery, and `play_invariant` carries it to every call.

With the signal down the walk after some calls is one of a fixed sequence of walks, each a step
ahead of the one before, apart from what is pending. `advance` is that sequence, `script` are the
cues of its first steps, and `catch_up` says that the calls leave out none of it.
-/

namespace Breadboard.Walk

/-- A walk with a spectator, before its first step. -/
def animated (program : Program) (looping : Bool) (side : Side) (timing : Timing) : Walk :=
  { program, mode := .animated looping, side, timing }

/-- What `count` calls have delivered and the walk after them. `signal n` is the signal at call
number `n`. -/
def play (signal : Nat → Bool) (w : Walk) : Nat → List Cue × Walk
  | 0 => ([], w)
  | count + 1 =>
      let (cues, v) := w.play signal count
      let (cue?, u) := v.next (signal count)
      (cues ++ cue?.toList, u)

/-- The answer to call number `count`. -/
def answer (signal : Nat → Bool) (w : Walk) (count : Nat) : Option Cue :=
  ((w.play signal count).2.next (signal count)).1

/-- The walk after some calls with the signal down. -/
def after (w : Walk) (calls : Nat) : Walk :=
  (w.play (fun _ => false) calls).2

/-- What some calls with the signal down have delivered. -/
def delivered (w : Walk) (calls : Nat) : List Cue :=
  (w.play (fun _ => false) calls).1

/-- The walk stops, and the report it leaves is this one. -/
def EndsWith (w : Walk) (report : Report) : Prop :=
  ∃ calls, (w.after calls).isFinished = true ∧ (w.after calls).report = report

section Invariant

variable {P : List Cue → Walk → Prop}

/-- One call keeps what every delivery and every step keep. -/
theorem next_invariant {raised : Bool}
    (hdelivery : ∀ cues v cue rest, v.pending = cue :: rest → P cues v →
      P (cues ++ [cue]) { v with pending := rest })
    (hstep : ∀ cues v, v.pending = [] → 0 < v.phase.rank → P cues v → P cues (v.step raised))
    {cues : List Cue} {w : Walk} (h : P cues w) :
    P (cues ++ (w.next raised).1.toList) (w.next raised).2 := by
  induction w using next.induct raised with
  | case1 w cue rest hpending =>
      rw [next_of_pending hpending]
      exact hdelivery cues w cue rest hpending h
  | case2 w hpending hrunning ih =>
      rw [next_of_running hpending hrunning]
      exact ih (hstep cues w hpending hrunning h)
  | case3 w hpending hrunning =>
      rcases w.running_or_stopped with hrunning' | ⟨outcome, hstopped⟩
      · exact absurd hrunning' hrunning
      · rw [next_of_stopped hpending hstopped]
        simpa using h

theorem play_invariant {w : Walk} (hstart : P [] w)
    (hdelivery : ∀ cues v cue rest, v.pending = cue :: rest → P cues v →
      P (cues ++ [cue]) { v with pending := rest })
    (hstep : ∀ raised cues v, v.pending = [] → 0 < v.phase.rank → P cues v →
      P cues (v.step raised))
    (signal : Nat → Bool) (count : Nat) : P (w.play signal count).1 (w.play signal count).2 := by
  induction count with
  | zero => exact hstart
  | succ count ih => exact next_invariant hdelivery (hstep (signal count)) ih

end Invariant

variable {w v : Walk}

theorem play_succ (signal : Nat → Bool) (w : Walk) (count : Nat) :
    w.play signal (count + 1) =
      ((w.play signal count).1 ++ (w.answer signal count).toList,
        ((w.play signal count).2.next (signal count)).2) :=
  rfl

/-- The first call and then the others. -/
theorem play_succ_snd (signal : Nat → Bool) (w : Walk) (count : Nat) :
    (w.play signal (count + 1)).2 =
      ((w.next (signal 0)).2.play (fun n => signal (n + 1)) count).2 := by
  induction count with
  | zero => rfl
  | succ count ih =>
      change ((w.play signal (count + 1)).2.next (signal (count + 1))).2 = _
      rw [ih]
      rfl

theorem answer_succ (signal : Nat → Bool) (w : Walk) (count : Nat) :
    w.answer signal (count + 1) =
      (w.next (signal 0)).2.answer (fun n => signal (n + 1)) count := by
  rw [answer, play_succ_snd]
  rfl

/-- Deliveries leave everything but the queue alone. -/
theorem play_of_le_pending (signal : Nat → Bool) {calls : Nat} (h : calls ≤ w.pending.length) :
    w.play signal calls = (w.pending.take calls, { w with pending := w.pending.drop calls }) := by
  induction calls with
  | zero => rfl
  | succ calls ih =>
      have hdrop : w.pending.drop calls = w.pending[calls] :: w.pending.drop (calls + 1) :=
        List.drop_eq_getElem_cons h
      rw [play_succ, answer, ih (Nat.le_of_succ_le h),
        next_of_pending (w := { w with pending := w.pending.drop calls }) hdrop,
        List.take_succ_eq_append_getElem h]
      rfl

theorem after_succ (w : Walk) (calls : Nat) :
    w.after (calls + 1) = ((w.after calls).next false).2 :=
  rfl

/-- Some calls and then some more. -/
theorem play_add (signal : Nat → Bool) (w : Walk) (calls more : Nat) :
    w.play signal (calls + more) =
      let later := (w.play signal calls).2.play (fun n => signal (calls + n)) more
      ((w.play signal calls).1 ++ later.1, later.2) := by
  induction more with
  | zero => simp [play]
  | succ more ih =>
      rw [← Nat.add_assoc, play_succ, answer, ih]
      simp only [play_succ, answer, List.append_assoc]

/-- Only the signal at the calls that are made matters. -/
theorem play_congr {signal signal' : Nat → Bool} {count : Nat}
    (h : ∀ call < count, signal call = signal' call) :
    w.play signal count = w.play signal' count := by
  induction count with
  | zero => rfl
  | succ count ih =>
      have hbefore := ih fun call hcall => h call (Nat.lt_succ_of_lt hcall)
      rw [play_succ, play_succ, answer, answer, hbefore, h count (Nat.lt_succ_self count)]

theorem after_add (w : Walk) (calls more : Nat) :
    w.after (calls + more) = (w.after calls).after more := by
  rw [after, play_add]
  rfl

theorem delivered_add (w : Walk) (calls more : Nat) :
    w.delivered (calls + more) = w.delivered calls ++ (w.after calls).delivered more := by
  rw [delivered, play_add]
  rfl

/-- A step with the signal down, all of its cues delivered. -/
def advance (w : Walk) : Walk :=
  { w.step false with pending := [] }

/-- The cues of the first steps with the signal down. -/
def script (w : Walk) : Nat → List Cue
  | 0 => []
  | count + 1 => w.script count ++ ((advance^[count] w).step false).pending

theorem pending_advance_iterate (hpending : w.pending = []) (count : Nat) :
    (advance^[count] w).pending = [] := by
  cases count with
  | zero => exact hpending
  | succ count =>
      rw [Function.iterate_succ_apply']
      rfl

theorem mode_advance_iterate (w : Walk) (count : Nat) : (advance^[count] w).mode = w.mode := by
  induction count with
  | zero => rfl
  | succ count ih =>
      rw [Function.iterate_succ_apply']
      exact (mode_step false _).trans ih

theorem after_of_le_pending {calls : Nat} (h : calls ≤ w.pending.length) :
    w.after calls = { w with pending := w.pending.drop calls } := by
  rw [after, play_of_le_pending _ h]

theorem delivered_pending (w : Walk) : w.delivered w.pending.length = w.pending := by
  rw [delivered, play_of_le_pending _ (Nat.le_refl _), List.take_length]

theorem advance_of_pending (h : (w.step false).pending = []) : w.advance = w.step false := by
  rw [advance, ← h]

/-- From a walk whose next call does what it would do at `w`, some calls lead one step ahead of `w`.
They deliver the cues of that step and see nothing else on the way. -/
private theorem exists_after_advance (hpending : w.pending = [])
    (hnext : v.next false = w.next false) :
    ∃ calls, (v.after calls).next false = w.advance.next false ∧
      v.delivered calls = (w.step false).pending ∧
      ∀ earlier < calls, { v.after (earlier + 1) with pending := [] } = w.advance := by
  have stays (h : w.next false = w.advance.next false) : ∃ calls,
      (v.after calls).next false = w.advance.next false ∧ v.delivered calls = [] ∧
        ∀ earlier < calls, { v.after (earlier + 1) with pending := [] } = w.advance :=
    ⟨0, hnext.trans h, rfl, fun earlier hearlier => absurd hearlier (Nat.not_lt_zero earlier)⟩
  rcases w.running_or_stopped with hrunning | ⟨outcome, hstopped⟩
  · cases hcues : (w.step false).pending with
    | nil => exact stays (by rw [advance_of_pending hcues, next_of_running hpending hrunning])
    | cons cue rest =>
        let u : Walk := { w.step false with pending := rest }
        have hcall : v.next false = (some cue, u) := by
          rw [hnext, next_of_running hpending hrunning, next_of_pending hcues]
        have hfirst : v.after 1 = u := congrArg Prod.snd hcall
        have hlater (earlier : Nat) (h : earlier ≤ rest.length) :
            v.after (earlier + 1) = { u with pending := rest.drop earlier } := by
          rw [Nat.add_comm, after_add, hfirst]
          exact after_of_le_pending (w := u) h
        refine ⟨rest.length + 1, ?_, ?_, ?_⟩
        · rw [hlater _ (Nat.le_refl _), List.drop_length]
          rfl
        · have hone : v.delivered 1 = [cue] := congrArg (Option.toList ∘ Prod.fst) hcall
          rw [Nat.add_comm, delivered_add, hfirst, hone]
          exact congrArg (cue :: ·) u.delivered_pending
        · intro earlier hearlier
          rw [hlater earlier (Nat.le_of_lt_succ hearlier)]
          rfl
  · have hstep : w.step false = w := step_of_stopped hstopped
    have hempty : (w.step false).pending = [] := by rw [hstep, hpending]
    rw [hempty]
    exact stays (by rw [advance_of_pending hempty, hstep])

/-- The calls pass every walk of the sequence: after some of them the next call does what it would
do there, what was delivered are the cues of the steps up to there, and only earlier walks of the
sequence were seen. -/
theorem catch_up (hpending : w.pending = []) (count : Nat) :
    ∃ calls, (w.after calls).next false = (advance^[count] w).next false ∧
      w.delivered calls = w.script count ∧
      ∀ earlier ≤ calls, ∃ i ≤ count,
        { w.after earlier with pending := [] } = advance^[i] w := by
  induction count with
  | zero =>
      refine ⟨0, rfl, rfl, ?_⟩
      intro earlier hearlier
      obtain rfl := Nat.le_zero.mp hearlier
      refine ⟨0, Nat.le_refl 0, ?_⟩
      change { w with pending := [] } = w
      rw [← hpending]
  | succ count ih =>
      -- Equality of the next call, not of the walks: a step that queues nothing needs no call.
      obtain ⟨calls, hnext, hcues, hseen⟩ := ih
      obtain ⟨more, hmore, hnew, hahead⟩ :=
        exists_after_advance (pending_advance_iterate hpending count) hnext
      rw [← Function.iterate_succ_apply' advance] at hmore hahead
      refine ⟨calls + more, by rwa [after_add], by rw [delivered_add, hcues, hnew, script], ?_⟩
      intro earlier hearlier
      rcases Nat.lt_or_ge calls earlier with hlt | hle
      · obtain ⟨distance, rfl⟩ := Nat.exists_eq_add_of_lt hlt
        refine ⟨count + 1, Nat.le_refl _, ?_⟩
        rw [Nat.add_assoc, after_add]
        exact hahead distance (by omega)
      · obtain ⟨i, hi, heq⟩ := hseen earlier hle
        exact ⟨i, Nat.le_succ_of_le hi, heq⟩

/-- After any calls the walk is one of the sequence, and what was delivered and what is pending are
together the cues of the steps up to there. -/
theorem exists_script (hpending : w.pending = []) (calls : Nat) :
    ∃ steps, { w.after calls with pending := [] } = advance^[steps] w ∧
      w.delivered calls ++ (w.after calls).pending = w.script steps := by
  let OnScript (cues : List Cue) (v : Walk) : Prop :=
    ∃ steps, { v with pending := [] } = advance^[steps] w ∧ cues ++ v.pending = w.script steps
  have hdelivery (cues : List Cue) (v : Walk) (cue : Cue) (rest : List Cue)
      (hcues : v.pending = cue :: rest) (h : OnScript cues v) :
      OnScript (cues ++ [cue]) { v with pending := rest } := by
    obtain ⟨steps, hwalk, hscript⟩ := h
    refine ⟨steps, hwalk, ?_⟩
    rw [← hscript, hcues]
    simp
  have hstep (cues : List Cue) (v : Walk) (hempty : v.pending = []) (_ : 0 < v.phase.rank)
      (h : OnScript cues v) : OnScript cues (v.step false) := by
    obtain ⟨steps, hwalk, hscript⟩ := h
    have hv : v = advance^[steps] w := by
      rw [← hwalk, ← hempty]
    rw [hempty, List.append_nil] at hscript
    refine ⟨steps + 1, ?_, ?_⟩
    · rw [Function.iterate_succ_apply', ← hv]
      rfl
    · rw [script, ← hv, hscript]
  induction calls with
  | zero =>
      refine ⟨0, ?_, ?_⟩
      · change { w with pending := [] } = w
        rw [← hpending]
      · simpa [delivered, after, play, script] using hpending
  | succ calls ih => exact next_invariant (P := OnScript) hdelivery hstep ih

end Breadboard.Walk
