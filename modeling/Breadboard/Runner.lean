import Breadboard.Board
import Breadboard.Walk.Cues

/-!
One run at a time. A runner refuses to start while a run is active, forwards its cues, and keeps
the report of the last run until it is taken. The signal to stop outlives a run, but every start
lowers it first.
-/

namespace Breadboard

structure Runner where
  timing : Timing
  raised : Bool := false
  active : Option Walk := none
  last : Option Report := none
deriving Repr

namespace Runner

def isBusy (r : Runner) : Bool :=
  r.active.isSome

def activeSide (r : Runner) : Option Side :=
  r.active.map (·.side)

/-- Whether the run was accepted; a refused one changes nothing. -/
def start (r : Runner) (source : Text) (side : Side) (looping : Bool) : Bool × Runner :=
  if r.isBusy then (false, r)
  else
    let walk : Walk :=
      { program := .ofSource source, mode := .animated looping, side, timing := r.timing }
    (true, { r with raised := false, active := some walk, last := none })

/-- Raises the signal whether or not a run is active. -/
def raise (r : Runner) : Runner :=
  { r with raised := true }

/-- Asks the active run to stop before its next line. -/
def stop (r : Runner) : Runner :=
  if r.isBusy then r.raise else r

/-- The next cue of the active run. A run that has none left becomes the last report. -/
def next (r : Runner) : Option Cue × Runner :=
  match r.active with
  | none => (none, r)
  | some walk =>
      match walk.next r.raised with
      | (some cue, walk) => (some cue, { r with active := some walk })
      | (none, walk) => (none, { r with active := none, last := some walk.report })

/-- The events up to the next pause and its length, or up to the end of the run. -/
def untilPause (r : Runner) : List Event × Option Nat × Runner :=
  match r.active with
  | none => ([], none, r)
  | some walk =>
      match walk.untilPause r.raised with
      | (events, some pause, walk) => (events, some pause, { r with active := some walk })
      | (events, none, walk) =>
          (events, none, { r with active := none, last := some walk.report })

/-- Up to `count` cues; an answer shorter than that ended with the run. -/
def take (r : Runner) : Nat → List Cue × Runner
  | 0 => ([], r)
  | count + 1 =>
      match r.next with
      | (none, r) => ([], r)
      | (some cue, r) =>
          let (cues, r) := r.take count
          (cue :: cues, r)

/-- The last report, handed out once. -/
def takeReport (r : Runner) : Option Report × Runner :=
  (r.last, { r with last := none })

/-- What a run showed and how long it waited, in order. -/
structure Recording where
  events : Array Event := #[]
  slept : Array Nat := #[]
deriving DecidableEq, Repr

/-- Plays the active run to its end, for at most `budget` cues. The signal is raised during pause
number `stopAt`, counted from one. -/
def play (r : Runner) (stopAt : Nat) (recording : Recording) : Nat → Recording × Runner
  | 0 => (recording, r)
  | budget + 1 =>
      match r.next with
      | (none, r) => (recording, r)
      | (some (.event event), r) =>
          r.play stopAt { recording with events := recording.events.push event } budget
      | (some (.pause milliseconds), r) =>
          let recording := { recording with slept := recording.slept.push milliseconds }
          let r := if recording.slept.size = stopAt then r.raise else r
          r.play stopAt recording budget

end Runner

end Breadboard
