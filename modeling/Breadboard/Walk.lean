import Breadboard.Event

/-!
A walk runs one program, line after line. It looks for `void setup()`, runs the lines of its block,
and goes on until it meets `void loop()`, whose body it repeats. Lines outside both are shown and
passed over. The block of a false condition is skipped, and the first fault ends the walk.

An animated walk queues cues for a spectator, and may repeat the loop until it is told to stop. A
silent walk queues nothing and repeats the loop a fixed number of times. Both take the same steps;
they differ only in what they queue and in how often they repeat.

What runs a line is an argument of the step, so that it can be said which lines a step runs at all.
A walk runs them with `execute`.
-/

namespace Breadboard

inductive Mode where
  | animated (looping : Bool)
  | silent (passes : Nat)
deriving DecidableEq, Repr

/-- Whether the loop runs at all. -/
def Mode.repeats : Mode → Bool
  | .animated looping => looping
  | .silent passes => 0 < passes

inductive Outcome where
  | completed
  | cancelled
  | failed (failure : Failure)
deriving DecidableEq, Repr

/-- `cursor` is the next line. In the setup phase `closing?` is the last line of the setup block
that the walk is in. In the loop phase `passes` counts the passes that are complete. -/
inductive Phase where
  | idle
  | setup (cursor : Nat) (closing? : Option Nat)
  | loop (block : Block) (cursor passes : Nat)
  | stopped (outcome : Outcome)
deriving DecidableEq, Repr

structure Report where
  state : State
  outcome : Outcome
deriving DecidableEq, Repr

structure Walk where
  program : Program
  mode : Mode
  side : Side
  timing : Timing
  state : State := .fresh
  phase : Phase := .idle
  /-- Cues that are queued and not yet delivered, the oldest first. -/
  pending : List Cue := []
deriving Repr

namespace Walk

def silent (program : Program) (passes : Nat) : Walk :=
  { program, mode := .silent passes, side := .student, timing := .instant }

def isFinished (w : Walk) : Bool :=
  match w.phase with
  | .stopped _ => w.pending.isEmpty
  | _ => false

/-- A walk that has not stopped was cancelled by whoever asks for its report. -/
def report (w : Walk) : Report :=
  match w.phase with
  | .stopped outcome => ⟨w.state, outcome⟩
  | _ => ⟨w.state, .cancelled⟩

def push (w : Walk) (cue : Cue) : Walk :=
  match w.mode with
  | .animated _ => { w with pending := w.pending ++ [cue] }
  | .silent _ => w

def emit (w : Walk) (happening : Happening) : Walk :=
  w.push (.event ⟨w.side, happening⟩)

/-- A pause of no length is not queued. -/
def pause (w : Walk) (milliseconds : Nat) : Walk :=
  if milliseconds = 0 then w else w.push (.pause milliseconds)

def highlight (w : Walk) (line : Nat) : Walk :=
  (w.emit (.highlightStart line)).pause w.timing.highlight

def release (w : Walk) (line milliseconds : Nat) : Walk :=
  (w.pause milliseconds).emit (.highlightEnd line)

def finish (w : Walk) (outcome : Outcome) : Walk :=
  { w with phase := .stopped outcome }

def fail (w : Walk) (line : Nat) (fault : Fault) : Walk :=
  (w.emit (.failed line (Failure.mk line fault).message)).finish (.failed ⟨line, fault⟩)

/-- Moves on to another line. Past the closing line of a setup block the walk is outside it. -/
def moveTo (w : Walk) (cursor : Nat) : Walk :=
  match w.phase with
  | .setup _ (some closing) =>
      if closing < cursor then
        { w with phase := .setup cursor none, state := { w.state with region := .outside } }
      else { w with phase := .setup cursor (some closing) }
  | .setup _ none => { w with phase := .setup cursor none }
  | .loop block _ passes => { w with phase := .loop block cursor passes }
  | _ => w

/-- One pause for each line of a block that is passed over. -/
def pauses (w : Walk) : Nat → Walk
  | 0 => w
  | count + 1 => (w.pause w.timing.skip).pauses count

def pauseAfter (timing : Timing) : Statement → Nat
  | .comment | .brace _ | .setup | .loop => timing.short
  | _ => timing.medium

/-- Something that runs the lines of a program. -/
abbrev Executor :=
  Nat → Statement → Option Block → State → Except Fault (Transition × State)

/-- The same on every line. -/
abbrev Executor.standard : Executor := fun _ => execute

/-- Runs the line under the cursor. -/
def runLine (exec : Executor) (w : Walk) (line : Nat) (statement : Statement) : Walk :=
  let shown := w.highlight line
  match exec line statement (w.program.block? line) w.state with
  | .error fault => shown.fail line fault
  | .ok (transition, state) =>
    let shown := { shown with state }
    match transition with
    | .quiet => (shown.release line (pauseAfter w.timing statement)).moveTo (line + 1)
    | .effect effect =>
        ((shown.emit (.effect effect)).release line w.timing.medium).moveTo (line + 1)
    | .branch taken block =>
        let shown := shown.release line w.timing.short
        if taken then shown.moveTo (line + 1)
        else (shown.pauses (block.closing + 1 - block.bodyStart)).moveTo (block.closing + 1)

def begin (w : Walk) : Walk :=
  let w := { w with state := .fresh }
  if w.program.isBlank then w.fail 0 .emptyProgram else { w with phase := .setup 0 none }

/-- Inside the setup block that closes on line `closing`. -/
def insideSetup (w : Walk) (line closing : Nat) : Walk :=
  { w with phase := .setup line (some closing), state := { w.state with region := .setup } }

def insideLoop (w : Walk) (block : Block) : Walk :=
  { w with
    phase := .loop block block.bodyStart 0
    state := { w.state with region := .loop } }

def enterSetup (w : Walk) (line : Nat) : Walk :=
  let shown := w.highlight line
  match w.program.block? line with
  | none => shown.fail line .unclosedBlock
  | some block =>
      ((shown.release line w.timing.short).insideSetup line block.closing).moveTo (line + 1)

/-- A walk that does not repeat the loop at all ends at its header. -/
def enterLoop (w : Walk) (line : Nat) : Walk :=
  let shown := w.highlight line
  match w.program.block? line with
  | none => shown.fail line .unclosedBlock
  | some block =>
      let inside := (shown.release line w.timing.short).insideLoop block
      if w.mode.repeats then inside else inside.finish .completed

def stepSetup (exec : Executor) (w : Walk) (cursor : Nat) : Walk :=
  match w.program.statement? cursor with
  | none => w.finish .completed
  | some .blank => w.moveTo (cursor + 1)
  | some .setup => w.enterSetup cursor
  | some .loop => w.enterLoop cursor
  | some statement =>
      if w.state.region = .setup then w.runLine exec cursor statement
      else ((w.highlight cursor).release cursor 0).moveTo (cursor + 1)

/-- Between two passes an animated walk always pauses, even for no time, so that a loop with
nothing in it still lets its spectator act. -/
def endPass (w : Walk) (block : Block) (passes : Nat) : Walk :=
  let next : Phase := .loop block block.bodyStart (passes + 1)
  match w.mode with
  | .animated _ => { w.push (.pause w.timing.loop) with phase := next }
  | .silent limit =>
      if limit ≤ passes + 1 then w.finish .completed else { w with phase := next }

def stepLoop (exec : Executor) (w : Walk) (block : Block) (cursor passes : Nat) : Walk :=
  if block.bodyEnd ≤ cursor then w.endPass block passes
  else
    match w.program.statement? cursor with
    | none => w.finish .completed
    | some .blank => (w.pause w.timing.skip).moveTo (cursor + 1)
    | some statement => w.runLine exec cursor statement

/-- One step of a walk with nothing pending. The signal to stop is looked at before each line and
before each pass, but not before the first step. -/
def stepBy (exec : Executor) (raised : Bool) (w : Walk) : Walk :=
  match w.phase with
  | .idle => w.begin
  | .setup cursor _ => if raised then w.finish .cancelled else w.stepSetup exec cursor
  | .loop block cursor passes =>
      if raised then w.finish .cancelled else w.stepLoop exec block cursor passes
  | .stopped _ => w

def step (raised : Bool) (w : Walk) : Walk :=
  w.stepBy .standard raised

end Walk

end Breadboard
