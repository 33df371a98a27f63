import Breadboard.Execute

/-!
Statements that write to the state in place. `execute` returns a new state and, with a fault, none
at all, so it cannot tell whether a statement that fails has already written something. Here a
statement is a sequence of reads and writes on one state, and what was written before a fault stays
written. `on_perform` says that the two agree and that nothing ever was: every check of a statement
comes before its first write.
-/

namespace Breadboard

/-- Reads and writes on one state, up to the first fault. -/
abbrev InPlace := ExceptT Fault (StateM State)

namespace InPlace

variable {α β : Type}

/-- The result and the state that is left, also after a fault. -/
def on (action : InPlace α) (s : State) : Except Fault α × State :=
  StateT.run (ExceptT.run action) s

theorem on_bind (action : InPlace α) (next : α → InPlace β) (s : State) :
    (action >>= next).on s =
      match action.on s with
      | (.ok a, after) => (next a).on after
      | (.error fault, after) => (.error fault, after) := by
  unfold on ExceptT.run StateT.run
  simp only [bind, ExceptT.bind, ExceptT.mk, StateT.bind, ExceptT.bindCont]
  cases action s with
  | mk result after => cases result <;> rfl

/-- A check that only reads. -/
def check (result : State → Except Fault α) : InPlace α :=
  fun s => (result s, s)

@[simp]
theorem on_check (result : State → Except Fault α) (s : State) :
    (check result).on s = (result s, s) :=
  rfl

def write (f : State → State) : InPlace Unit :=
  fun s => (.ok (), f s)

@[simp]
theorem on_write (f : State → State) (s : State) : (write f).on s = (.ok (), f s) :=
  rfl

@[simp]
theorem on_pure (a : α) (s : State) : (pure a : InPlace α).on s = (.ok a, s) :=
  rfl

@[simp]
theorem on_throw (fault : Fault) (s : State) :
    (throw fault : InPlace α).on s = (.error fault, s) :=
  rfl

/-- Only a pin that is declared is switched. -/
def switch (pin : Pin) (on : Bool) : InPlace Unit := do
  let declared ← check fun s => .ok (s.pins.get pin).declared
  if declared then
    write fun s => { s with pins := s.pins.set pin { s.pins.get pin with on } }
  else throw (.pinNotDeclared pin)

theorem on_switch (pin : Pin) (on : Bool) (s : State) :
    (switch pin on).on s =
      match s.switch pin on with
      | .ok after => (.ok (), after)
      | .error fault => (.error fault, s) := by
  unfold switch State.switch
  rw [on_bind, on_check]
  by_cases hdeclared : (s.pins.get pin).declared = true
  · simp [hdeclared]
  · simp [hdeclared]

end InPlace

open InPlace

/-- The statement as reads and writes, in the order in which they happen. -/
def perform (statement : Statement) (block? : Option Block) : InPlace Transition :=
  match statement with
  | .blank | .comment | .brace _ | .setup | .loop => return .quiet
  | .declare digits => do
      let pin ← check fun _ => findPin digits
      write (·.declare pin)
      return .quiet
  | .switch digits on => do
      let pin ← check fun _ => findPin digits
      InPlace.switch pin on
      return .effect (.light pin on)
  | .assign name type value => do
      let v : Variable := ⟨value, type⟩
      write (·.assign name v)
      return .effect (.variableSet name v.display)
  | .conditional condition =>
      match block? with
      | none => throw .unclosedBlock
      | some block => do
          let taken ← check (·.evaluate condition)
          return .branch taken block
  | .missingSemicolon => throw .missingSemicolon
  | .malformedPinCommand => throw .malformedPinCommand
  | .unknownPinSyntax => throw .unknownPinSyntax
  | .invalid => throw .invalidStatement

/-- In place or not, a statement has the same result and leaves the same state, and a statement that
fails leaves the state as it found it. -/
theorem on_perform (statement : Statement) (block? : Option Block) (s : State) :
    (perform statement block?).on s =
      match execute statement block? s with
      | .ok (transition, after) => (.ok transition, after)
      | .error fault => (.error fault, s) := by
  cases statement with
  | declare digits =>
      simp only [perform, execute, on_bind, on_check]
      cases findPin digits with
      | error fault => rfl
      | ok pin => rfl
  | switch digits on =>
      simp only [perform, execute, on_bind, on_check]
      cases findPin digits with
      | error fault => rfl
      | ok pin =>
          simp only [on_switch, bind, Except.bind]
          cases s.switch pin on with
          | error fault => rfl
          | ok after => rfl
  | conditional condition =>
      cases block? with
      | none => rfl
      | some block =>
          simp only [perform, execute, on_bind, on_check]
          cases s.evaluate condition with
          | error fault => rfl
          | ok taken => rfl
  | _ => rfl

end Breadboard
