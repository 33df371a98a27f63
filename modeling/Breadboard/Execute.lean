import Breadboard.Program
import Breadboard.State

/-!
The effect of one statement. It changes the state or fails, and says what there is to show. The
order of lines, sections and pauses are the concern of the walk.
-/

namespace Breadboard

inductive Effect where
  | light (pin : Pin) (on : Bool)
  | variableSet (name display : Text)
deriving DecidableEq, Repr

inductive Transition where
  /-- Nothing to show. -/
  | quiet
  | effect (effect : Effect)
  /-- A condition was evaluated; its block runs if `taken`. -/
  | branch (taken : Bool) (block : Block)
deriving DecidableEq, Repr

def findPin (digits : Text) : Except Fault Pin :=
  match Pin.ofDigits? digits with
  | some pin => .ok pin
  | none => .error (.unknownPin digits)

/-- `block?` is the block of a conditional header; other statements do not look at it. A missing
block is at fault before the condition is read. -/
def execute (statement : Statement) (block? : Option Block) (s : State) :
    Except Fault (Transition × State) :=
  match statement with
  | .blank | .comment | .brace _ | .setup | .loop => .ok (.quiet, s)
  | .declare digits => do
      let pin ← findPin digits
      return (.quiet, s.declare pin)
  | .switch digits on => do
      let pin ← findPin digits
      let s ← s.switch pin on
      return (.effect (.light pin on), s)
  | .assign name type value =>
      let v : Variable := ⟨value, type⟩
      .ok (.effect (.variableSet name v.display), s.assign name v)
  | .conditional condition =>
      match block? with
      | none => .error .unclosedBlock
      | some block => do
          let taken ← s.evaluate condition
          return (.branch taken block, s)
  | .missingSemicolon => .error .missingSemicolon
  | .malformedPinCommand => .error .malformedPinCommand
  | .unknownPinSyntax => .error .unknownPinSyntax
  | .invalid => .error .invalidStatement

end Breadboard
