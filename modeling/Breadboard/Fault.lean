import Breadboard.Pin

/-!
What can stop a run. Every fault is fatal and its text goes to the learner as it is, hence in
French.
-/

namespace Breadboard

inductive Fault where
  | missingSemicolon
  /-- No pin of the board has these digits. -/
  | unknownPin (digits : Text)
  /-- A pin was switched before its declaration ran. -/
  | pinNotDeclared (pin : Pin)
  | malformedPinCommand
  | unknownPinSyntax
  | invalidStatement
  /-- A condition names a variable that was never assigned. -/
  | undeclaredVariable (name : Text)
  | invalidCondition
  /-- The braces of a header never close. -/
  | unclosedBlock
  | emptyProgram
deriving DecidableEq, Repr

def Fault.message : Fault → String
  | .missingSemicolon => "Il manque un point-virgule (;) à la fin de cette ligne!"
  | .unknownPin digits => s!"pin{String.ofList digits} n'existe pas!"
  | .pinNotDeclared pin => s!"{pin.name} n'a pas été déclaré!"
  | .malformedPinCommand =>
      "Commande incorrecte! Utilise \"pinX_allumé;\" ou \"pinX_éteint;\""
  | .unknownPinSyntax => "Syntaxe incorrecte!"
  | .invalidStatement => "Cette ligne n'est pas du code valide!"
  | .undeclaredVariable name => s!"La variable \"{String.ofList name}\" n'existe pas!"
  | .invalidCondition =>
      "Condition incorrecte! Utilise \"si (variable == valeur) alors \x7b\""
  | .unclosedBlock => "Il manque une accolade fermante \x7d pour ce bloc!"
  | .emptyProgram => "Le code est vide!"

/-- A fault and the line that raised it, counted from zero. -/
structure Failure where
  line : Nat
  fault : Fault
deriving DecidableEq, Repr

namespace Failure

/-- The note shown on the line itself. -/
def message (f : Failure) : String :=
  "Erreur: " ++ f.fault.message

/-- The note shown away from the source, where lines count from one. -/
def report (f : Failure) : String :=
  s!"ligne {f.line + 1}: {f.fault.message}"

end Failure

end Breadboard
