import Breadboard.Text.Basic

/-!
The command line: two options with a file each, and at most one program.
-/

namespace Breadboard

structure Arguments where
  config : Option String := none
  content : Option String := none
  program : Option String := none
deriving DecidableEq, Repr

inductive ArgumentError where
  | missingFile (option : String)
  | unknownOption (option : String)
  | unexpected (argument : String)
deriving DecidableEq, Repr

def ArgumentError.message : ArgumentError → String
  | .missingFile option => s!"{option} needs a file"
  | .unknownOption option => s!"unknown option '{option}'"
  | .unexpected argument => s!"unexpected argument '{argument}'"

namespace Arguments

/-- The file of an option is taken as it is, even if it looks like an option. A later file of the
same option wins. -/
def parseFrom (a : Arguments) : List String → Except ArgumentError Arguments
  | [] => .ok a
  | argument :: rest =>
      if argument = "--config" then
        match rest with
        | [] => .error (.missingFile argument)
        | file :: rest => parseFrom { a with config := some file } rest
      else if argument = "--content" then
        match rest with
        | [] => .error (.missingFile argument)
        | file :: rest => parseFrom { a with content := some file } rest
      else if "--".toList.isPrefixOf argument.toList then .error (.unknownOption argument)
      else if a.program.isSome then .error (.unexpected argument)
      else parseFrom { a with program := some argument } rest

/-- The arguments behind the name of the program. -/
def parse (arguments : List String) : Except ArgumentError Arguments :=
  parseFrom {} arguments

def usage (programName : String) : List String :=
  [ s!"Usage: {programName} [--config settings.json] [--content course.json] [program.pin]",
    "",
    "Examples:",
    s!"  {programName} mon_code.pin                       " ++
      "# Write your code, check it against the exercise",
    s!"  {programName} --config rapide.json mon_code.pin  # Custom timing" ]

end Arguments

end Breadboard
