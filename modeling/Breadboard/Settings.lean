import Breadboard.Event
import Breadboard.Json.Reader

/-!
Settings of a lesson. A document may change any part of them and leave the rest at the standard.
-/

namespace Breadboard

structure Settings where
  timing : Timing := .standard
  /-- Whether the learner's loop repeats until it is stopped. -/
  looping : Bool := true
deriving DecidableEq, Repr

inductive SettingsError where
  | unreadable (reason : String)
  | malformed
deriving DecidableEq, Repr

def SettingsError.message : SettingsError → String
  | .unreadable reason => "cannot read settings file: " ++ reason
  | .malformed => "invalid settings file"

def Timing.ofJson? (json : Json) : Option Timing := do
  let milliseconds? (standard : Nat) := Json.orDefault? standard (Json.nat? (Nat.pow 2 64))
  match ← json.fields? ["line_highlight_ms".toList, "short_pause_ms".toList,
      "medium_pause_ms".toList, "loop_pause_ms".toList, "skip_pause_ms".toList] with
  | [highlight, short, medium, loop, skip] =>
      let highlight ← milliseconds? Timing.standard.highlight highlight
      let short ← milliseconds? Timing.standard.short short
      let medium ← milliseconds? Timing.standard.medium medium
      let loop ← milliseconds? Timing.standard.loop loop
      let skip ← milliseconds? Timing.standard.skip skip
      return { highlight, short, medium, loop, skip }
  | _ => none

namespace Settings

def ofJson? (json : Json) : Option Settings := do
  match ← json.fields? ["timing".toList, "looping".toList] with
  | [timing, looping] =>
      let timing ← Json.orDefault? Timing.standard Timing.ofJson? timing
      let looping ← Json.orDefault? true Json.bool? looping
      return { timing, looping }
  | _ => none

def parse (document : Text) : Except SettingsError Settings :=
  match (Json.parse? document).bind ofJson? with
  | none => .error .malformed
  | some settings => .ok settings

def ofFile : Except String Text → Except SettingsError Settings
  | .error reason => .error (.unreadable reason)
  | .ok document => parse document

end Settings

end Breadboard
