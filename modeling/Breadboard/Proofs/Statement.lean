import Mathlib.Data.List.DropRight
import Breadboard.Statement

/-!
What the statement of a line says about its text. The rules are tried in a fixed order, and all but
the last few ask for something that is plain to see: nothing at all, a keyword, a single brace, two
slashes, or a brace at the end of a condition. A line that none of these rules fits is an
instruction, and only then does it matter whether it ends in a semicolon.
-/

namespace Breadboard

namespace Statement

/-- The statements that only lines with a semicolon, or without the one they need, can have. -/
def isInstruction : Statement → Bool
  | .blank | .comment | .setup | .loop | .brace _ | .conditional _ => false
  | _ => true

private theorem assignment?_eq_some {body : Text} {statement : Statement}
    (h : assignment? body = some statement) :
    ∃ name type value, statement = .assign name type value := by
  obtain ⟨⟨left, found, right⟩, _, h⟩ := Option.bind_eq_some_iff.mp h
  obtain ⟨_, _, h⟩ := Option.bind_eq_some_iff.mp h
  obtain ⟨⟨name, type⟩, _, h⟩ := Option.bind_eq_some_iff.mp h
  cases h
  exact ⟨name, type, right.trim, rfl⟩

private theorem isInstruction_ofPinLine (folded : Text) :
    (ofPinLine folded).isInstruction = true := by
  unfold ofPinLine
  split
  · rfl
  split
  · rfl
  split
  · rfl
  split
  · rfl
  split <;> rfl

/-- No rule fits the line that does not care for a semicolon. -/
structure IsInstruction (line : Text) : Prop where
  nonempty : line ≠ []
  notSetup : line.asciiLower.holds "void setup".toList = false
  notLoop : line.asciiLower.holds "void loop".toList = false
  notOpening : line ≠ ['{']
  notClosing : line ≠ ['}']
  notComment : "//".toList.isPrefixOf line = false
  notConditional : condition? line = none

theorem IsInstruction.ofTrimmed_eq {line : Text} (h : IsInstruction line) :
    ofTrimmed line =
      match line.dropEnd? [';'] with
      | none => .missingSemicolon
      | some body =>
          if line.contains '=' then (assignment? body).getD .invalid
          else ofPinLine (fold line) := by
  unfold ofTrimmed
  rw [if_neg (by simpa using h.nonempty), h.notSetup, h.notLoop, if_neg h.notOpening,
    if_neg h.notClosing, h.notComment, h.notConditional]
  rfl

/-- What the line is if it is no instruction. -/
inductive Recognised (line : Text) : Statement → Prop where
  | blank (hempty : line = []) : Recognised line .blank
  | setup (hkeyword : line.asciiLower.holds "void setup".toList = true) : Recognised line .setup
  | loop (hkeyword : line.asciiLower.holds "void loop".toList = true) : Recognised line .loop
  | opening (hbrace : line = ['{']) : Recognised line (.brace .opening)
  | closing (hbrace : line = ['}']) : Recognised line (.brace .closing)
  | comment (hslashes : "//".toList.isPrefixOf line = true) : Recognised line .comment
  | conditional (condition : Text) (hcondition : condition? line = some condition) :
      Recognised line (.conditional condition)

theorem recognised_or_isInstruction (line : Text) :
    Recognised line (ofTrimmed line) ∨ IsInstruction line := by
  by_cases hempty : line = []
  · subst hempty
    exact .inl (.blank rfl)
  unfold ofTrimmed
  rw [if_neg (by simpa using hempty)]
  split
  · next hsetup => exact .inl (.setup hsetup)
  split
  · next hloop => exact .inl (.loop hloop)
  split
  · next hopening => exact .inl (.opening hopening)
  split
  · next hclosing => exact .inl (.closing hclosing)
  split
  · next hcomment => exact .inl (.comment hcomment)
  next hsetup hloop hopening hclosing hcomment =>
  split
  · next condition hcondition => exact .inl (.conditional condition hcondition)
  · next hnone =>
    exact .inr ⟨hempty, Bool.eq_false_iff.mpr hsetup, Bool.eq_false_iff.mpr hloop, hopening,
      hclosing, Bool.eq_false_iff.mpr hcomment, hnone⟩

theorem IsInstruction.isInstruction_ofTrimmed {line : Text} (h : IsInstruction line) :
    (ofTrimmed line).isInstruction = true := by
  rw [h.ofTrimmed_eq]
  split
  · rfl
  split
  · next body _ _ =>
    cases hread : assignment? body with
    | none => rfl
    | some statement =>
        obtain ⟨name, type, value, rfl⟩ := assignment?_eq_some hread
        rfl
  · exact isInstruction_ofPinLine _

/-- What is no instruction was recognised by the rule for it. -/
theorem recognised_of_isInstruction_eq_false {line : Text}
    (h : (ofTrimmed line).isInstruction = false) : Recognised line (ofTrimmed line) := by
  rcases recognised_or_isInstruction line with hrecognised | hinstruction
  · exact hrecognised
  · rw [hinstruction.isInstruction_ofTrimmed] at h
    cases h

/-- Only a line with nothing on it is blank. -/
theorem ofTrimmed_eq_blank_iff {line : Text} : ofTrimmed line = .blank ↔ line = [] := by
  constructor
  · intro hblank
    have hrecognised : Recognised line (ofTrimmed line) :=
      recognised_of_isInstruction_eq_false (by rw [hblank]; rfl)
    rw [hblank] at hrecognised
    cases hrecognised with
    | blank hempty => exact hempty
  · rintro rfl
    rfl

theorem condition?_of_ofTrimmed {line condition : Text}
    (h : ofTrimmed line = .conditional condition) : condition? line = some condition := by
  have hrecognised : Recognised line (ofTrimmed line) :=
    recognised_of_isInstruction_eq_false (by rw [h]; rfl)
  rw [h] at hrecognised
  cases hrecognised with
  | conditional _ hcondition => exact hcondition

end Statement

theorem Text.trim_eq_nil_iff {t : Text} : t.trim = [] ↔ ∀ c ∈ t, isBlank c = true := by
  change (t.dropWhile isBlank).rdropWhile isBlank = [] ↔ _
  rw [List.rdropWhile_eq_nil_iff]
  constructor
  · intro hrest c hc
    rw [← List.takeWhile_append_dropWhile (p := isBlank) (l := t)] at hc
    rcases List.mem_append.mp hc with hstart | hend
    · exact List.mem_takeWhile_imp hstart
    · exact hrest c hend
  · intro hall c hc
    exact hall c ((List.dropWhile_sublist isBlank).subset hc)

theorem Statement.ofLine_eq_blank_iff {line : Text} :
    ofLine line = .blank ↔ ∀ c ∈ line, Text.isBlank c = true :=
  ofTrimmed_eq_blank_iff.trans Text.trim_eq_nil_iff

end Breadboard
