import Breadboard.Program
import Breadboard.Proofs.Statement
import Breadboard.Proofs.Text.Pieces

/-!
Lines that lose their semicolon. A line that assigns a value, declares a pin or switches one has a
character in it that no other kind of line is made of: an equals sign, or the first letter of `pin`.
What is left of it without its semicolons begins in the same way and still has that character. So it
is none of the lines that need no semicolon, and with none at its end it is at fault for just that.
-/

namespace Breadboard

namespace Text

def isSemicolonOrBlank (c : Char) : Bool :=
  c == ';' || isBlank c

/-- The line without the semicolons and blanks at its end. -/
def withoutSemicolon (line : Text) : Text :=
  line.rdropWhile isSemicolonOrBlank

example : withoutSemicolon " x = 1; ; ".toList = " x = 1".toList := by decide

theorem isSemicolonOrBlank_of_isBlank {c : Char} (h : isBlank c = true) :
    isSemicolonOrBlank c = true := by
  simp [isSemicolonOrBlank, h]

/-- The two ends of a line do not meet: what is dropped at one does not depend on the other. -/
private theorem trimStart_withoutSemicolon (t : Text) :
    t.withoutSemicolon.trimStart = t.trimStart.withoutSemicolon := by
  unfold trimStart withoutSemicolon
  induction t using List.reverseRecOn with
  | nil => rfl
  | append_singleton init c ih =>
      by_cases hc : isSemicolonOrBlank c = true
      · rw [List.rdropWhile_concat_pos _ _ _ hc, ih, List.dropWhile_append]
        split
        · next hempty =>
          have hnone : ([c].dropWhile isBlank).rdropWhile isSemicolonOrBlank = [] := by
            rw [List.rdropWhile_eq_nil_iff]
            intro d hd
            cases List.mem_singleton.mp ((List.dropWhile_sublist isBlank).subset hd)
            exact hc
          rw [List.isEmpty_iff.mp hempty, hnone, List.rdropWhile_nil]
        · rw [List.rdropWhile_concat_pos _ _ _ hc]
      · have hblank : ¬isBlank c = true := fun h => hc (isSemicolonOrBlank_of_isBlank h)
        have hkept : [c].dropWhile isBlank = [] ++ [c] := by simp [hblank]
        rw [List.rdropWhile_concat_neg _ _ _ hc, List.dropWhile_append, hkept]
        split <;> rw [List.rdropWhile_concat_neg _ _ _ hc]

private theorem trimEnd_withoutSemicolon (t : Text) :
    t.withoutSemicolon.trimEnd = t.withoutSemicolon := by
  change t.withoutSemicolon.rdropWhile isBlank = t.withoutSemicolon
  rw [List.rdropWhile_eq_self_iff]
  intro hne hblank
  exact List.rdropWhile_last_not _ _ hne (isSemicolonOrBlank_of_isBlank hblank)

private theorem withoutSemicolon_trimEnd (t : Text) :
    t.trimEnd.withoutSemicolon = t.withoutSemicolon := by
  change (t.rdropWhile isBlank).rdropWhile isSemicolonOrBlank = t.rdropWhile isSemicolonOrBlank
  induction t using List.reverseRecOn with
  | nil => rfl
  | append_singleton init c ih =>
      by_cases hc : isBlank c = true
      · rw [List.rdropWhile_concat_pos _ _ _ hc, ih,
          List.rdropWhile_concat_pos _ _ _ (isSemicolonOrBlank_of_isBlank hc)]
      · rw [List.rdropWhile_concat_neg _ _ _ hc]

theorem trim_withoutSemicolon (t : Text) : t.withoutSemicolon.trim = t.trim.withoutSemicolon := by
  rw [trim, trimStart_withoutSemicolon, trimEnd_withoutSemicolon, trim, withoutSemicolon_trimEnd]

theorem withoutSemicolon_isPrefix (t : Text) : t.withoutSemicolon <+: t :=
  List.rdropWhile_prefix _ _

theorem trim_withoutSemicolon_suffix (t : Text) :
    t.withoutSemicolon.trim <:+ t.withoutSemicolon := by
  rw [trim, trimStart_withoutSemicolon, trimEnd_withoutSemicolon, ← trimStart_withoutSemicolon]
  exact List.dropWhile_suffix _

/-- No run of capitals has this letter among its small letters, although a few lead to others of
A to Z. -/
private theorem p_outside_capitalRuns :
    ∀ run ∈ capitalRuns, ('p'.toNat : Int) < run.1 + run.2.2.2 ∨
      (run.2.1 : Int) + run.2.2.2 < 'p'.toNat := by
  decide +kernel

private theorem add_lowerDistance_ne {n : Nat} (hn : 0x80 ≤ n) :
    (n : Int) + lowerDistance n ≠ 'p'.toNat := by
  unfold lowerDistance
  split
  · next first last stride distance hfind =>
    have hrun : ('p'.toNat : Int) < first + distance ∨ (last : Int) + distance < 'p'.toNat :=
      p_outside_capitalRuns _ (List.mem_of_find?_eq_some hfind)
    have hwithin := List.find?_some hfind
    simp only [Bool.and_eq_true, decide_eq_true_eq] at hwithin
    omega
  · change (n : Int) + 0 ≠ 112
    omega

private theorem toNat_ofNat_eq {n : Nat} (h : Char.ofNat n = 'p') : n = 'p'.toNat := by
  by_cases hvalid : n.isValidChar
  · have hchar : Char.ofNat n = Char.ofNatAux n hvalid := dif_pos hvalid
    rw [hchar] at h
    exact congrArg Char.toNat h
  · have hchar : Char.ofNat n = Char.ofNat 0 := dif_neg hvalid
    rw [hchar] at h
    exact absurd h (by decide)

/-- The letter comes from itself or from its capital. -/
theorem eq_of_p_mem_lowerChar {c : Char} (h : 'p' ∈ lowerChar c) : c = 'p' ∨ c = 'P' := by
  unfold lowerChar at h
  split at h
  · have hlower : c.toLower = 'p' := (List.mem_singleton.mp h).symm
    unfold Char.toLower at hlower
    split at hlower
    · have hval : c.val + 32 = 112 := congrArg Char.val hlower
      have hupper : c.val = 112 - 32 := by rw [← hval, UInt32.add_sub_cancel]
      exact .inr (Char.ext hupper)
    · exact .inl hlower
  · next hascii =>
    split at h
    · exact absurd h (by decide)
    · have hnumber := toNat_ofNat_eq (List.mem_singleton.mp h).symm
      have hother := add_lowerDistance_ne (Nat.le_of_not_lt hascii)
      have hp : 'p'.toNat = 112 := rfl
      omega

theorem holds_iff_infix {t part : Text} : t.holds part = true ↔ part <:+: t := by
  induction t with
  | nil => simp [holds]
  | cons c rest ih =>
      rw [holds, Bool.or_eq_true, ih, List.isPrefixOf_iff_prefix, List.infix_cons_iff]

theorem getLast?_of_dropEnd? {t rest : Text} {c : Char} (h : t.dropEnd? [c] = some rest) :
    t.getLast? = some c := by
  rw [dropEnd?_eq_some_iff.mp h]
  exact List.getLast?_concat

end Text

namespace Statement

/-- Assigns a value, declares a pin or switches one. -/
def isCommand : Statement → Bool
  | .assign _ _ _ | .declare _ | .switch _ _ => true
  | _ => false

private theorem p_mem_of_starts {folded : Text} (h : "pin".toList <+: folded) : 'p' ∈ folded :=
  h.subset List.mem_cons_self

private theorem p_mem_of_pinSites {folded : Text} {site : Text × Text}
    (h : site ∈ pinSites folded) : 'p' ∈ folded := by
  induction folded with
  | nil => cases h
  | cons c rest ih =>
      rw [pinSites] at h
      split at h
      · next after hpin => exact p_mem_of_starts ⟨_, (Text.dropStart?_eq_some_iff.mp hpin).symm⟩
      · exact List.mem_cons_of_mem _ (ih h)

private theorem p_mem_of_actionPin? {action folded digits : Text}
    (h : actionPin? action folded = some digits) : 'p' ∈ folded := by
  obtain ⟨site, hsite, _⟩ := List.exists_of_findSome?_eq_some h
  exact p_mem_of_pinSites hsite

private theorem p_mem_of_ofPinLine {folded : Text} (h : (ofPinLine folded).isCommand = true) :
    'p' ∈ folded := by
  unfold ofPinLine at h
  split at h
  · next digits hdeclared =>
    obtain ⟨rest, hpin, _⟩ := Option.bind_eq_some_iff.mp hdeclared
    exact p_mem_of_starts ⟨_, (Text.dropStart?_eq_some_iff.mp hpin).symm⟩
  split at h
  · next digits hon => exact p_mem_of_actionPin? hon
  split at h
  · next digits hoff => exact p_mem_of_actionPin? hoff
  split at h
  · cases h
  split at h <;> cases h

private theorem exists_p_of_fold {line : Text} (h : 'p' ∈ fold line) :
    ∃ c ∈ line, c = 'p' ∨ c = 'P' := by
  obtain ⟨d, hlower, hd⟩ := List.mem_map.mp h
  obtain ⟨c, hc, hdc⟩ := List.mem_flatMap.mp hlower
  refine ⟨c, hc, Text.eq_of_p_mem_lowerChar ?_⟩
  split at hd
  · exact absurd hd (by decide)
  · exact hd ▸ hdc

/-- A command has a character that other lines need not have. -/
theorem isInstruction_of_isCommand {line : Text} (h : (ofTrimmed line).isCommand = true) :
    IsInstruction line ∧ ∃ c ∈ line, c = '=' ∨ c = 'p' ∨ c = 'P' := by
  rcases recognised_or_isInstruction line with hrecognised | hinstruction
  · cases hstatement : ofTrimmed line with
    | assign name type value => rw [hstatement] at hrecognised; cases hrecognised
    | declare digits => rw [hstatement] at hrecognised; cases hrecognised
    | switch digits on => rw [hstatement] at hrecognised; cases hrecognised
    | _ => rw [hstatement] at h; cases h
  · refine ⟨hinstruction, ?_⟩
    rw [hinstruction.ofTrimmed_eq] at h
    split at h
    · cases h
    split at h
    · next hequals => exact ⟨'=', by simpa using hequals, .inl rfl⟩
    · obtain ⟨c, hc, hp⟩ := exists_p_of_fold (p_mem_of_ofPinLine h)
      exact ⟨c, hc, .inr hp⟩

/-- A condition ends in a brace. -/
theorem getLast?_of_condition? {line condition : Text} (h : condition? line = some condition) :
    line.getLast? = some '{' := by
  obtain ⟨rest, hkeyword, h⟩ := Option.bind_eq_some_iff.mp h
  obtain ⟨_, _, h⟩ := Option.bind_eq_some_iff.mp h
  obtain ⟨inner, hopening, h⟩ := Option.bind_eq_some_iff.mp h
  obtain ⟨body, hbrace, _⟩ := Option.bind_eq_some_iff.mp h
  obtain ⟨keyword, hline, _⟩ := Text.dropKeyword?_eq_some_iff.mp hkeyword
  have hinner : inner <:+ rest.trimStart := ⟨_, (Text.dropStart?_eq_some_iff.mp hopening).symm⟩
  have hsuffix : inner <:+ line :=
    (hinner.trans (List.dropWhile_suffix _)).trans ⟨keyword, hline.symm⟩
  obtain ⟨start, rfl⟩ := hsuffix
  rw [List.getLast?_append, Text.getLast?_of_dropEnd? hbrace]
  rfl

/-- What is left of an instruction is one, unless it is a brace or could be a condition. -/
theorem IsInstruction.of_start {line kept : Text} (h : IsInstruction line)
    (hstart : kept <+: line) (hbrace : kept.getLast? ≠ some '{') (hclosing : kept ≠ ['}'])
    (hne : kept ≠ []) : IsInstruction kept := by
  have hlower : kept.asciiLower <+: line.asciiLower := hstart.map Char.toLower
  have hkeyword (keyword : Text) (hline : line.asciiLower.holds keyword = false) :
      kept.asciiLower.holds keyword = false := by
    rw [Bool.eq_false_iff, ne_eq, Text.holds_iff_infix] at hline ⊢
    intro hkept
    exact hline (hkept.trans hlower.isInfix)
  refine ⟨hne, hkeyword _ h.notSetup, hkeyword _ h.notLoop, ?_, hclosing, ?_, ?_⟩
  · rintro rfl
    exact hbrace rfl
  · have hslashes := h.notComment
    rw [Bool.eq_false_iff, ne_eq, List.isPrefixOf_iff_prefix] at hslashes ⊢
    intro hkept
    exact hslashes (hkept.trans hstart)
  · rw [Option.eq_none_iff_forall_ne_some]
    intro condition hcondition
    exact hbrace (getLast?_of_condition? hcondition)

/-- A command without its semicolon is at fault for that and nothing else. -/
theorem ofTrimmed_withoutSemicolon {line : Text} (h : (ofTrimmed line).isCommand = true)
    (hbrace : line.withoutSemicolon.getLast? ≠ some '{') :
    line.withoutSemicolon ≠ [] ∧ ofTrimmed line.withoutSemicolon = .missingSemicolon := by
  obtain ⟨hinstruction, c, hc, hletter⟩ := isInstruction_of_isCommand h
  have hkept : c ∈ line.withoutSemicolon := by
    rw [← List.rdropWhile_append_rtakeWhile (p := Text.isSemicolonOrBlank) (l := line)] at hc
    rcases List.mem_append.mp hc with hkept | hdropped
    · exact hkept
    · have hends := List.mem_rtakeWhile_imp hdropped
      rcases hletter with rfl | rfl | rfl
      · exact absurd hends (by decide)
      · exact absurd hends (by decide)
      · exact absurd hends (by decide)
  have hne : line.withoutSemicolon ≠ [] := List.ne_nil_of_mem hkept
  have hclosing : line.withoutSemicolon ≠ ['}'] := by
    intro hbrace
    rw [hbrace, List.mem_singleton] at hkept
    rw [hkept] at hletter
    exact absurd hletter (by decide)
  have hshort : IsInstruction line.withoutSemicolon :=
    hinstruction.of_start line.withoutSemicolon_isPrefix hbrace hclosing hne
  have hlast : line.withoutSemicolon.dropEnd? [';'] = none := by
    rw [Option.eq_none_iff_forall_ne_some]
    intro body hbody
    have hsemicolon := Text.getLast?_of_dropEnd? hbody
    rw [List.getLast?_eq_some_getLast hne, Option.some.injEq] at hsemicolon
    exact List.rdropWhile_last_not _ _ hne (hsemicolon ▸ rfl)
  refine ⟨hne, ?_⟩
  rw [hshort.ofTrimmed_eq, hlast]

end Statement

/-- A line that loses its semicolon is at fault for that, and headers wait for their block on it as
they did before. -/
theorem Line.ofText_withoutSemicolon {line : Text} (h : (Statement.ofLine line).isCommand = true)
    (hbrace : line.withoutSemicolon.getLast? ≠ some '{') :
    line.withoutSemicolon ≠ [] ∧
      (Line.ofText line.withoutSemicolon).statement = .missingSemicolon ∧
      (Line.ofText line.withoutSemicolon).keepsWaiting = (Line.ofText line).keepsWaiting := by
  have htrimmed : line.trim.withoutSemicolon.getLast? ≠ some '{' := by
    rw [← Text.trim_withoutSemicolon]
    intro hlast
    obtain ⟨start, hstart⟩ := Text.trim_withoutSemicolon_suffix line
    rw [← hstart, List.getLast?_append, hlast] at hbrace
    exact hbrace rfl
  obtain ⟨hne, hmissing⟩ := Statement.ofTrimmed_withoutSemicolon h htrimmed
  have htext : (Line.ofText line.withoutSemicolon).text = line.trim.withoutSemicolon :=
    Text.trim_withoutSemicolon line
  refine ⟨?_, ?_, ?_⟩
  · intro hempty
    rw [← Text.trim_withoutSemicolon, hempty] at hne
    exact hne rfl
  · rw [← hmissing, ← Text.trim_withoutSemicolon]
    rfl
  · obtain ⟨dropped, hdropped⟩ := line.trim.withoutSemicolon_isPrefix
    have hwhole : (Line.ofText line).text = line.trim.withoutSemicolon ++ dropped := hdropped.symm
    obtain ⟨c, rest, hkept⟩ := List.exists_cons_of_ne_nil hne
    simp only [Line.keepsWaiting, htext, hwhole, hkept]
    rfl

end Breadboard
