import Breadboard.Proofs.Statement.Grammar
import Breadboard.Proofs.Text.Letters

/-!
Statements in print. A statement that keeps a part of its line, be it a name, a value, a condition
or a number, is printed in the way it is usually written, and the printed line is read as that
statement again. The rules for a line are tried in order, so each rule that comes earlier has to be
ruled out. Most of them ask for something at one of the ends of the line, and there the printer
writes nothing of its own choice. The keyword of a section is the exception: it counts anywhere, and
a value or a condition that holds it turns its line into a section header. But a line that was read
as an assignment or a condition holds no such keyword, and printing puts none together.
-/

namespace Breadboard

namespace Text

section Infix

variable {part front back : Text}

theorem eq_nil_of_starts_cons {c : Char} (hc : c ∉ part) (h : part <+: c :: back) : part = [] := by
  rcases List.prefix_cons_iff.mp h with hnil | ⟨rest, rfl, _⟩
  · exact hnil
  · exact absurd List.mem_cons_self hc

/-- A part without this character stands in front of it or behind it. -/
theorem infix_append_cons_iff {c : Char} (hc : c ∉ part) :
    part <:+: front ++ c :: back ↔ part <:+: front ∨ part <:+: back := by
  constructor
  · intro h
    rcases List.infix_append_iff.mp h with hfront | hback | ⟨start, rest, rfl, hstart, hrest⟩
    · exact .inl hfront
    · rcases List.infix_cons_iff.mp hback with hfirst | hback
      · rw [eq_nil_of_starts_cons hc hfirst]
        exact .inl List.nil_infix
      · exact .inr hback
    · have hnone : rest = [] :=
        eq_nil_of_starts_cons (fun h => hc (List.mem_append_right start h)) hrest
      rw [hnone, List.append_nil]
      exact .inl hstart.isInfix
  · rintro (hfront | hback)
    · exact List.infix_append_of_infix_left hfront
    · exact List.infix_append_of_infix_right (hback.trans (List.suffix_cons c back).isInfix)

/-- Two words with a blank between them stand around the first blank of a text or behind it. -/
theorem infix_pair_cases {first second word rest : Text} (hfirst : ' ' ∉ first)
    (hword : ' ' ∉ word) (h : first ++ ' ' :: second <:+: word ++ ' ' :: rest) :
    (first <:+ word ∧ second <+: rest) ∨ first ++ ' ' :: second <:+: rest := by
  have hblank {t : Text} (ht : first ++ ' ' :: second <:+: t) : ' ' ∈ t := ht.subset (by simp)
  rcases List.infix_append_iff.mp h with hfront | hback | ⟨start, last, hcut, hstart, hlast⟩
  · exact absurd (hblank hfront) hword
  · rcases List.infix_cons_iff.mp hback with hstarts | hrest
    · cases first with
      | nil => exact .inl ⟨List.nil_suffix, (List.cons_prefix_cons.mp hstarts).2⟩
      | cons c first =>
          obtain ⟨rfl, _⟩ := List.cons_prefix_cons.mp hstarts
          exact absurd List.mem_cons_self hfirst
    · exact .inr hrest
  · rcases List.prefix_cons_iff.mp hlast with rfl | ⟨tail, rfl, htail⟩
    · rw [List.append_nil] at hcut
      exact absurd (hblank (hcut ▸ hstart.isInfix)) hword
    · have hcutAt (front back : Text) (hfront : ' ' ∉ front) :
          cutAt? (· == ' ') (front ++ ' ' :: back) = some (front, ' ', back) := by
        refine cutAt?_eq_some_iff.mpr ⟨rfl, rfl, fun c hc => ?_⟩
        rw [beq_eq_false_iff_ne]
        rintro rfl
        exact hfront hc
      have hsame := hcutAt first second hfirst
      rw [hcut, hcutAt start tail fun h => hword (hstart.subset h)] at hsame
      cases hsame
      exact .inl ⟨hstart, htail⟩

theorem trim_isInfix (t : Text) : t.trim <:+: t := by
  obtain ⟨⟨gap, gap', ht, _⟩, _⟩ := trim_eq_iff.mp (rfl : t.trim = t.trim)
  exact ⟨gap, gap', ht.symm⟩

end Infix

end Text

namespace Statement

open Text

section Section

variable {line part front back : Text}

/-- The keyword of a section stands somewhere in the line, in any case. -/
def HasSection (line : Text) : Prop :=
  "void setup".toList <:+: line.asciiLower ∨ "void loop".toList <:+: line.asciiLower

theorem hasSection_iff_holds :
    HasSection line ↔ (line.asciiLower.holds "void setup".toList ||
      line.asciiLower.holds "void loop".toList) = true := by
  rw [Bool.or_eq_true, holds_iff_infix, holds_iff_infix]
  rfl

instance (line : Text) : Decidable (HasSection line) := decidable_of_iff _ hasSection_iff_holds.symm

theorem HasSection.of_part (hpart : HasSection part) (h : part <:+: line) : HasSection line := by
  have hlower : part.asciiLower <:+: line.asciiLower := h.map Char.toLower
  exact hpart.imp (·.trans hlower) (·.trans hlower)

theorem HasSection.blank_mem (h : HasSection line) : ' ' ∈ line := by
  have hblank : ' ' ∈ line.asciiLower := by
    rcases h with hsetup | hloop
    · exact hsetup.subset (by decide)
    · exact hloop.subset (by decide)
  exact (mem_asciiLower_iff rfl).mp hblank

/-- Wherever the keyword stands, it makes the line a section header. -/
theorem HasSection.ofTrimmed_eq (h : HasSection line) :
    ofTrimmed line = .setup ∨ ofTrimmed line = .loop := by
  have hne : line ≠ [] := List.ne_nil_of_mem h.blank_mem
  unfold ofTrimmed
  rw [if_neg (by simpa using hne)]
  split
  · exact .inl rfl
  next hsetup =>
  have hloop := h.resolve_left (mt holds_iff_infix.mpr hsetup)
  rw [if_pos <| holds_iff_infix.mpr hloop]
  exact .inr rfl

/-- A character that is in neither keyword cuts a line in two. -/
theorem hasSection_append_cons_iff {c : Char}
    (hc : c.toLower ∉ "void setup".toList ++ "void loop".toList) :
    HasSection (front ++ c :: back) ↔ HasSection front ∨ HasSection back := by
  rw [List.mem_append, not_or] at hc
  have hlower : asciiLower (front ++ c :: back) =
      front.asciiLower ++ c.toLower :: back.asciiLower := asciiLower_append front (c :: back)
  simp only [HasSection, hlower, infix_append_cons_iff hc.1, infix_append_cons_iff hc.2]
  exact or_or_or_comm

theorem hasSection_blank_cons_iff : HasSection (' ' :: line) ↔ HasSection line := by
  constructor
  · rintro (hsetup | hloop)
    · rcases List.infix_cons_iff.mp hsetup with hstarts | hrest
      · exact absurd (List.cons_prefix_cons.mp hstarts).1 (by decide)
      · exact .inl hrest
    · rcases List.infix_cons_iff.mp hloop with hstarts | hrest
      · exact absurd (List.cons_prefix_cons.mp hstarts).1 (by decide)
      · exact .inr hrest
  · intro h
    exact h.of_part (List.suffix_cons ' ' line).isInfix

end Section

/-- The type in front of a name, with a blank behind it. -/
def typeFront : ValueType → Text
  | .untyped => []
  | type => type.label.toList ++ [' ']

/-- `type name = value;` or `name = value;` -/
def printAssign (name : Text) (type : ValueType) (value : Text) : Text :=
  typeFront type ++ name ++ " = ".toList ++ value ++ [';']

theorem printAssign_eq (name : Text) (type : ValueType) (value : Text) :
    printAssign name type value = typeFront type ++ name ++ " = ".toList ++ value ++ [';'] :=
  rfl

/-- `si (condition) alors {` -/
def printConditional (condition : Text) : Text :=
  "si (".toList ++ condition ++ ") alors \x7b".toList

theorem printConditional_eq (condition : Text) :
    printConditional condition = "si (".toList ++ condition ++ ") alors \x7b".toList :=
  rfl

/-- `pinN;`, or `pinN_action;` if `tail` is the action with its underscore. -/
def printPin (digits tail : Text) : Text :=
  "pin".toList ++ digits ++ tail ++ [';']

theorem printPin_eq (digits tail : Text) :
    printPin digits tail = "pin".toList ++ digits ++ tail ++ [';'] :=
  rfl

/-- The line that a statement is usually written on, if it keeps anything of its line. -/
def print? : Statement → Option Text
  | .assign name type value => some (printAssign name type value)
  | .conditional condition => some (printConditional condition)
  | .declare digits => some (printPin digits [])
  | .switch digits true => some (printPin digits "_allumé".toList)
  | .switch digits false => some (printPin digits "_éteint".toList)
  | _ => none

/-- What a statement needs for its printed line to be read as that statement, sections aside. -/
def IsProper : Statement → Prop
  | .assign name _ value =>
      name.isName = true ∧ value ≠ [] ∧ IsTrimmed value ∧ value.head? ≠ some '='
  | .conditional condition => IsTrimmed condition
  | .declare digits | .switch digits _ => IsNumber digits
  | _ => True

section Semicolon

variable {c : Char} {rest : Text}

/-- A line that begins like a name and ends in a semicolon is an instruction. -/
theorem isInstruction_of_semicolon (hc : isNameChar c = true)
    (hsection : ¬HasSection (c :: rest ++ [';'])) : IsInstruction (c :: rest ++ [';']) := by
  rw [hasSection_iff_holds, Bool.or_eq_true, not_or, Bool.not_eq_true, Bool.not_eq_true]
    at hsection
  refine ⟨by simp, hsection.1, hsection.2, by simp, by simp, ?_, ?_⟩
  · rw [Bool.eq_false_iff, ne_eq, List.isPrefixOf_iff_prefix]
    intro hslashes
    obtain ⟨rfl, _⟩ := List.cons_prefix_cons.mp hslashes
    exact absurd hc (by decide)
  · rw [Option.eq_none_iff_forall_ne_some]
    intro condition hcondition
    have hlast := getLast?_of_condition? hcondition
    rw [List.getLast?_concat] at hlast
    cases hlast

theorem ofLine_of_semicolon (hc : isNameChar c = true)
    (hsection : ¬HasSection (c :: rest ++ [';'])) :
    ofLine (c :: rest ++ [';']) =
      if '=' ∈ c :: rest then (assignment? (c :: rest)).getD .invalid
      else ofPinLine (fold (c :: rest ++ [';'])) := by
  have htrimmed := isTrimmed_between (isBlank_of_isNameChar hc) (rfl : isBlank ';' = false) rest
  have hbody : dropEnd? (c :: rest ++ [';']) [';'] = some (c :: rest) :=
    dropEnd?_eq_some_iff.mpr rfl
  have hequals : (c :: rest ++ [';']).contains '=' = true ↔ '=' ∈ c :: rest := by
    simp
  rw [ofLine, htrimmed.trim_eq, (isInstruction_of_semicolon hc hsection).ofTrimmed_eq, hbody]
  simp only [hequals]

end Semicolon

section Assign

variable {name value : Text} {type : ValueType}

theorem blank_notMem_asciiLower_of_isName (h : name.isName = true) : ' ' ∉ name.asciiLower := by
  rw [mem_asciiLower_iff rfl]
  intro hblank
  exact absurd (isNameChar_of_isName h ' ' hblank) (by decide)

/-- The word for a type is a small word of letters, and no part of a section keyword. -/
theorem typeFront_of_typed (h : type ≠ .untyped) :
    typeFront type = type.label.toList ++ [' '] ∧
      asciiLower type.label.toList = type.label.toList ∧ ' ' ∉ type.label.toList ∧
      ¬"void".toList <:+ type.label.toList := by
  cases type with
  | untyped => exact absurd rfl h
  | _ => exact ⟨rfl, by decide, by decide, by decide⟩

theorem isTarget_print (name : Text) (type : ValueType) :
    IsTarget (typeFront type ++ name ++ [' ']) name type := by
  have hblank : IsGap [' '] := by decide
  by_cases htype : type = .untyped
  · subst htype
    exact .untyped [' '] rfl hblank
  · obtain ⟨hfront, hlower, _⟩ := typeFront_of_typed htype
    rw [hfront]
    exact .typed type _ [' '] [' '] rfl htype hlower (by simp) hblank hblank

/-- Neither a type nor a name completes the keyword of a section. -/
theorem not_infix_target (second : Text) (hsecond : second ≠ []) (type : ValueType)
    (h : name.isName = true) :
    ¬"void".toList ++ ' ' :: second <:+: asciiLower (typeFront type ++ name ++ [' ']) := by
  have hname := blank_notMem_asciiLower_of_isName h
  have hlast : ¬"void".toList ++ ' ' :: second <:+: name.asciiLower ++ ' ' :: [] := by
    intro hkeyword
    rcases infix_pair_cases (by decide) hname hkeyword with ⟨_, hend⟩ | hnil
    · exact hsecond (List.prefix_nil.mp hend)
    · exact absurd (List.infix_nil.mp hnil) (by simp)
  intro hkeyword
  rw [List.append_assoc, asciiLower_append, asciiLower_append] at hkeyword
  by_cases htype : type = .untyped
  · subst htype
    exact hlast hkeyword
  · obtain ⟨hfront, hlower, hlabel, hvoid⟩ := typeFront_of_typed htype
    rw [hfront, asciiLower_append, hlower, List.append_assoc] at hkeyword
    rcases infix_pair_cases (by decide) hlabel hkeyword with ⟨hend, _⟩ | hrest
    · exact hvoid hend
    · exact hlast hrest

/-- Only its value can make an assignment a section header. -/
theorem hasSection_printAssign_iff (h : name.isName = true) :
    HasSection (printAssign name type value) ↔ HasSection value := by
  have htarget : ¬HasSection (typeFront type ++ name ++ [' ']) := by
    rintro (hsetup | hloop)
    · exact not_infix_target "setup".toList (by decide) type h hsetup
    · exact not_infix_target "loop".toList (by decide) type h hloop
  have hline : printAssign name type value =
      (typeFront type ++ name ++ [' ']) ++ '=' :: (' ' :: value ++ [';']) := by
    simp [printAssign_eq]
  have hright : HasSection (' ' :: value ++ [';']) ↔ HasSection value := by
    rw [hasSection_append_cons_iff (by decide), hasSection_blank_cons_iff]
    exact or_iff_left (by decide)
  rw [hline, ← hright]
  exact (hasSection_append_cons_iff (by decide)).trans (or_iff_right htarget)

theorem exists_cons_target (type : ValueType) (h : name.isName = true) :
    ∃ c rest, typeFront type ++ name = c :: rest ∧ isNameChar c = true := by
  cases type with
  | untyped =>
      obtain ⟨c, rest, rfl⟩ := List.exists_cons_of_ne_nil (isWord_of_isName h).nonempty
      exact ⟨c, rest, rfl, isNameChar_of_isName h c List.mem_cons_self⟩
  | _ => exact ⟨_, _, rfl, by decide⟩

theorem ofLine_printAssign (hproper : IsProper (.assign name type value))
    (hsection : ¬HasSection (printAssign name type value)) :
    ofLine (printAssign name type value) = .assign name type value := by
  obtain ⟨hname, hne, htrimmed, hsingle⟩ := hproper
  obtain ⟨c, rest, htarget, hc⟩ := exists_cons_target type hname
  have hbody : c :: (rest ++ " = ".toList ++ value) =
      typeFront type ++ name ++ [' '] ++ '=' :: ' ' :: value := by
    rw [htarget]
    simp
  have hline : printAssign name type value = c :: (rest ++ " = ".toList ++ value) ++ [';'] := by
    rw [hbody]
    simp [printAssign_eq]
  have hleft : '=' ∉ typeFront type ++ name ++ [' '] := by
    have hfront : '=' ∉ typeFront type := by cases type <;> decide
    have hword : '=' ∉ name := fun h => absurd (isNameChar_of_isName hname '=' h) (by decide)
    simp [hfront, hword]
  have hstart : ∀ d, (c :: (rest ++ " = ".toList ++ value)).head? = some d → isBlank d = false := by
    rintro d ⟨⟩
    exact isBlank_of_isNameChar hc
  have hvalue : trim (' ' :: value) = value :=
    trim_eq_iff.mpr ⟨⟨[' '], [], by simp, by decide, isGap_nil⟩, htrimmed⟩
  have hassign : IsAssignment (c :: (rest ++ " = ".toList ++ value) ++ [';']) name type value := by
    rw [hbody]
    exact ⟨⟨_, ' ' :: value, rfl, hleft, isTarget_print name type, hvalue.symm⟩, hname, hne,
      hsingle⟩
  rw [hline] at hsection ⊢
  rw [ofLine_of_semicolon hc hsection, if_pos (by simp),
    (assignment?_eq_some_iff hstart).mpr ⟨name, type, value, hassign, rfl⟩]
  rfl

end Assign

section Conditional

variable {condition : Text}

theorem hasSection_printConditional_iff :
    HasSection (printConditional condition) ↔ HasSection condition := by
  have hline : printConditional condition =
      "si ".toList ++ '(' :: (condition ++ ')' :: " alors \x7b".toList) := by
    rw [printConditional_eq, List.append_assoc]
    rfl
  have hopening : ¬HasSection "si ".toList := by decide
  have hclosing : ¬HasSection " alors \x7b".toList := by decide
  rw [hline, hasSection_append_cons_iff (by decide), hasSection_append_cons_iff (by decide),
    or_iff_right hopening, or_iff_left hclosing]

theorem isConditional_print (h : IsTrimmed condition) :
    IsConditional (printConditional condition) condition := by
  refine ⟨"si".toList, [' '], condition, [' '], "alors".toList, [' '], ?_, by decide, by decide,
    by decide, by decide, by decide, h.trim_eq.symm⟩
  simp [printConditional_eq]

theorem ofLine_printConditional (hproper : IsProper (.conditional condition))
    (hsection : ¬HasSection (printConditional condition)) :
    ofLine (printConditional condition) = .conditional condition := by
  have hline : printConditional condition =
      's' :: ("i (".toList ++ condition ++ ") alors ".toList) ++ ['{'] := by
    simp [printConditional_eq]
  have htrimmed : IsTrimmed (printConditional condition) := by
    rw [hline]
    exact isTrimmed_between rfl rfl _
  have hread := condition?_eq_some_iff.mpr (isConditional_print hproper)
  rw [ofLine, htrimmed.trim_eq]
  rcases recognised_or_isInstruction (printConditional condition) with hrecognised | hinstruction
  · generalize ofTrimmed (printConditional condition) = statement at hrecognised
    cases hrecognised with
    | blank hempty => simp [hline] at hempty
    | setup hkeyword => exact absurd (.inl <| holds_iff_infix.mp hkeyword) hsection
    | loop hkeyword => exact absurd (.inr <| holds_iff_infix.mp hkeyword) hsection
    | opening hbrace => simp [hline] at hbrace
    | closing hbrace => simp [hline] at hbrace
    | comment hslashes => simp [hline] at hslashes
    | conditional other hother =>
        cases hother.symm.trans hread
        rfl
  · cases hinstruction.notConditional.symm.trans hread

end Conditional

section Pin

variable {digits tail : Text}

theorem fold_append (front back : Text) : fold (front ++ back) = fold front ++ fold back := by
  simp [fold, lower]

private def asciiDigits : List Char :=
  (List.range' 48 10).map Char.ofNat

private theorem mem_asciiDigits {c : Char} (h : isAsciiDigit c = true) : c ∈ asciiDigits := by
  obtain ⟨hzero, hnine⟩ : '0' ≤ c ∧ c ≤ '9' := by simpa [isAsciiDigit] using h
  have hfirst : 48 ≤ c.toNat := UInt32.le_iff_toNat_le.mp hzero
  have hlast : c.toNat ≤ 57 := UInt32.le_iff_toNat_le.mp hnine
  rw [← Char.ofNat_toNat c]
  exact List.mem_map_of_mem (List.mem_range'_1.mpr ⟨hfirst, by omega⟩)

private theorem fold_of_mem_asciiDigits {c : Char} (h : c ∈ asciiDigits) : fold [c] = [c] := by
  have hall : asciiDigits.all (fun c => fold [c] == [c]) = true := by decide
  exact beq_iff_eq.mp (List.all_eq_true.mp hall c h)

theorem fold_of_digits (h : ∀ c ∈ digits, isAsciiDigit c = true) : fold digits = digits := by
  induction digits with
  | nil => rfl
  | cons c rest ih =>
      have hc := fold_of_mem_asciiDigits (mem_asciiDigits (h c List.mem_cons_self))
      have hrest := ih fun d hd => h d (List.mem_cons_of_mem c hd)
      rw [← List.singleton_append, fold_append, hc, hrest]

theorem not_mem_of_isNumber (h : IsNumber digits) {c : Char} (hc : isAsciiDigit c = false) :
    c ∉ digits := by
  intro hmem
  rw [h.digit c hmem] at hc
  cases hc

theorem not_hasSection_printPin (h : IsNumber digits) (hblank : ' ' ∉ tail) :
    ¬HasSection (printPin digits tail) := by
  intro hsection
  have hmem := hsection.blank_mem
  rw [printPin_eq, List.mem_append, List.mem_append, List.mem_append] at hmem
  rcases hmem with ((hpin | hdigits) | htail) | hend
  · exact absurd hpin (by decide)
  · exact not_mem_of_isNumber h rfl hdigits
  · exact hblank htail
  · exact absurd hend (by decide)

theorem ofLine_printPin (h : IsNumber digits) (hblank : ' ' ∉ tail) (hequals : '=' ∉ tail) :
    ofLine (printPin digits tail) = ofPinLine (printPin digits (fold tail)) := by
  have hline : printPin digits tail = 'p' :: ("in".toList ++ digits ++ tail) ++ [';'] := by
    simp [printPin_eq]
  have hsection := not_hasSection_printPin h hblank
  have hfold : fold (printPin digits tail) = printPin digits (fold tail) := by
    have hpin : fold "pin".toList = "pin".toList := by decide
    have hsemicolon : fold [';'] = [';'] := by decide
    simp only [printPin_eq, fold_append, fold_of_digits h.digit, hpin, hsemicolon]
  rw [← hfold, hline]
  rw [hline] at hsection
  rw [ofLine_of_semicolon (by decide) hsection, if_neg]
  simp [not_mem_of_isNumber h (rfl : isAsciiDigit '=' = false), hequals]

theorem isPinAt_print (h : IsNumber digits) (tail : Text) :
    IsPinAt (printPin digits tail) [] digits (tail ++ [';']) :=
  ⟨by simp [printPin_eq], h⟩

theorem ofLine_print_declare (h : IsProper (.declare digits)) :
    ofLine (printPin digits []) = .declare digits := by
  have hfold : fold [] = [] := rfl
  rw [ofLine_printPin h List.not_mem_nil List.not_mem_nil, hfold, ofPinLine,
    declaredPin?_eq_some_iff.mpr (isPinAt_print h [])]

theorem declaredPin?_print_action (action : Text) :
    declaredPin? (printPin digits ('_' :: action)) = none := by
  rw [Option.eq_none_iff_forall_ne_some]
  intro other hother
  obtain ⟨hcut, hnumber⟩ := declaredPin?_eq_some_iff.mp hother
  have hsame : "pin".toList ++ (digits ++ '_' :: action) ++ [';'] =
      "pin".toList ++ other ++ [';'] := by simpa [printPin_eq] using hcut
  obtain rfl := List.append_cancel_left (List.append_cancel_right hsame)
  cases hnumber.digit '_' (by simp)

theorem actionPin?_print_action (h : IsNumber digits) (action : Text) :
    actionPin? action (printPin digits ('_' :: action)) = some digits :=
  actionPin?_eq_some_iff.mpr ⟨[], [';'], isPinAt_print h _, fun _ _ _ _ => Nat.zero_le _⟩

/-- An action stands only in lines that have all of its letters. -/
theorem actionPin?_eq_none {action folded : Text} {c : Char} (hc : c ∈ action)
    (hfolded : c ∉ folded) : actionPin? action folded = none := by
  rw [Option.eq_none_iff_forall_ne_some]
  intro digits hfound
  obtain ⟨before, after, ⟨hcut, _⟩, _⟩ := actionPin?_eq_some_iff.mp hfound
  apply hfolded
  rw [hcut]
  simp [hc]

theorem ofLine_print_switchOn (h : IsProper (.switch digits true)) :
    ofLine (printPin digits "_allumé".toList) = .switch digits true := by
  have hfold : fold "_allumé".toList = '_' :: "allume".toList := by decide
  rw [ofLine_printPin h (by decide) (by decide), hfold, ofPinLine, declaredPin?_print_action,
    actionPin?_print_action h]

theorem ofLine_print_switchOff (h : IsProper (.switch digits false)) :
    ofLine (printPin digits "_éteint".toList) = .switch digits false := by
  have hfold : fold "_éteint".toList = '_' :: "eteint".toList := by decide
  have hletter : 'l' ∉ printPin digits ('_' :: "eteint".toList) := by
    simp [printPin_eq, not_mem_of_isNumber h (rfl : isAsciiDigit 'l' = false)]
  rw [ofLine_printPin h (by decide) (by decide), hfold, ofPinLine, declaredPin?_print_action,
    actionPin?_eq_none (by decide) hletter, actionPin?_print_action h]

end Pin

section Reading

variable {s : Statement} {text line name value condition digits : Text} {type : ValueType}
  {on : Bool}

/-- A proper statement is what its printed line is read as, unless that is a section header. -/
theorem IsProper.ofLine_print (h : s.IsProper) (hprint : s.print? = some text)
    (hsection : ¬HasSection text) : ofLine text = s := by
  cases s with
  | assign name type value =>
      cases hprint
      exact ofLine_printAssign h hsection
  | conditional condition =>
      cases hprint
      exact ofLine_printConditional h hsection
  | declare digits =>
      cases hprint
      exact ofLine_print_declare h
  | switch digits on =>
      cases on with
      | true =>
          cases hprint
          exact ofLine_print_switchOn h
      | false =>
          cases hprint
          exact ofLine_print_switchOff h
  | _ => cases hprint

theorem exists_rule (h : ofLine line = s) : ∃ rule ∈ rules, rule line.trim s := by
  obtain ⟨before, rule, after, hrules, hrule, _⟩ := (ofTrimmed_eq_iff fun _ => head?_trim).mp h
  exact ⟨rule, by simp [hrules], hrule⟩

theorem isAssignment_of_ofLine (h : ofLine line = .assign name type value) :
    IsAssignment line.trim name type value := by
  have hrule : '=' ∈ line.trim ∧ IsAssignment line.trim name type value := by
    simpa [rules, pinRules, Rule.plain] using exists_rule h
  exact hrule.2

theorem isConditional_of_ofLine (h : ofLine line = .conditional condition) :
    IsConditional line.trim condition :=
  condition?_eq_some_iff.mp (condition?_of_ofTrimmed h)

theorem isNumber_of_ofLine_declare (h : ofLine line = .declare digits) : IsNumber digits := by
  have hrule : IsPinAt (fold line.trim) [] digits [';'] := by
    simpa [rules, pinRules, Rule.plain] using exists_rule h
  exact hrule.number

theorem isNumber_of_ofLine_switch (h : ofLine line = .switch digits on) : IsNumber digits := by
  have hrule : (IsFirstAction "allume".toList (fold line.trim) digits ∧ on = true) ∨
      ((∀ other, ¬IsFirstAction "allume".toList (fold line.trim) other) ∧
        IsFirstAction "eteint".toList (fold line.trim) digits ∧ on = false) := by
    simpa [rules, pinRules, Rule.plain] using exists_rule h
  rcases hrule with ⟨⟨before, after, hpin, _⟩, _⟩ | ⟨_, ⟨before, after, hpin, _⟩, _⟩
  · exact hpin.number
  · exact hpin.number

theorem isProper_ofLine (line : Text) : (ofLine line).IsProper := by
  cases h : ofLine line with
  | assign name type value =>
      obtain ⟨⟨left, right, _, _, _, hvalue⟩, hname, hne, hsingle⟩ := isAssignment_of_ofLine h
      exact ⟨hname, hne, hvalue ▸ isTrimmed_trim right, hsingle⟩
  | conditional condition =>
      obtain ⟨_, _, inner, _, _, _, _, _, _, _, _, _, rfl⟩ := isConditional_of_ofLine h
      exact isTrimmed_trim inner
  | declare digits => exact isNumber_of_ofLine_declare h
  | switch digits on => exact isNumber_of_ofLine_switch h
  | _ => trivial

/-- Printing puts no keyword of a section together that the line did not have. -/
theorem not_hasSection_of_print (h : ofLine line = s) (hprint : s.print? = some text) :
    ¬HasSection text := by
  have hline : ¬HasSection line.trim := by
    intro hsection
    rcases hsection.ofTrimmed_eq with hsetup | hloop
    · rw [← h, ofLine, hsetup] at hprint
      cases hprint
    · rw [← h, ofLine, hloop] at hprint
      cases hprint
  have hproper : s.IsProper := h ▸ isProper_ofLine line
  intro hsection
  cases s with
  | assign name type value =>
      cases hprint
      obtain ⟨left, right, hcut, _, _, rfl⟩ := (isAssignment_of_ofLine h).cut
      apply hline
      refine ((hasSection_printAssign_iff hproper.1).mp hsection).of_part ?_
      rw [hcut]
      exact (trim_isInfix right).trans ⟨left ++ ['='], [';'], by simp⟩
  | conditional condition =>
      cases hprint
      obtain ⟨si, gap, inner, gap', alors, gap'', hcut, _, _, _, _, _, rfl⟩ :=
        isConditional_of_ofLine h
      apply hline
      refine (hasSection_printConditional_iff.mp hsection).of_part ?_
      rw [hcut]
      exact (trim_isInfix inner).trans
        ⟨si ++ gap ++ ['('], ')' :: gap' ++ alors ++ gap'' ++ ['{'], by simp⟩
  | declare digits =>
      cases hprint
      exact not_hasSection_printPin hproper (by simp) hsection
  | switch digits on =>
      cases on with
      | true =>
          cases hprint
          exact not_hasSection_printPin hproper (by decide) hsection
      | false =>
          cases hprint
          exact not_hasSection_printPin hproper (by decide) hsection
  | _ => cases hprint

end Reading

/-- An assignment or a condition is read off its printed line, unless the line has the keyword of a
section, which makes it a section header. Whatever line an assignment, a condition or a pin was read
off, the printed line says the same. -/
theorem printed_lines_read_back :
    (∀ (name : Text) (type : ValueType) (value : Text),
      name.isName = true → value ≠ [] → IsTrimmed value → value.head? ≠ some '=' →
      (ofLine (printAssign name type value) = .assign name type value ↔
        ¬HasSection (printAssign name type value))) ∧
    (∀ condition : Text, IsTrimmed condition →
      (ofLine (printConditional condition) = .conditional condition ↔
        ¬HasSection (printConditional condition))) ∧
    ∀ line text : Text, (ofLine line).print? = some text → ofLine text = ofLine line := by
  refine ⟨?_, ?_, ?_⟩
  · intro name type value hname hne htrimmed hsingle
    constructor
    · intro h
      exact not_hasSection_of_print h rfl
    · exact ofLine_printAssign ⟨hname, hne, htrimmed, hsingle⟩
  · intro condition htrimmed
    constructor
    · intro h
      exact not_hasSection_of_print h rfl
    · exact ofLine_printConditional htrimmed
  · intro line text hprint
    exact (isProper_ofLine line).ofLine_print hprint (not_hasSection_of_print rfl hprint)

/-- A name, a value and a condition that look like other statements, and a line that is not in its
usual form. -/
theorem printed_lines_read_back_lookalikes :
    ofLine "si = pin1_allumé; = \x7b;".toList =
      .assign "si".toList .untyped "pin1_allumé; = \x7b".toList ∧
    ofLine "si (x) alors \x7b == () alors \x7b".toList =
      .conditional "x) alors \x7b == (".toList ∧
    (print? (ofLine " STRING\tnom=\"a = b\" ;".toList) =
        some "string nom = \"a = b\";".toList ∧
      ofLine "string nom = \"a = b\";".toList = ofLine " STRING\tnom=\"a = b\" ;".toList) := by
  obtain ⟨hassign, hcondition, hprinted⟩ := printed_lines_read_back
  have hprint : print? (ofLine " STRING\tnom=\"a = b\" ;".toList) =
      some "string nom = \"a = b\";".toList := by decide +kernel
  have hline : printAssign "si".toList .untyped "pin1_allumé; = \x7b".toList =
      "si = pin1_allumé; = \x7b;".toList := by decide
  have hline' : printConditional "x) alors \x7b == (".toList =
      "si (x) alors \x7b == () alors \x7b".toList := by decide
  refine ⟨?_, ?_, hprint, hprinted _ _ hprint⟩
  · rw [← hline]
    exact (hassign _ _ _ (by decide) (by decide) (by decide) (by decide)).mpr (by decide)
  · rw [← hline']
    exact (hcondition _ (by decide)).mpr (by decide)

end Statement

end Breadboard
