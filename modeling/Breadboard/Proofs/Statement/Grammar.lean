import Mathlib.Data.Option.Basic
import Breadboard.Proofs.Statement.Semicolon
import Breadboard.Proofs.Text.Letters

/-!
The grammar of a line. There are thirteen rules, and the first that has anything to say about a line
decides what it is. Each rule is stated by the ways of writing that it allows: a line fits it if it
is put together from such and such pieces. The recogniser works the other way round. It takes pieces
off both ends of the line, looks for words, and scans for the first place with some property. One
theorem for each of its parts says that it finds a way of writing if and only if there is one, and
from these it follows that it accepts the grammar and nothing else.

Lines are read without the blanks around them. The rules for pins look at the folded line, in lower
case and without the accents of `e`.
-/

namespace Breadboard

namespace Text

private def blanks : List Char :=
  [9, 10, 11, 12, 13, 0x20, 0x85, 0xA0, 0x1680, 0x2000, 0x2001, 0x2002, 0x2003, 0x2004, 0x2005,
    0x2006, 0x2007, 0x2008, 0x2009, 0x200A, 0x2028, 0x2029, 0x202F, 0x205F, 0x3000].map Char.ofNat

private theorem mem_blanks {c : Char} (h : isBlank c = true) : c ∈ blanks := by
  rw [← Char.ofNat_toNat c]
  apply List.mem_map_of_mem
  simp only [isBlank, Bool.or_eq_true, Bool.and_eq_true, decide_eq_true_eq, beq_iff_eq] at h
  simp only [List.mem_cons, List.not_mem_nil, or_false]
  omega

-- `List.all` goes through the table; a bounded quantifier may be decided over all characters
private theorem isNameChar_of_mem_blanks {c : Char} (h : c ∈ blanks) : isNameChar c = false := by
  have hall : blanks.all (fun c => !isNameChar c) = true := by decide +kernel
  simpa using List.all_eq_true.mp hall c h

theorem isBlank_of_isNameChar {c : Char} (h : isNameChar c = true) : isBlank c = false := by
  rw [Bool.eq_false_iff]
  intro hblank
  rw [isNameChar_of_mem_blanks (mem_blanks hblank)] at h
  cases h

theorem isNameChar_of_isName {t : Text} (h : t.isName = true) : ∀ c ∈ t, isNameChar c = true := by
  cases t with
  | nil => cases h
  | cons d rest =>
      simp only [isName, Bool.and_eq_true, Bool.or_eq_true, List.all_eq_true] at h
      intro c hc
      rcases List.mem_cons.mp hc with rfl | hrest
      · rcases h.1 with hletter | hunderscore
        · simp [isNameChar, hletter]
        · simp [isNameChar, hunderscore]
      · exact h.2 c hrest

theorem isWord_of_isName {t : Text} (h : t.isName = true) : IsWord t := by
  refine ⟨?_, fun c hc => isBlank_of_isNameChar (isNameChar_of_isName h c hc)⟩
  rintro rfl
  cases h

/-- A word stays one in whatever case it is written. -/
theorem isWord_of_asciiLower {t word : Text} (hword : IsWord word) (h : t.asciiLower = word) :
    IsWord t := by
  subst h
  refine ⟨by simpa [asciiLower] using hword.nonempty, ?_⟩
  intro c hc
  rw [← isBlank_toLower]
  exact hword.solid c.toLower (List.mem_map_of_mem hc)

end Text

theorem ValueType.ofKeyword?_eq_some_iff {word : Text} {type : ValueType} :
    ofKeyword? word = some type ↔ type ≠ .untyped ∧ word.asciiLower = type.label.toList := by
  have hint : Text.asciiLower "int".toList = "int".toList := by decide
  have hfloat : Text.asciiLower "float".toList = "float".toList := by decide
  have hstring : Text.asciiLower "string".toList = "string".toList := by decide
  simp only [ofKeyword?, Text.sameLetters_iff, hint, hfloat, hstring]
  constructor
  · intro h
    split at h
    · next hword =>
      cases h
      exact ⟨by decide, hword⟩
    split at h
    · next hword =>
      cases h
      exact ⟨by decide, hword⟩
    split at h
    · next hword =>
      cases h
      exact ⟨by decide, hword⟩
    · cases h
  · rintro ⟨htype, hword⟩
    rw [hword]
    cases type with
    | untyped => exact absurd rfl htype
    | _ => decide

namespace Statement

open Text

/-- `si (inner) alors {`, with blanks between the parts and the two keywords in any case. -/
def IsConditional (line condition : Text) : Prop :=
  ∃ si gap inner gap' alors gap'' : Text,
    line = si ++ gap ++ '(' :: inner ++ ')' :: gap' ++ alors ++ gap'' ++ ['{'] ∧
      si.asciiLower = "si".toList ∧ alors.asciiLower = "alors".toList ∧
      IsGap gap ∧ IsGap gap' ∧ IsGap gap'' ∧ condition = inner.trim

theorem condition?_eq_some_iff {line condition : Text} :
    condition? line = some condition ↔ IsConditional line condition := by
  have hsi : asciiLower "si".toList = "si".toList := by decide
  have halors : asciiLower "alors".toList = "alors".toList := by decide
  simp only [condition?, Option.bind_eq_bind, Option.bind_eq_some_iff, dropKeyword?_eq_some_iff,
    dropStart?_eq_some_iff, dropEnd?_eq_some_iff, dropLastKeyword?_eq_some_iff, hsi, halors,
    Option.pure_def, Option.some.injEq]
  constructor
  · rintro ⟨rest, ⟨si, rfl, hkeyword⟩, _, _, inner, hopening, body, rfl, front,
      ⟨alors, hlast, hkeyword'⟩, text, hclosing, rfl⟩
    obtain ⟨⟨gap, rfl, hgap⟩, _⟩ := trimStart_eq_iff.mp hopening
    obtain ⟨⟨gap'', rfl, hgap''⟩, _⟩ := trimEnd_eq_iff.mp hlast
    obtain ⟨⟨gap', rfl, hgap'⟩, _⟩ := trimEnd_eq_iff.mp hclosing
    refine ⟨si, gap, text, gap', alors, gap'', ?_, hkeyword, hkeyword', hgap, hgap', hgap'', rfl⟩
    simp
  · rintro ⟨si, gap, inner, gap', alors, gap'', rfl, hkeyword, hkeyword', hgap, hgap', hgap'', rfl⟩
    -- the brackets are no blanks, and neither are the letters of a keyword
    have hopening : trimStart (gap ++ '(' :: (inner ++ ')' :: gap' ++ alors ++ gap'' ++ ['{'])) =
        '(' :: (inner ++ ')' :: gap' ++ alors ++ gap'' ++ ['{']) := by
      refine trimStart_eq_iff.mpr ⟨⟨gap, rfl, hgap⟩, ?_⟩
      rintro c ⟨⟩
      decide
    have hword : IsWord alors := isWord_of_asciiLower (by decide) hkeyword'
    have hlast : trimEnd (inner ++ ')' :: gap' ++ alors ++ gap'') =
        inner ++ ')' :: gap' ++ alors := by
      refine trimEnd_eq_iff.mpr ⟨⟨gap'', rfl, hgap''⟩, ?_⟩
      intro c hc
      rw [List.getLast?_append_of_ne_nil _ hword.nonempty] at hc
      exact hword.solid c (List.mem_of_getLast? hc)
    have hclosing : trimEnd (inner ++ ')' :: gap') = inner ++ [')'] := by
      refine trimEnd_eq_iff.mpr ⟨⟨gap', by simp, hgap'⟩, ?_⟩
      intro c hc
      rw [List.getLast?_concat] at hc
      cases hc
      decide
    refine ⟨_, ⟨si, ?_, hkeyword⟩, (), ?_, _, hopening, _, rfl, _, ⟨alors, hlast, hkeyword'⟩, _,
      hclosing, rfl⟩
    · simp
    · cases gap with
      | nil => rfl
      | cons c gap => simp [guard, hgap c List.mem_cons_self]

/-- `type name` or `name`, with the type in any case. Blanks may follow. -/
inductive IsTarget (left name : Text) : ValueType → Prop where
  | typed (type : ValueType) (keyword gap gap' : Text)
      (hcut : left = keyword ++ gap ++ name ++ gap') (htype : type ≠ .untyped)
      (hkeyword : keyword.asciiLower = type.label.toList) (hne : gap ≠ []) (hgap : IsGap gap)
      (hgap' : IsGap gap') : IsTarget left name type
  | untyped (gap : Text) (hcut : left = name ++ gap) (hgap : IsGap gap) :
      IsTarget left name .untyped

theorem target?_eq_some_iff {left name : Text} {type : ValueType}
    (hstart : ∀ c, left.head? = some c → isBlank c = false) :
    target? left = some (name, type) ↔ name.isName = true ∧ IsTarget left name type := by
  constructor
  · intro h
    unfold target? at h
    split at h
    · next keyword other hwords =>
      simp only [Option.bind_eq_bind, Option.bind_eq_some_iff, Option.guard_eq_some',
        Option.pure_def, Option.some.injEq] at h
      obtain ⟨_, htype, _, hname, h⟩ := h
      cases h
      obtain ⟨_, _, gap, gap', hcut, hne, hgap, hgap'⟩ := (words_eq_pair_iff hstart).mp hwords
      obtain ⟨htyped, hkeyword⟩ := ValueType.ofKeyword?_eq_some_iff.mp htype
      exact ⟨hname, .typed type keyword gap gap' hcut htyped hkeyword hne hgap hgap'⟩
    · next other hwords =>
      simp only [Option.bind_eq_bind, Option.bind_eq_some_iff, Option.guard_eq_some',
        Option.pure_def, Option.some.injEq] at h
      obtain ⟨_, hname, h⟩ := h
      cases h
      obtain ⟨_, gap, hcut, hgap⟩ := (words_eq_singleton_iff hstart).mp hwords
      exact ⟨hname, .untyped gap hcut hgap⟩
    · cases h
  · rintro ⟨hname, htarget⟩
    have hword := isWord_of_isName hname
    cases htarget with
    | typed type keyword gap gap' hcut htype hkeyword hne hgap hgap' =>
        have hkeyword' : IsWord keyword := by
          refine isWord_of_asciiLower ?_ hkeyword
          cases type with
          | untyped => exact absurd rfl htype
          | _ => decide
        have hwords : words left = [keyword, name] :=
          (words_eq_pair_iff hstart).mpr ⟨hkeyword', hword, gap, gap', hcut, hne, hgap, hgap'⟩
        simp [target?, hwords, ValueType.ofKeyword?_eq_some_iff.mpr ⟨htype, hkeyword⟩, hname]
    | untyped gap hcut hgap =>
        have hwords : words left = [name] :=
          (words_eq_singleton_iff hstart).mpr ⟨hword, gap, hcut, hgap⟩
        simp [target?, hwords, hname]

/-- `target = right;`, with the first equals sign of the line between the two. The value is what
is written on the right, without the blanks around it. -/
structure IsAssignment (line name : Text) (type : ValueType) (value : Text) : Prop where
  cut : ∃ left right : Text, line = left ++ '=' :: right ++ [';'] ∧ '=' ∉ left ∧
    IsTarget left name type ∧ value = right.trim
  isName : name.isName = true
  nonempty : value ≠ []
  /-- Otherwise the line would be a comparison. -/
  single : value.head? ≠ some '='

theorem assignment?_eq_some_iff {body : Text} {statement : Statement}
    (hstart : ∀ c, body.head? = some c → isBlank c = false) :
    assignment? body = some statement ↔
      ∃ name type value, IsAssignment (body ++ [';']) name type value ∧
        statement = .assign name type value := by
  have hleftStart {left right : Text} (hbody : body = left ++ '=' :: right) :
      ∀ c, left.head? = some c → isBlank c = false := by
    rw [hbody] at hstart
    exact isBlank_head?_of_append hstart
  simp only [assignment?, Option.bind_eq_bind, Option.bind_eq_some_iff, Option.guard_eq_some',
    Option.pure_def, Option.some.injEq, Bool.and_eq_true, Prod.exists, cutAt?_eq_some_iff]
  constructor
  · rintro ⟨left, c, right, ⟨hbody, hc, hleft⟩, _, ⟨hne, hsingle⟩, name, type, htarget, rfl⟩
    cases eq_of_beq hc
    obtain ⟨hname, htarget⟩ := (target?_eq_some_iff (hleftStart hbody)).mp htarget
    refine ⟨name, type, right.trim, ⟨⟨left, right, ?_, ?_, htarget, rfl⟩, hname, ?_, ?_⟩, rfl⟩
    · rw [hbody]
    · intro hmem
      exact absurd (hleft _ hmem) (by decide)
    · simpa using hne
    · simpa using hsingle
  · rintro ⟨name, type, value, hassign, rfl⟩
    obtain ⟨⟨left, right, hline, hleft, htarget, rfl⟩, hname, hne, hsingle⟩ := hassign
    have hbody : body = left ++ '=' :: right := List.append_cancel_right hline
    refine ⟨left, '=', right, ⟨hbody, rfl, ?_⟩, (), ⟨by simpa using hne, by simpa using hsingle⟩,
      name, type, (target?_eq_some_iff (hleftStart hbody)).mpr ⟨hname, htarget⟩, rfl⟩
    intro c hc
    rw [beq_eq_false_iff_ne]
    rintro rfl
    exact hleft hc

/-- What has an equals sign and is no assignment is nothing. -/
theorem eq_getD_assignment?_iff {body : Text} {s : Statement}
    (hstart : ∀ c, body.head? = some c → isBlank c = false) :
    s = (assignment? body).getD .invalid ↔
      (∃ name type value, IsAssignment (body ++ [';']) name type value ∧
        s = .assign name type value) ∨
      ((¬∃ name type value, IsAssignment (body ++ [';']) name type value) ∧ s = .invalid) := by
  rw [← assignment?_eq_some_iff hstart]
  cases hbody : assignment? body with
  | none =>
      have hnone : ¬∃ name type value, IsAssignment (body ++ [';']) name type value := by
        rintro ⟨name, type, value, hassign⟩
        have hread := (assignment?_eq_some_iff hstart).mpr ⟨name, type, value, hassign, rfl⟩
        rw [hbody] at hread
        cases hread
      simp [hnone]
  | some found =>
      obtain ⟨name, type, value, hassign, _⟩ := (assignment?_eq_some_iff hstart).mp hbody
      have hsome : ∃ name type value, IsAssignment (body ++ [';']) name type value :=
        ⟨name, type, value, hassign⟩
      simp [hsome, eq_comm]

/-- One digit or more. -/
structure IsNumber (digits : Text) : Prop where
  nonempty : digits ≠ []
  digit : ∀ c ∈ digits, isAsciiDigit c = true

/-- In the folded line `pin` and a number stand between `before` and `after`. -/
structure IsPinAt (folded before digits after : Text) : Prop where
  cut : folded = before ++ "pin".toList ++ digits ++ after
  number : IsNumber digits

theorem declaredPin?_eq_some_iff {folded digits : Text} :
    declaredPin? folded = some digits ↔ IsPinAt folded [] digits [';'] := by
  simp only [declaredPin?, Option.bind_eq_bind, Option.bind_eq_some_iff, Option.guard_eq_some',
    Option.pure_def, Option.some.injEq, Bool.and_eq_true, dropStart?_eq_some_iff,
    dropEnd?_eq_some_iff, List.all_eq_true]
  constructor
  · rintro ⟨rest, rfl, inner, rfl, _, ⟨hne, hdigits⟩, rfl⟩
    exact ⟨by simp, by simpa using hne, hdigits⟩
  · rintro ⟨rfl, hne, hdigits⟩
    exact ⟨digits ++ [';'], by simp, digits, rfl, (), ⟨by simpa using hne, hdigits⟩, rfl⟩

/-- The pin whose name begins the text, and what follows its number. -/
def pinAtStart? (t : Text) : Option (Text × Text) := do
  let rest ← t.dropStart? "pin".toList
  let digits := rest.takeWhile isAsciiDigit
  if digits.isEmpty then none else some (digits, rest.dropWhile isAsciiDigit)

theorem pinAtStart?_eq_some_iff {t digits after : Text} :
    pinAtStart? t = some (digits, after) ↔
      IsPinAt t [] digits after ∧ ∀ c, after.head? = some c → isAsciiDigit c = false := by
  simp only [pinAtStart?, Option.bind_eq_bind, Option.bind_eq_some_iff,
    Option.ite_none_left_eq_some, List.isEmpty_iff, Option.some.injEq, Prod.mk.injEq,
    dropStart?_eq_some_iff]
  constructor
  · rintro ⟨rest, rfl, hne, hspan⟩
    obtain ⟨rfl, hdigits, hafter⟩ := span_eq_iff.mp hspan
    rw [hspan.1] at hne
    exact ⟨⟨by simp, hne, hdigits⟩, hafter⟩
  · rintro ⟨⟨rfl, hnumber⟩, hafter⟩
    have hspan := span_eq_iff.mpr ⟨rfl, hnumber.digit, hafter⟩
    refine ⟨digits ++ after, by simp, ?_, hspan⟩
    rw [hspan.1]
    exact hnumber.nonempty

theorem pinSites_cons (c : Char) (rest : Text) :
    pinSites (c :: rest) = (pinAtStart? (c :: rest)).toList ++ pinSites rest := by
  rw [pinSites, pinAtStart?]
  cases hpin : dropStart? (c :: rest) "pin".toList with
  | none => rfl
  | some after =>
      dsimp only [Option.bind_eq_bind, Option.bind_some]
      split <;> rfl

/-- A pin in a longer text stands at its start or in the rest. -/
theorem isPinAt_cons_iff {c : Char} {rest before digits after : Text} :
    IsPinAt (c :: rest) before digits after ↔
      (before = [] ∧ IsPinAt (c :: rest) [] digits after) ∨
        ∃ more, before = c :: more ∧ IsPinAt rest more digits after := by
  constructor
  · rintro ⟨hcut, hnumber⟩
    cases before with
    | nil => exact .inl ⟨rfl, hcut, hnumber⟩
    | cons d more =>
        cases hcut
        exact .inr ⟨more, rfl, rfl, hnumber⟩
  · rintro (⟨rfl, hstart⟩ | ⟨more, rfl, rfl, hnumber⟩)
    · exact hstart
    · exact ⟨rfl, hnumber⟩

theorem not_isPinAt_nil {before digits after : Text} : ¬IsPinAt [] before digits after := by
  rintro ⟨hcut, _⟩
  simp at hcut

theorem mem_pinSites_iff {folded digits after : Text} :
    (digits, after) ∈ pinSites folded ↔
      (∃ before, IsPinAt folded before digits after) ∧
        ∀ c, after.head? = some c → isAsciiDigit c = false := by
  induction folded with
  | nil =>
      constructor
      · intro h
        cases h
      · rintro ⟨⟨before, hpin⟩, _⟩
        exact absurd hpin not_isPinAt_nil
  | cons c rest ih =>
      rw [pinSites_cons, List.mem_append, Option.mem_toList, pinAtStart?_eq_some_iff, ih]
      constructor
      · rintro (⟨hpin, hafter⟩ | ⟨⟨before, hpin⟩, hafter⟩)
        · exact ⟨⟨[], hpin⟩, hafter⟩
        · exact ⟨⟨c :: before, isPinAt_cons_iff.mpr (.inr ⟨before, rfl, hpin⟩)⟩, hafter⟩
      · rintro ⟨⟨before, hpin⟩, hafter⟩
        rcases isPinAt_cons_iff.mp hpin with ⟨_, hstart⟩ | ⟨more, _, hmore⟩
        · exact .inl ⟨hstart, hafter⟩
        · exact .inr ⟨⟨more, hmore⟩, hafter⟩

/-- `pinN_action` stands in the folded line with this number, and does not stand further left. -/
def IsFirstAction (action folded digits : Text) : Prop :=
  ∃ before after, IsPinAt folded before digits ('_' :: action ++ after) ∧
    ∀ before' digits' after', IsPinAt folded before' digits' ('_' :: action ++ after') →
      before.length ≤ before'.length

/-- The number of `pinN_action` at the start of the text. -/
def actionAtStart? (action t : Text) : Option Text := do
  let (digits, after) ← pinAtStart? t
  if ('_' :: action).isPrefixOf after then some digits else none

theorem actionAtStart?_eq_some_iff {action t digits : Text} :
    actionAtStart? action t = some digits ↔
      ∃ after, IsPinAt t [] digits ('_' :: action ++ after) := by
  simp only [actionAtStart?, Option.bind_eq_bind, Option.bind_eq_some_iff, Prod.exists,
    pinAtStart?_eq_some_iff, Option.ite_none_right_eq_some, List.isPrefixOf_iff_prefix,
    Option.some.injEq]
  constructor
  · rintro ⟨_, _, ⟨hpin, _⟩, ⟨after, rfl⟩, rfl⟩
    exact ⟨after, hpin⟩
  · rintro ⟨after, hpin⟩
    refine ⟨digits, _, ⟨hpin, ?_⟩, ⟨after, rfl⟩, rfl⟩
    rintro c ⟨⟩
    decide

theorem actionPin?_cons (action : Text) (c : Char) (rest : Text) :
    actionPin? action (c :: rest) =
      (actionAtStart? action (c :: rest)).or (actionPin? action rest) := by
  rw [actionPin?, pinSites_cons, List.findSome?_append, actionAtStart?, actionPin?]
  cases pinAtStart? (c :: rest) with
  | none => rfl
  | some site => simp

/-- The scan finds the leftmost command. -/
theorem actionPin?_eq_some_iff {action folded digits : Text} :
    actionPin? action folded = some digits ↔ IsFirstAction action folded digits := by
  induction folded with
  | nil =>
      constructor
      · intro h
        cases h
      · rintro ⟨before, after, hpin, _⟩
        exact absurd hpin not_isPinAt_nil
  | cons c rest ih =>
      rw [actionPin?_cons, Option.or_eq_some_iff, actionAtStart?_eq_some_iff, ih]
      constructor
      · rintro (⟨after, hpin⟩ | ⟨hnone, before, after, hpin, hfirst⟩)
        · exact ⟨[], after, hpin, fun _ _ _ _ => Nat.zero_le _⟩
        · refine ⟨c :: before, after, isPinAt_cons_iff.mpr (.inr ⟨before, rfl, hpin⟩), ?_⟩
          intro before' digits' after' hpin'
          rcases isPinAt_cons_iff.mp hpin' with ⟨_, hstart⟩ | ⟨more, rfl, hmore⟩
          · rw [actionAtStart?_eq_some_iff.mpr ⟨after', hstart⟩] at hnone
            cases hnone
          · exact Nat.succ_le_succ (hfirst more digits' after' hmore)
      · rintro ⟨before, after, hpin, hfirst⟩
        rcases isPinAt_cons_iff.mp hpin with ⟨_, hstart⟩ | ⟨more, rfl, hmore⟩
        · exact .inl ⟨after, hstart⟩
        · right
          constructor
          · rw [Option.eq_none_iff_forall_ne_some]
            intro other hother
            obtain ⟨after', hstart⟩ := actionAtStart?_eq_some_iff.mp hother
            exact absurd (hfirst [] other after' hstart) (by simp)
          · refine ⟨more, after, hmore, ?_⟩
            intro before' digits' after' hpin'
            apply Nat.le_of_succ_le_succ
            exact hfirst (c :: before') digits' after'
              (isPinAt_cons_iff.mpr (.inr ⟨before', rfl, hpin'⟩))

/-- `pinN_word;` stands in the folded line. -/
def HasUnknownAction (folded : Text) : Prop :=
  ∃ before digits word after, IsPinAt folded before digits ('_' :: word ++ ';' :: after) ∧
    word ≠ [] ∧ ∀ c ∈ word, isNameChar c = true

theorem isUnknownAction_iff {after : Text} :
    isUnknownAction after = true ↔
      ∃ word rest, after = '_' :: word ++ ';' :: rest ∧ word ≠ [] ∧
        ∀ c ∈ word, isNameChar c = true := by
  constructor
  · intro h
    unfold isUnknownAction at h
    split at h
    · next rest =>
      simp only [Bool.and_eq_true, beq_iff_eq] at h
      obtain ⟨hne, hsemicolon⟩ := h
      obtain ⟨more, hmore⟩ := List.head?_eq_some_iff.mp hsemicolon
      obtain ⟨hrest, hword, _⟩ := span_eq_iff.mp ⟨rfl, hmore⟩
      exact ⟨_, more, congrArg ('_' :: ·) hrest, by simpa using hne, hword⟩
    · cases h
  · rintro ⟨word, rest, rfl, hne, hword⟩
    have hsemicolon : ∀ c, (';' :: rest).head? = some c → isNameChar c = false := by
      rintro c ⟨⟩
      decide
    obtain ⟨htake, hdrop⟩ := span_eq_iff.mpr ⟨rfl, hword, hsemicolon⟩
    simp [isUnknownAction, htake, hdrop, hne]

theorem any_pinSites_iff {folded : Text} :
    ((pinSites folded).any fun (_, after) => isUnknownAction after) = true ↔
      HasUnknownAction folded := by
  simp only [List.any_eq_true, Prod.exists, mem_pinSites_iff, isUnknownAction_iff]
  constructor
  · rintro ⟨digits, _, ⟨⟨before, hpin⟩, _⟩, word, after, rfl, hne, hword⟩
    exact ⟨before, digits, word, after, hpin, hne, hword⟩
  · rintro ⟨before, digits, word, after, hpin, hne, hword⟩
    refine ⟨digits, _, ⟨⟨before, hpin⟩, ?_⟩, word, after, rfl, hne, hword⟩
    rintro c ⟨⟩
    decide

/-- A rule says of some lines what they are. -/
abbrev Rule := Text → Statement → Prop

/-- A line that passes the test is this statement. -/
def Rule.plain (test : Text → Prop) (statement : Statement) : Rule :=
  fun line s => test line ∧ s = statement

/-- The rules for a line with a semicolon at its end and no equals sign. -/
def pinRules : List Rule :=
  [ -- `pinN;`
    fun line s => ∃ digits, IsPinAt (fold line) [] digits [';'] ∧ s = .declare digits,
    -- `pinN_allumé` somewhere, and `pinN_éteint` only where there is none
    fun line s =>
      (∃ digits, IsFirstAction "allume".toList (fold line) digits ∧ s = .switch digits true) ∨
        ((¬∃ digits, IsFirstAction "allume".toList (fold line) digits) ∧
          ∃ digits, IsFirstAction "eteint".toList (fold line) digits ∧ s = .switch digits false),
    Rule.plain (fun line => HasUnknownAction (fold line)) .malformedPinCommand,
    Rule.plain (fun line => "pin".toList <:+: fold line) .unknownPinSyntax,
    Rule.plain (fun _ => True) .invalid ]

/-- The rules in the order in which they are tried. -/
def rules : List Rule :=
  [ Rule.plain (fun line => line = []) .blank,
    Rule.plain (fun line => "void setup".toList <:+: line.asciiLower) .setup,
    Rule.plain (fun line => "void loop".toList <:+: line.asciiLower) .loop,
    fun line s => (line = ['{'] ∧ s = .brace .opening) ∨ (line = ['}'] ∧ s = .brace .closing),
    Rule.plain (fun line => "//".toList <+: line) .comment,
    fun line s => ∃ condition, IsConditional line condition ∧ s = .conditional condition,
    Rule.plain (fun line => ¬[';'] <:+ line) .missingSemicolon,
    fun line s => '=' ∈ line ∧
      ((∃ name type value, IsAssignment line name type value ∧ s = .assign name type value) ∨
        ((¬∃ name type value, IsAssignment line name type value) ∧ s = .invalid)) ] ++ pinRules

/-- The statement comes from the first rule that says anything of the line. -/
def FirstMatch (rules : List Rule) (line : Text) (statement : Statement) : Prop :=
  ∃ before rule after, rules = before ++ rule :: after ∧ rule line statement ∧
    ∀ earlier ∈ before, ∀ s, ¬earlier line s

section FirstMatch

variable {rule : Rule} {more : List Rule} {line : Text} {s statement : Statement}

theorem firstMatch_cons_iff :
    FirstMatch (rule :: more) line s ↔
      rule line s ∨ ((∀ other, ¬rule line other) ∧ FirstMatch more line s) := by
  constructor
  · rintro ⟨before, found, after, hrules, hfound, hbefore⟩
    cases before with
    | nil =>
        cases hrules
        exact .inl hfound
    | cons first before =>
        cases hrules
        refine .inr ⟨hbefore _ List.mem_cons_self, before, found, after, rfl, hfound, ?_⟩
        intro earlier hearlier
        exact hbefore earlier (List.mem_cons_of_mem _ hearlier)
  · rintro (hrule | ⟨hsilent, before, found, after, rfl, hfound, hbefore⟩)
    · exact ⟨[], rule, more, rfl, hrule, by simp⟩
    · refine ⟨rule :: before, found, after, rfl, hfound, ?_⟩
      intro earlier hearlier
      rcases List.mem_cons.mp hearlier with rfl | hbefore'
      · exact hsilent
      · exact hbefore earlier hbefore'

theorem firstMatch_of_says (h : ∀ other, rule line other ↔ other = statement) :
    statement = s ↔ FirstMatch (rule :: more) line s := by
  have hsays : rule line statement := (h statement).mpr rfl
  rw [firstMatch_cons_iff, h]
  constructor
  · intro hs
    exact .inl hs.symm
  · rintro (hs | ⟨hsilent, _⟩)
    · exact hs.symm
    · exact absurd hsays (hsilent statement)

theorem firstMatch_of_silent (h : ∀ other, ¬rule line other)
    (hmore : statement = s ↔ FirstMatch more line s) :
    statement = s ↔ FirstMatch (rule :: more) line s := by
  rw [firstMatch_cons_iff, hmore]
  simp [h]

variable {test : Text → Prop}

theorem firstMatch_of_test (h : test line) :
    statement = s ↔ FirstMatch (Rule.plain test statement :: more) line s :=
  firstMatch_of_says fun _ => and_iff_right h

theorem firstMatch_of_not_test {result : Statement} (h : ¬test line)
    (hmore : result = s ↔ FirstMatch more line s) :
    result = s ↔ FirstMatch (Rule.plain test statement :: more) line s :=
  firstMatch_of_silent (fun _ hrule => h hrule.1) hmore

end FirstMatch

theorem ofPinLine_fold_eq_iff {line : Text} {statement : Statement} :
    ofPinLine (fold line) = statement ↔ FirstMatch pinRules line statement := by
  unfold ofPinLine pinRules
  split
  · next digits hdeclared =>
    apply firstMatch_of_says
    intro s
    simp [← declaredPin?_eq_some_iff, hdeclared]
  next hdeclared =>
  refine firstMatch_of_silent (by simp [← declaredPin?_eq_some_iff, hdeclared]) ?_
  split
  · next digits hon =>
    apply firstMatch_of_says
    intro s
    simp only [← actionPin?_eq_some_iff, hon]
    simp
  next hon =>
  split
  · next digits hoff =>
    apply firstMatch_of_says
    intro s
    simp only [← actionPin?_eq_some_iff, hon, hoff]
    simp
  next hoff =>
  refine firstMatch_of_silent ?_ ?_
  · intro s
    simp only [← actionPin?_eq_some_iff, hon, hoff]
    simp
  split
  · next hunknown => exact firstMatch_of_test (any_pinSites_iff.mp hunknown)
  next hunknown =>
  refine firstMatch_of_not_test (mt any_pinSites_iff.mpr hunknown) ?_
  split
  · next hpin => exact firstMatch_of_test <| holds_iff_infix.mp hpin
  next hpin =>
  refine firstMatch_of_not_test (mt holds_iff_infix.mpr hpin) ?_
  exact firstMatch_of_test trivial

/-- The recogniser follows the grammar on lines that do not begin with a blank. -/
theorem ofTrimmed_eq_iff {line : Text} {statement : Statement}
    (hstart : ∀ c, line.head? = some c → isBlank c = false) :
    ofTrimmed line = statement ↔ FirstMatch rules line statement := by
  unfold ofTrimmed rules
  simp only [List.cons_append, List.nil_append]
  split
  · next hempty => exact firstMatch_of_test (List.isEmpty_iff.mp hempty)
  next hempty =>
  refine firstMatch_of_not_test (mt List.isEmpty_iff.mpr hempty) ?_
  split
  · next hsetup => exact firstMatch_of_test <| holds_iff_infix.mp hsetup
  next hsetup =>
  refine firstMatch_of_not_test (mt holds_iff_infix.mpr hsetup) ?_
  split
  · next hloop => exact firstMatch_of_test <| holds_iff_infix.mp hloop
  next hloop =>
  refine firstMatch_of_not_test (mt holds_iff_infix.mpr hloop) ?_
  split
  · next hopening =>
    apply firstMatch_of_says
    intro s
    simp [hopening]
  next hopening =>
  split
  · next hclosing =>
    apply firstMatch_of_says
    intro s
    simp [hclosing]
  next hclosing =>
  refine firstMatch_of_silent (by simp [hopening, hclosing]) ?_
  split
  · next hcomment => exact firstMatch_of_test (List.isPrefixOf_iff_prefix.mp hcomment)
  next hcomment =>
  refine firstMatch_of_not_test (mt List.isPrefixOf_iff_prefix.mpr hcomment) ?_
  split
  · next condition hcondition =>
    apply firstMatch_of_says
    intro s
    simp [← condition?_eq_some_iff, hcondition]
  next hcondition =>
  refine firstMatch_of_silent (by simp [← condition?_eq_some_iff, hcondition]) ?_
  split
  · next hsemicolon =>
    apply firstMatch_of_test
    rintro ⟨body, hbody⟩
    rw [dropEnd?_eq_some_iff.mpr hbody.symm] at hsemicolon
    cases hsemicolon
  next body hbody =>
  obtain rfl := dropEnd?_eq_some_iff.mp hbody
  refine firstMatch_of_not_test (not_not_intro (List.suffix_append body [';'])) ?_
  split
  · next hequals =>
    rw [List.contains_iff_mem] at hequals
    apply firstMatch_of_says
    intro s
    rw [and_iff_right hequals, eq_getD_assignment?_iff (isBlank_head?_of_append hstart)]
  next hequals =>
  rw [List.contains_iff_mem] at hequals
  exact firstMatch_of_silent (fun _ hrule => hequals hrule.1) ofPinLine_fold_eq_iff

end Statement

end Breadboard
