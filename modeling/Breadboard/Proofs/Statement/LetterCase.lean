import Breadboard.Proofs.Statement.Grammar
import Breadboard.Proofs.Text.Letters

/-!
Letter case does not matter. Two lines that are equal up to the case of A to Z are the same
statement, but for the case of what they keep of the line: a name, a value or a condition. The
recogniser ignores case in several ways, by lower case of the whole line, by comparing keywords at
its ends and by folding accents; but the grammar is one. Each of its rules puts a line together from
pieces, and a line that is equal up to case has such pieces at the same places. So a rule that says
something of one line says the same of the other, and the first rule to say anything is the same.
-/

namespace Breadboard

namespace Text

theorem isName_asciiLower (t : Text) : t.asciiLower.isName = t.isName := by
  cases t with
  | nil => rfl
  | cons c rest =>
      have hunderscore : (c.toLower == '_') = (c == '_') := by
        apply toLower_of_isAlpha (p := (· == '_'))
        intro d hd
        rw [beq_eq_false_iff_ne]
        rintro rfl
        cases hd
      have hrest : List.all (asciiLower rest) isNameChar = rest.all isNameChar := by
        rw [asciiLower, List.all_map]
        exact congrArg (List.all rest) (funext isNameChar_toLower)
      change ((isLetter c.toLower || c.toLower == '_') && List.all (asciiLower rest) isNameChar) = _
      rw [isLetter_toLower, hunderscore, hrest]
      rfl

end Text

namespace Statement

open Text

/-- The same statement but for letter case. Names, values and conditions stand at the same place of
their lines, and all else is equal. -/
def Alike (line line' : Text) : Statement → Statement → Prop
  | .assign name type value, .assign name' type' value' =>
      type = type' ∧ SamePlace line line' name name' ∧ SamePlace line line' value value'
  | .conditional condition, .conditional condition' => SamePlace line line' condition condition'
  | s, s' => s = s'

section Pieces

variable {line line' name value condition left left' : Text} {type : ValueType}

theorem fold_eq_of_asciiLower_eq (h : line.asciiLower = line'.asciiLower) :
    fold line = fold line' := by
  have hlower (t : Text) : t.asciiLower.lower = t.lower := by
    rw [lower, lower, asciiLower, List.flatMap_map]
    exact List.flatMap_congr fun c _ => lowerChar_toLower c
  rw [fold, fold, ← hlower line, h, hlower line']

theorem IsConditional.alike (h : line.asciiLower = line'.asciiLower)
    (hconditional : IsConditional line condition) :
    ∃ condition', IsConditional line' condition' ∧ SamePlace line line' condition condition' := by
  obtain ⟨si, gap, inner, gap', alors, gap'', rfl, hkeyword, hkeyword', hgap, hgap', hgap'', rfl⟩ :=
    hconditional
  have hpieces := h.symm
  simp only [List.append_assoc, List.cons_append] at hpieces
  obtain ⟨si', rest, rfl, hsi, hafter⟩ := exists_append_of_asciiLower_eq hpieces
  obtain ⟨blank, rest, rfl, hblank, hopening⟩ := exists_append_of_asciiLower_eq hafter
  obtain ⟨rest, rfl, hinside⟩ := exists_cons_of_asciiLower_eq rfl hopening
  obtain ⟨inner', rest, rfl, hinner, hclosing⟩ := exists_append_of_asciiLower_eq hinside
  obtain ⟨rest, rfl, hbehind⟩ := exists_cons_of_asciiLower_eq rfl hclosing
  obtain ⟨blank', rest, rfl, hblank', hword⟩ := exists_append_of_asciiLower_eq hbehind
  obtain ⟨alors', rest, rfl, halors, hend⟩ := exists_append_of_asciiLower_eq hword
  obtain ⟨blank'', rest, rfl, hblank'', hbrace⟩ := exists_append_of_asciiLower_eq hend
  obtain ⟨rest, rfl, hnil⟩ := exists_cons_of_asciiLower_eq rfl hbrace
  obtain rfl := eq_nil_of_asciiLower_eq hnil
  refine ⟨inner'.trim, ⟨si', blank, inner', blank', alors', blank'', by simp, hsi.trans hkeyword,
    halors.trans hkeyword', forall_of_asciiLower_eq isBlank_toLower hblank hgap,
    forall_of_asciiLower_eq isBlank_toLower hblank' hgap',
    forall_of_asciiLower_eq isBlank_toLower hblank'' hgap'', rfl⟩, ?_⟩
  refine SamePlace.trans ⟨⟨si ++ gap ++ ['('], ')' :: gap' ++ alors ++ gap'' ++ ['{'],
    si' ++ blank ++ ['('], ')' :: blank' ++ alors' ++ blank'' ++ ['{'], by simp, by simp, ?_⟩,
    hinner.symm⟩ (samePlace_trim hinner.symm)
  simp [length_eq_of_asciiLower_eq hsi, length_eq_of_asciiLower_eq hblank]

theorem IsTarget.alike (h : left.asciiLower = left'.asciiLower)
    (htarget : IsTarget left name type) :
    ∃ name', IsTarget left' name' type ∧ SamePlace left left' name name' := by
  cases htarget with
  | typed type keyword gap gap' hcut htype hkeyword hne hgap hgap' =>
      subst hcut
      have hpieces := h.symm
      simp only [List.append_assoc] at hpieces
      obtain ⟨keyword', rest, rfl, hsame, hrest⟩ := exists_append_of_asciiLower_eq hpieces
      obtain ⟨blank, rest, rfl, hblank, hrest⟩ := exists_append_of_asciiLower_eq hrest
      obtain ⟨name', blank', rfl, hname, hblank'⟩ := exists_append_of_asciiLower_eq hrest
      have hne' : blank ≠ [] := by
        rintro rfl
        exact hne (eq_nil_of_asciiLower_eq hblank.symm)
      refine ⟨name', .typed type keyword' blank blank' (by simp) htype (hsame.trans hkeyword) hne'
        (forall_of_asciiLower_eq isBlank_toLower hblank hgap)
        (forall_of_asciiLower_eq isBlank_toLower hblank' hgap'), ?_⟩
      refine ⟨⟨keyword ++ gap, gap', keyword' ++ blank, blank', rfl, by simp, ?_⟩, hname.symm⟩
      simp [length_eq_of_asciiLower_eq hsame, length_eq_of_asciiLower_eq hblank]
  | untyped gap hcut hgap =>
      subst hcut
      obtain ⟨name', blank, rfl, hname, hblank⟩ := exists_append_of_asciiLower_eq h.symm
      exact ⟨name', .untyped blank rfl (forall_of_asciiLower_eq isBlank_toLower hblank hgap),
        ⟨[], gap, [], blank, rfl, rfl, rfl⟩, hname.symm⟩

theorem IsAssignment.alike (h : line.asciiLower = line'.asciiLower)
    (hassign : IsAssignment line name type value) :
    ∃ name' value', IsAssignment line' name' type value' ∧
      SamePlace line line' name name' ∧ SamePlace line line' value value' := by
  obtain ⟨⟨left, right, rfl, hleft, htarget, rfl⟩, hname, hne, hsingle⟩ := hassign
  have hpieces := h.symm
  simp only [List.append_assoc, List.cons_append] at hpieces
  obtain ⟨left', rest, rfl, hsame, hequals⟩ := exists_append_of_asciiLower_eq hpieces
  obtain ⟨rest, rfl, hafter⟩ := exists_cons_of_asciiLower_eq rfl hequals
  obtain ⟨right', rest, rfl, hright, hsemicolon⟩ := exists_append_of_asciiLower_eq hafter
  obtain ⟨rest, rfl, hnil⟩ := exists_cons_of_asciiLower_eq rfl hsemicolon
  obtain rfl := eq_nil_of_asciiLower_eq hnil
  obtain ⟨name', htarget', hplace⟩ := htarget.alike hsame.symm
  have htrim := samePlace_trim hright.symm
  have hleft' : '=' ∉ left' := by
    rwa [← mem_asciiLower_iff (t := left') rfl, hsame, mem_asciiLower_iff rfl]
  have hname' : name'.isName = true := by
    rw [← isName_asciiLower, ← hplace.letters, isName_asciiLower, hname]
  have hne' : right'.trim ≠ [] := by
    intro hnil
    have hletters := htrim.letters
    rw [hnil] at hletters
    exact hne (eq_nil_of_asciiLower_eq hletters)
  have hsingle' : right'.trim.head? ≠ some '=' := by
    intro hhead
    obtain ⟨more, hmore⟩ := List.head?_eq_some_iff.mp hhead
    have hletters := htrim.letters
    rw [hmore] at hletters
    obtain ⟨more', hvalue, _⟩ := exists_cons_of_asciiLower_eq rfl hletters
    exact hsingle (by rw [hvalue]; rfl)
  refine ⟨name', right'.trim, ⟨⟨left', right', by simp, hleft', htarget', rfl⟩, hname', hne',
    hsingle'⟩, ?_, ?_⟩
  · refine SamePlace.trans ⟨⟨[], '=' :: right ++ [';'], [], '=' :: right' ++ [';'], ?_, ?_, rfl⟩,
      hsame.symm⟩ hplace
    · simp
    · simp
  · refine SamePlace.trans ⟨⟨left ++ ['='], [';'], left' ++ ['='], [';'], ?_, ?_, ?_⟩,
      hright.symm⟩ htrim
    · simp
    · simp
    · simp [length_eq_of_asciiLower_eq hsame]

end Pieces

/-- What the rule says of a line, it says of all lines that are equal up to case. -/
def Rule.IgnoresCase (rule : Rule) : Prop :=
  ∀ line line' s, line.asciiLower = line'.asciiLower → rule line s →
    ∃ s', rule line' s' ∧ Alike line line' s s'

theorem Rule.IgnoresCase.plain {test : Text → Prop} {statement : Statement}
    (hself : ∀ line line', Alike line line' statement statement)
    (htest : ∀ line line', line.asciiLower = line'.asciiLower → test line → test line') :
    (Rule.plain test statement).IgnoresCase := by
  rintro line line' s h ⟨hline, rfl⟩
  exact ⟨s, ⟨htest line line' h hline, rfl⟩, hself line line'⟩

/-- Folding does away with case, so a rule for folded lines need not look at it. -/
theorem Rule.IgnoresCase.folded {rule : Rule}
    (hself : ∀ line s, rule line s → ∀ line', Alike line line' s s)
    (hfold : ∀ line line' s, fold line = fold line' → rule line s → rule line' s) :
    rule.IgnoresCase := by
  intro line line' s h hrule
  exact ⟨s, hfold line line' s (fold_eq_of_asciiLower_eq h) hrule, hself line s hrule line'⟩

theorem ignoresCase_of_mem_rules : ∀ rule ∈ rules, rule.IgnoresCase := by
  simp only [rules, pinRules, List.cons_append, List.nil_append, List.forall_mem_cons]
  refine ⟨?blank, ?setup, ?loop, ?brace, ?comment, ?conditional, ?missingSemicolon, ?assign,
    ?declare, ?switch, ?malformedPinCommand, ?unknownPinSyntax, ?invalid, by simp⟩
  case blank =>
    refine .plain (fun _ _ => rfl) ?_
    rintro line line' h rfl
    exact eq_nil_of_asciiLower_eq h.symm
  case setup | loop =>
    refine .plain (fun _ _ => rfl) ?_
    intro line line' h hkeyword
    rwa [← h]
  case brace =>
    have hbrace {brace : Char} (hcase : brace.isAlpha = false) {line : Text}
        (h : asciiLower [brace] = line.asciiLower) : line = [brace] := by
      obtain ⟨rest, rfl, hrest⟩ := exists_cons_of_asciiLower_eq hcase h.symm
      rw [eq_nil_of_asciiLower_eq hrest]
    rintro line line' s h (⟨rfl, rfl⟩ | ⟨rfl, rfl⟩)
    · exact ⟨_, .inl ⟨hbrace rfl h, rfl⟩, rfl⟩
    · exact ⟨_, .inr ⟨hbrace rfl h, rfl⟩, rfl⟩
  case comment =>
    refine .plain (fun _ _ => rfl) ?_
    rintro line line' h ⟨rest, rfl⟩
    obtain ⟨more, rfl, hmore⟩ := exists_cons_of_asciiLower_eq rfl h.symm
    obtain ⟨last, rfl, _⟩ := exists_cons_of_asciiLower_eq rfl hmore
    exact ⟨last, rfl⟩
  case conditional =>
    rintro line line' s h ⟨condition, hconditional, rfl⟩
    obtain ⟨condition', hconditional', hplace⟩ := hconditional.alike h
    exact ⟨_, ⟨condition', hconditional', rfl⟩, hplace⟩
  case missingSemicolon =>
    refine .plain (fun _ _ => rfl) ?_
    rintro line line' h hmissing ⟨body, rfl⟩
    obtain ⟨front, last, rfl, _, hlast⟩ := exists_append_of_asciiLower_eq h
    obtain ⟨rest, rfl, hrest⟩ := exists_cons_of_asciiLower_eq rfl hlast
    rw [eq_nil_of_asciiLower_eq hrest] at hmissing
    exact hmissing (List.suffix_append front [';'])
  case assign =>
    rintro line line' s h ⟨hequals, hassign⟩
    have hequals' : '=' ∈ line' := by
      rwa [← mem_asciiLower_iff (t := line') rfl, ← h, mem_asciiLower_iff rfl]
    rcases hassign with ⟨name, type, value, hassign, rfl⟩ | ⟨hnone, rfl⟩
    · obtain ⟨name', value', hassign', hname, hvalue⟩ := hassign.alike h
      exact ⟨_, ⟨hequals', .inl ⟨name', type, value', hassign', rfl⟩⟩, rfl, hname, hvalue⟩
    · refine ⟨.invalid, ⟨hequals', .inr ⟨?_, rfl⟩⟩, rfl⟩
      rintro ⟨name, type, value, hassign⟩
      obtain ⟨name', value', hassign', _⟩ := hassign.alike h.symm
      exact hnone ⟨name', type, value', hassign'⟩
  case declare =>
    refine .folded ?_ fun line line' s h hrule => by rwa [← h]
    rintro line s ⟨digits, _, rfl⟩ line'
    rfl
  case switch =>
    refine .folded ?_ fun line line' s h hrule => by rwa [← h]
    rintro line s (⟨digits, _, rfl⟩ | ⟨_, digits, _, rfl⟩) line'
    · rfl
    · rfl
  case malformedPinCommand | unknownPinSyntax | invalid =>
    refine .folded ?_ fun line line' s h hrule => ?_
    · rintro line s ⟨_, rfl⟩ line'
      rfl
    · simpa only [Rule.plain, h] using hrule

theorem FirstMatch.alike {table : List Rule} (htable : ∀ rule ∈ table, rule.IgnoresCase)
    {line line' : Text} {s : Statement} (h : line.asciiLower = line'.asciiLower)
    (hfirst : FirstMatch table line s) :
    ∃ s', FirstMatch table line' s' ∧ Alike line line' s s' := by
  obtain ⟨before, rule, after, rfl, hrule, hsilent⟩ := hfirst
  obtain ⟨s', hrule', halike⟩ := htable rule (by simp) line line' s h hrule
  refine ⟨s', ⟨before, rule, after, rfl, hrule', ?_⟩, halike⟩
  -- a rule that says something of the other line would say something of this one
  intro earlier hearlier other hother
  obtain ⟨back, hback, _⟩ := htable earlier (by simp [hearlier]) line' line other h.symm hother
  exact hsilent earlier hearlier back hback

/-- What stands at the same place in a part of a line does so in the line. -/
theorem Alike.of_part {line line' part part' : Text} {s s' : Statement}
    (hpart : SamePlace line line' part part') (h : Alike part part' s s') :
    Alike line line' s s' := by
  cases s with
  | assign name type value =>
      cases s' with
      | assign name' type' value' =>
          obtain ⟨htype, hname, hvalue⟩ := h
          exact ⟨htype, hpart.trans hname, hpart.trans hvalue⟩
      | _ => exact h
  | conditional condition =>
      cases s' with
      | conditional condition' => exact hpart.trans h
      | _ => exact h
  | _ => exact h

/-- Lines that are equal up to the case of A to Z are the same statement. Names, values and
conditions are what the two lines have at the same place, each in its own case. -/
theorem ofLine_alike {line line' : Text} (h : line.asciiLower = line'.asciiLower) :
    Alike line line' (ofLine line) (ofLine line') := by
  have htrim := samePlace_trim h
  have hfirst : FirstMatch rules line.trim (ofLine line) :=
    (ofTrimmed_eq_iff fun _ => head?_trim).mp rfl
  obtain ⟨s', hfirst', halike⟩ := hfirst.alike ignoresCase_of_mem_rules htrim.letters
  have hs' : ofLine line' = s' := (ofTrimmed_eq_iff fun _ => head?_trim).mpr hfirst'
  rw [hs']
  exact halike.of_part htrim

/-- A type in capitals, and a name with accents, which are not a matter of case here. -/
theorem ofLine_alike_typed :
    asciiLower "  INT Été=Pin1; ".toList = asciiLower "  int ÉTé=pIN1; ".toList ∧
    ofLine "  INT Été=Pin1; ".toList = .assign "Été".toList .int "Pin1".toList ∧
    ofLine "  int ÉTé=pIN1; ".toList = .assign "ÉTé".toList .int "pIN1".toList ∧
    SamePlace "  INT Été=Pin1; ".toList "  int ÉTé=pIN1; ".toList
      "Été".toList "ÉTé".toList ∧
    SamePlace "  INT Été=Pin1; ".toList "  int ÉTé=pIN1; ".toList
      "Pin1".toList "pIN1".toList := by
  have hletters : asciiLower "  INT Été=Pin1; ".toList =
      asciiLower "  int ÉTé=pIN1; ".toList := by decide
  have hline : ofLine "  INT Été=Pin1; ".toList =
      .assign "Été".toList .int "Pin1".toList := by decide +kernel
  have hline' : ofLine "  int ÉTé=pIN1; ".toList =
      .assign "ÉTé".toList .int "pIN1".toList := by decide +kernel
  have halike := ofLine_alike hletters
  rw [hline, hline'] at halike
  exact ⟨hletters, hline, hline', halike.2⟩

end Statement

end Breadboard
