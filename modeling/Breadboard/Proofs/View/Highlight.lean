import Mathlib.Data.List.Basic
import Mathlib.Order.Bounds.Basic
import Mathlib.Order.WellFounded
import Breadboard.View.Highlight

/-!
How a program line is cut for its colours. The tokens of a line are told by what each of them looks
like and what may stand around it. Nothing in this mentions how the line is read, and it leaves no
choice: a line has one cut of this kind.
-/

namespace Breadboard

namespace Token

/-- What tokens stand for, one after another. -/
def written (tokens : List Token) : Text :=
  tokens.flatMap Token.text

@[simp]
theorem written_nil : written [] = [] := rfl

@[simp]
theorem written_cons (token : Token) (rest : List Token) :
    written (token :: rest) = token.text ++ written rest := rfl

@[simp]
theorem written_append (front back : List Token) :
    written (front ++ back) = written front ++ written back :=
  List.flatMap_append

/-- One of the tokens, with what is written before it and behind it. -/
def Stands (tokens : List Token) (token : Token) (front back : Text) : Prop :=
  ∃ before after, tokens = before ++ token :: after ∧ written before = front ∧ written after = back

/-- The kind of the token to which a place in the line belongs. -/
def kindAt : List Token → Nat → Option TokenKind
  | [], _ => none
  | token :: rest, place =>
      if place < token.text.length then some token.kind
      else kindAt rest (place - token.text.length)

/-- Where two slashes stand, but not inside a string. -/
def remarkPlaces (line : Text) (tokens : List Token) : Set Nat :=
  {place | ['/', '/'] <+: line.drop place ∧ kindAt tokens place ≠ some .string}

/-- The tokens of a line. -/
structure IsCut (line : Text) (tokens : List Token) : Prop where
  whole : written tokens = line
  nonempty : ∀ token ∈ tokens, token.text ≠ []
  /-- A word cannot be extended to either side. -/
  word : ∀ letters front back, Stands tokens ⟨.word, letters⟩ front back →
    (∀ c ∈ letters, isWordChar c = true) ∧
      (∀ c, front.getLast? = some c → isWordChar c = false) ∧
      ∀ c, back.head? = some c → isWordChar c = false
  /-- A string ends at the next quote, or with the line if there is none. -/
  string : ∀ text front back, Stands tokens ⟨.string, text⟩ front back →
    ∃ inside, '"' ∉ inside ∧
      (text = '"' :: (inside ++ ['"']) ∨ text = '"' :: inside ∧ back = [])
  comment : ∀ text front back, Stands tokens ⟨.comment, text⟩ front back ↔
    back = [] ∧ front ++ text = line ∧ IsLeast (remarkPlaces line tokens) front.length
  other : ∀ text front back, Stands tokens ⟨.other, text⟩ front back →
    ∃ c, text = [c] ∧ isWordChar c = false ∧ c ≠ '"'

section Places

variable {tokens : List Token} {token : Token} {kind : TokenKind} {front back : Text} {place : Nat}

theorem stands_append (before after : List Token) (token : Token) :
    Stands (before ++ token :: after) token (written before) (written after) :=
  ⟨before, after, rfl, rfl, rfl⟩

theorem Stands.written_eq (h : Stands tokens token front back) :
    written tokens = front ++ token.text ++ back := by
  obtain ⟨before, after, rfl, rfl, rfl⟩ := h
  simp

theorem Stands.cons (first : Token) (h : Stands tokens token front back) :
    Stands (first :: tokens) token (first.text ++ front) back := by
  obtain ⟨before, after, rfl, rfl, rfl⟩ := h
  exact stands_append (first :: before) after token

theorem kindAt_append (before rest : List Token) (place : Nat) :
    kindAt (before ++ rest) ((written before).length + place) = kindAt rest place := by
  induction before with
  | nil => simp
  | cons token before ih =>
      have hbeyond : ¬ (written (token :: before)).length + place < token.text.length := by
        simp
        omega
      have hshift : (written (token :: before)).length + place - token.text.length =
          (written before).length + place := by
        simp
        omega
      rw [List.cons_append, kindAt, if_neg hbeyond, hshift, ih]

/-- A place belongs to the one token that spans it. -/
theorem kindAt_eq_some_iff :
    kindAt tokens place = some kind ↔ ∃ text front back,
      Stands tokens ⟨kind, text⟩ front back ∧
        front.length ≤ place ∧ place < front.length + text.length := by
  constructor
  · intro h
    induction tokens generalizing place with
    | nil => cases h
    | cons token rest ih =>
        rw [kindAt] at h
        split at h
        · next hhere =>
          cases h
          exact ⟨token.text, [], written rest, stands_append [] rest token, by simp, by simpa⟩
        · next hbeyond =>
          obtain ⟨text, front, back, hstands, hstart, hstop⟩ := ih h
          refine ⟨text, token.text ++ front, back, hstands.cons token, ?_, ?_⟩
          · rw [List.length_append]
            omega
          · rw [List.length_append]
            omega
  · rintro ⟨text, front, back, ⟨before, after, rfl, rfl, rfl⟩, hstart, hstop⟩
    obtain ⟨inner, rfl⟩ := Nat.exists_eq_add_of_le hstart
    have hinner : inner < text.length := by omega
    rw [kindAt_append, kindAt, if_pos hinner]

end Places

/-- What a token looks like and what may follow it. -/
def Fits : Token → Text → Prop
  | ⟨.word, letters⟩, back =>
      letters ≠ [] ∧ (∀ c ∈ letters, isWordChar c = true) ∧
        ∀ c, back.head? = some c → isWordChar c = false
  | ⟨.string, text⟩, back =>
      ∃ inside, '"' ∉ inside ∧
        (text = '"' :: (inside ++ ['"']) ∨ text = '"' :: inside ∧ back = [])
  | ⟨.comment, text⟩, back => back = [] ∧ ∃ remark, text = '/' :: '/' :: remark
  | ⟨.other, text⟩, back =>
      ∃ c, text = [c] ∧ isWordChar c = false ∧ c ≠ '"' ∧ (c = '/' → back.head? ≠ some '/')

def AllFit : List Token → Prop
  | [] => True
  | token :: rest => token.Fits (written rest) ∧ AllFit rest

theorem allFit_iff {tokens : List Token} :
    AllFit tokens ↔ ∀ token front back, Stands tokens token front back → token.Fits back := by
  induction tokens with
  | nil => simp [AllFit, Stands]
  | cons first rest ih =>
      rw [AllFit, ih]
      constructor
      · rintro ⟨hfirst, hrest⟩ token front back ⟨before, after, hcut, rfl, rfl⟩
        cases before with
        | nil =>
            obtain ⟨rfl, rfl⟩ := List.cons.inj hcut
            exact hfirst
        | cons _ before =>
            obtain ⟨rfl, rfl⟩ := List.cons.inj hcut
            exact hrest token _ _ (stands_append before after token)
      · intro h
        refine ⟨h first [] _ (stands_append [] rest first), ?_⟩
        intro token front back hstands
        exact h token _ back (hstands.cons first)

theorem Fits.text_ne_nil {token : Token} {back : Text} (h : token.Fits back) : token.text ≠ [] := by
  obtain ⟨kind, text⟩ := token
  cases kind with
  | word => exact h.1
  | string =>
      obtain ⟨inside, _, rfl | ⟨rfl, _⟩⟩ := h
      · exact List.cons_ne_nil _ _
      · exact List.cons_ne_nil _ _
  | comment =>
      obtain ⟨_, remark, rfl⟩ := h
      exact List.cons_ne_nil _ _
  | other =>
      obtain ⟨c, rfl, _⟩ := h
      exact List.cons_ne_nil _ _

section Cuts

variable {tokens : List Token} {front back : Text} {place : Nat}

theorem AllFit.eq_nil_of_written (h : AllFit tokens) (hnone : written tokens = []) :
    tokens = [] := by
  cases tokens with
  | nil => rfl
  | cons token rest =>
      have hempty : token.text = [] := (List.append_eq_nil_iff.mp hnone).1
      exact absurd hempty h.1.text_ne_nil

theorem AllFit.append_right {before after : List Token} (h : AllFit (before ++ after)) :
    AllFit after := by
  induction before with
  | nil => exact h
  | cons token before ih => exact ih h.2

/-- What stands before a word does not end in a character of a word. -/
theorem AllFit.isWordChar_front {letters : Text} {c : Char} (h : AllFit tokens)
    (hstands : Stands tokens ⟨.word, letters⟩ front back) (hlast : front.getLast? = some c) :
    isWordChar c = false := by
  obtain ⟨before, after, rfl, rfl, rfl⟩ := hstands
  rcases List.eq_nil_or_concat before with rfl | ⟨init, previous, rfl⟩
  · cases hlast
  · rw [List.concat_eq_append, List.append_assoc, List.singleton_append] at h
    obtain ⟨hprevious, hword, _⟩ := h.append_right
    obtain ⟨hletters, hall, _⟩ := hword
    obtain ⟨first, more, rfl⟩ := List.exists_cons_of_ne_nil hletters
    have hfirst : isWordChar first = true := hall first List.mem_cons_self
    have hend : previous.text.getLast? = some c := by
      rw [List.concat_eq_append, written_append, written_cons, written_nil, List.append_nil,
        List.getLast?_append_of_ne_nil _ hprevious.text_ne_nil] at hlast
      exact hlast
    obtain ⟨kind, text⟩ := previous
    cases kind with
    | word =>
        have hnot := hprevious.2.2 first rfl
        rw [hfirst] at hnot
        cases hnot
    | string =>
        obtain ⟨inside, _, rfl | ⟨_, hnone⟩⟩ := hprevious
        · rw [← List.cons_append, List.getLast?_concat] at hend
          cases hend
          decide
        · cases hnone
    | comment => cases hprevious.1
    | other =>
        obtain ⟨d, rfl, hd, _⟩ := hprevious
        cases hend
        exact hd

/-- Two slashes belong to a string or to the comment. -/
theorem AllFit.kindAt_of_slashes (h : AllFit tokens)
    (hslashes : ['/', '/'] <+: (written tokens).drop place) :
    kindAt tokens place = some .string ∨ kindAt tokens place = some .comment := by
  induction tokens generalizing place with
  | nil => simp at hslashes
  | cons token rest ih =>
      obtain ⟨hfits, hrest⟩ := h
      rw [kindAt]
      split
      · next hhere =>
        have hslash : (written (token :: rest))[place]? = some '/' := by
          obtain ⟨more, hmore⟩ := hslashes
          rw [← List.head?_drop, ← hmore]
          rfl
        rw [written_cons, List.getElem?_append_left hhere] at hslash
        obtain ⟨kind, text⟩ := token
        cases kind with
        | word =>
            have hword : isWordChar '/' = true := hfits.2.1 '/' (List.mem_of_getElem? hslash)
            have hnot : isWordChar '/' = false := by decide
            rw [hnot] at hword
            cases hword
        | string => exact .inl rfl
        | comment => exact .inr rfl
        | other =>
            obtain ⟨c, rfl, _, _, hnext⟩ := hfits
            obtain rfl : place = 0 := by simpa using hhere
            obtain ⟨more, hmore⟩ := hslashes
            have hboth : '/' :: '/' :: more = c :: written rest := hmore
            obtain ⟨rfl, hback⟩ := List.cons.inj hboth
            rw [← hback] at hnext
            exact absurd rfl (hnext rfl)
      · next hbeyond =>
        apply ih hrest
        rw [written_cons, List.drop_append] at hslashes
        rwa [List.drop_of_length_le (by omega), List.nil_append] at hslashes

/-- There is at most one comment, since nothing follows it. -/
theorem AllFit.comment_unique {text text' front' back' : Text} (h : AllFit tokens)
    (hstands : Stands tokens ⟨.comment, text⟩ front back)
    (hstands' : Stands tokens ⟨.comment, text'⟩ front' back') : front = front' := by
  have hfits := allFit_iff.mp h
  obtain ⟨hback, _⟩ := hfits _ _ _ hstands
  obtain ⟨hback', _⟩ := hfits _ _ _ hstands'
  obtain ⟨before, after, hcut, rfl, rfl⟩ := hstands
  obtain ⟨before', after', hcut', rfl, rfl⟩ := hstands'
  have hafter : after = [] := by
    rw [hcut] at h
    exact h.append_right.2.eq_nil_of_written hback
  have hafter' : after' = [] := by
    rw [hcut'] at h
    exact h.append_right.2.eq_nil_of_written hback'
  rw [hafter] at hcut
  rw [hafter', hcut] at hcut'
  rw [(List.append_inj' hcut' rfl).1]

theorem AllFit.isLeast_of_comment {text : Text} (h : AllFit tokens)
    (hstands : Stands tokens ⟨.comment, text⟩ front back) :
    IsLeast (remarkPlaces (written tokens) tokens) front.length := by
  obtain ⟨hback, remark, htext⟩ := allFit_iff.mp h _ _ _ hstands
  constructor
  · constructor
    · rw [hstands.written_eq, hback, List.append_nil, List.drop_left, htext]
      exact List.prefix_append ['/', '/'] remark
    · have hkind : kindAt tokens front.length = some .comment := by
        apply kindAt_eq_some_iff.mpr
        refine ⟨text, front, back, hstands, Nat.le_refl _, ?_⟩
        have hlength := congrArg List.length htext
        rw [List.length_cons] at hlength
        omega
      rw [hkind]
      decide
  · rintro place ⟨hslashes, houtside⟩
    rcases h.kindAt_of_slashes hslashes with hstring | hcomment
    · exact absurd hstring houtside
    · obtain ⟨text', front', back', hstands', hle, _⟩ := kindAt_eq_some_iff.mp hcomment
      rw [h.comment_unique hstands hstands']
      exact hle

theorem AllFit.comment_iff {text : Text} (h : AllFit tokens) :
    Stands tokens ⟨.comment, text⟩ front back ↔
      back = [] ∧ front ++ text = written tokens ∧
        IsLeast (remarkPlaces (written tokens) tokens) front.length := by
  constructor
  · intro hstands
    obtain ⟨rfl, _⟩ := allFit_iff.mp h _ _ _ hstands
    refine ⟨rfl, ?_, h.isLeast_of_comment hstands⟩
    rw [hstands.written_eq, List.append_nil]
  · rintro ⟨rfl, hwhole, hleast⟩
    rcases h.kindAt_of_slashes hleast.1.1 with hstring | hcomment
    · exact absurd hstring hleast.1.2
    · obtain ⟨text', front', back', hstands', _⟩ := kindAt_eq_some_iff.mp hcomment
      obtain ⟨rfl, _⟩ := allFit_iff.mp h _ _ _ hstands'
      have hlength : front'.length = front.length :=
        (h.isLeast_of_comment hstands').unique hleast
      have hsame : front' ++ text' = front ++ text := by
        rw [hwhole, hstands'.written_eq, List.append_nil]
      obtain ⟨rfl, rfl⟩ := List.append_inj hsame hlength
      exact hstands'

theorem AllFit.isCut (h : AllFit tokens) : IsCut (written tokens) tokens := by
  have hfits := allFit_iff.mp h
  constructor
  · rfl
  · intro token hmem
    obtain ⟨before, after, rfl⟩ := List.append_of_mem hmem
    exact (hfits token _ _ (stands_append before after token)).text_ne_nil
  · intro letters front back hstands
    obtain ⟨_, hletters, hback⟩ := hfits _ _ _ hstands
    exact ⟨hletters, fun c => h.isWordChar_front hstands, hback⟩
  · intro text front back hstands
    exact hfits _ _ _ hstands
  · intro text front back
    exact h.comment_iff
  · intro text front back hstands
    obtain ⟨c, htext, hc, hquote, _⟩ := hfits _ _ _ hstands
    exact ⟨c, htext, hc, hquote⟩

/-- Conversely, what was said of a cut is all that matters for how the tokens follow each other. -/
theorem IsCut.allFit {line : Text} (h : IsCut line tokens) : AllFit tokens := by
  apply allFit_iff.mpr
  intro token front back hstands
  have hmem : token ∈ tokens := by
    obtain ⟨before, after, rfl, _⟩ := hstands
    simp
  have hwhole : line = front ++ token.text ++ back := h.whole.symm.trans hstands.written_eq
  obtain ⟨kind, text⟩ := token
  cases kind with
  | word =>
      obtain ⟨hletters, _, hback⟩ := h.word text front back hstands
      exact ⟨h.nonempty _ hmem, hletters, hback⟩
  | string => exact h.string text front back hstands
  | comment =>
      obtain ⟨hback, hfront, hleast⟩ := (h.comment text front back).mp hstands
      obtain ⟨remark, hremark⟩ := hleast.1.1
      rw [← hfront, List.drop_left] at hremark
      exact ⟨hback, remark, hremark.symm⟩
  | other =>
      obtain ⟨c, rfl, hc, hquote⟩ := h.other text front back hstands
      refine ⟨c, rfl, hc, hquote, ?_⟩
      rintro rfl hhead
      have hkind : kindAt tokens front.length = some .other :=
        kindAt_eq_some_iff.mpr ⟨_, front, back, hstands, Nat.le_refl _, by simp⟩
      have hplace : front.length ∈ remarkPlaces line tokens := by
        constructor
        · obtain ⟨more, rfl⟩ := List.head?_eq_some_iff.mp hhead
          rw [hwhole, List.append_assoc, List.drop_left]
          exact List.prefix_append ['/', '/'] more
        · rw [hkind]
          decide
      -- the first such place is then at or before the token, and a comment from there covers it
      obtain ⟨first, hfirst, hmin⟩ := wellFounded_lt.has_min _ ⟨_, hplace⟩
      have hle : first ≤ front.length := Nat.le_of_not_lt (hmin front.length hplace)
      have hlength : line.length = front.length + 1 + back.length := by
        rw [hwhole, List.length_append, List.length_append]
        rfl
      have hleast : IsLeast (remarkPlaces line tokens) (line.take first).length := by
        rw [List.length_take_of_le (by omega)]
        exact ⟨hfirst, fun place hin => Nat.le_of_not_lt (hmin place hin)⟩
      have hcomment := (h.comment (line.drop first) (line.take first) []).mpr
        ⟨rfl, List.take_append_drop first line, hleast⟩
      have hcovered : kindAt tokens front.length = some .comment := by
        apply kindAt_eq_some_iff.mpr
        refine ⟨_, _, _, hcomment, ?_, ?_⟩
        · rw [List.length_take_of_le (by omega)]
          exact hle
        · rw [List.length_take_of_le (by omega), List.length_drop]
          omega
      rw [hkind] at hcovered
      cases hcovered

end Cuts

section Reading

/-- The characters read so far, as they stand in the line. -/
def Reading.text : Reading → Text
  | .word letters => letters.reverse
  | .string characters => characters.reverse

/-- What is being read can still become a token. -/
def Reading.Begun : Reading → Prop
  | .word letters => ∀ c ∈ letters, isWordChar c = true
  | .string characters => ∃ inside, '"' ∉ inside ∧ characters.reverse = '"' :: inside

@[simp]
theorem written_wordToken (letters : Text) : written (wordToken letters) = letters.reverse := by
  cases letters <;> simp [wordToken]

/-- Nothing is lost while a line is read. -/
theorem written_scan (reading : Reading) (rest : Text) :
    written (scan reading rest) = reading.text ++ rest := by
  fun_induction scan reading rest <;> simp [Reading.text, *]

theorem allFit_wordToken_append {letters : Text} {tokens : List Token}
    (hletters : ∀ c ∈ letters, isWordChar c = true)
    (hnext : ∀ c, (written tokens).head? = some c → isWordChar c = false) (h : AllFit tokens) :
    AllFit (wordToken letters ++ tokens) := by
  cases letters with
  | nil => exact h
  | cons c more =>
      refine ⟨⟨?_, ?_, hnext⟩, h⟩
      · simp
      · simpa [or_comm] using hletters

theorem allFit_scan (reading : Reading) (rest : Text) (h : reading.Begun) :
    AllFit (scan reading rest) := by
  have hempty : (Reading.word []).Begun := by
    intro c hc
    cases hc
  fun_induction scan reading rest with
  | case1 letters =>
      rw [← List.append_nil (wordToken letters)]
      apply allFit_wordToken_append h
      · intro c hc
        cases hc
      · trivial
  | case2 characters =>
      obtain ⟨inside, hinside, hbegun⟩ := h
      exact ⟨⟨inside, hinside, .inr ⟨hbegun, rfl⟩⟩, trivial⟩
  | case3 letters c rest hslashes =>
      obtain ⟨rfl, hhead⟩ := hslashes
      obtain ⟨remark, rfl⟩ := List.head?_eq_some_iff.mp hhead
      apply allFit_wordToken_append h
      · rintro c ⟨⟩
        decide
      · exact ⟨⟨rfl, remark, rfl⟩, trivial⟩
  | case4 letters rest _ ih =>
      apply allFit_wordToken_append h
      · rw [written_scan]
        rintro c ⟨⟩
        decide
      · exact ih ⟨[], List.not_mem_nil, rfl⟩
  | case5 letters c rest _ _ hword ih =>
      apply ih
      intro d hd
      rcases List.mem_cons.mp hd with rfl | hd
      · exact hword
      · exact h d hd
  | case6 letters c rest hslashes hquote hword ih =>
      have hother : isWordChar c = false := Bool.eq_false_iff.mpr hword
      apply allFit_wordToken_append h
      · rintro d ⟨⟩
        exact hother
      · refine ⟨⟨c, rfl, hother, hquote, ?_⟩, ih hempty⟩
        rw [written_scan]
        intro hc hhead
        exact hslashes ⟨hc, hhead⟩
  | case7 characters rest ih =>
      obtain ⟨inside, hinside, hbegun⟩ := h
      refine ⟨⟨inside, hinside, .inl ?_⟩, ih hempty⟩
      change ('"' :: characters).reverse = _
      rw [List.reverse_cons, hbegun]
      rfl
  | case8 characters c rest hquote ih =>
      apply ih
      obtain ⟨inside, hinside, hbegun⟩ := h
      refine ⟨inside ++ [c], ?_, ?_⟩
      · simpa [Ne.symm hquote] using hinside
      · rw [List.reverse_cons, hbegun]
        rfl

theorem scan_word_append {letters : Text} (h : ∀ c ∈ letters, isWordChar c = true)
    (seen rest : Text) :
    scan (.word seen) (letters ++ rest) = scan (.word (letters.reverse ++ seen)) rest := by
  induction letters generalizing seen with
  | nil => rfl
  | cons c letters ih =>
      have hc : isWordChar c = true := h c List.mem_cons_self
      have hslash : ¬ (c = '/' ∧ (letters ++ rest).head? = some '/') := by
        rintro ⟨rfl, _⟩
        cases hc
      have hquote : c ≠ '"' := by
        rintro rfl
        cases hc
      rw [List.cons_append, scan, if_neg hslash, if_neg hquote, if_pos hc,
        ih fun d hd => h d (List.mem_cons_of_mem c hd), List.reverse_cons, List.append_assoc]
      rfl

/-- A word ends where no character of a word follows. -/
theorem scan_word_of_head {rest : Text} (h : ∀ c, rest.head? = some c → isWordChar c = false)
    (letters : Text) : scan (.word letters) rest = wordToken letters ++ scan (.word []) rest := by
  cases rest with
  | nil => simp [scan, wordToken]
  | cons c rest =>
      have hc : isWordChar c = false := h c rfl
      have hnone : wordToken [] = [] := rfl
      simp only [scan, hc, hnone, Bool.false_eq_true, if_false, List.nil_append]
      split
      · rfl
      · split
        · rfl
        · rfl

theorem scan_quote (rest : Text) :
    scan (.word []) ('"' :: rest) = scan (.string ['"']) rest := by
  simp [scan, wordToken]

theorem scan_string_append {inside : Text} (h : '"' ∉ inside) (seen rest : Text) :
    scan (.string seen) (inside ++ rest) = scan (.string (inside.reverse ++ seen)) rest := by
  induction inside generalizing seen with
  | nil => rfl
  | cons c inside ih =>
      obtain ⟨hc, hinside⟩ : '"' ≠ c ∧ '"' ∉ inside := by simpa using h
      rw [List.cons_append, scan, if_neg (Ne.symm hc), ih hinside, List.reverse_cons,
        List.append_assoc]
      rfl

/-- Reading what was written gives the tokens again. -/
theorem AllFit.ofLine_written {tokens : List Token} (h : AllFit tokens) :
    ofLine (written tokens) = tokens := by
  induction tokens with
  | nil => rfl
  | cons token rest ih =>
      obtain ⟨hfits, hrest⟩ := h
      have hread : scan (.word []) (written rest) = rest := ih hrest
      obtain ⟨kind, text⟩ := token
      rw [written_cons, ofLine]
      cases kind with
      | word =>
          obtain ⟨hne, hletters, hback⟩ := hfits
          have hword : wordToken (text.reverse ++ []) = [⟨.word, text⟩] := by
            simpa [wordToken] using hne
          rw [scan_word_append hletters, scan_word_of_head hback, hread, hword]
          rfl
      | string =>
          obtain ⟨inside, hinside, rfl | ⟨rfl, hnone⟩⟩ := hfits
          · have hclosed : ('"' :: (inside.reverse ++ ['"'])).reverse =
                '"' :: (inside ++ ['"']) := by
              simp
            rw [List.cons_append, List.append_assoc, scan_quote, scan_string_append hinside,
              List.singleton_append, scan, if_pos rfl, hclosed, hread]
          · have hopen : (inside.reverse ++ ['"']).reverse = '"' :: inside := by
              simp
            rw [hnone, List.cons_append, scan_quote, scan_string_append hinside, scan, hopen,
              hrest.eq_nil_of_written hnone]
      | comment =>
          obtain ⟨hnone, remark, rfl⟩ := hfits
          rw [hnone, List.append_nil, scan, if_pos ⟨rfl, rfl⟩, hrest.eq_nil_of_written hnone]
          rfl
      | other =>
          obtain ⟨c, rfl, hword, hquote, hslash⟩ := hfits
          have hremark : ¬ (c = '/' ∧ (written rest).head? = some '/') :=
            fun ⟨hc, hhead⟩ => hslash hc hhead
          rw [List.singleton_append, scan, if_neg hremark, if_neg hquote,
            if_neg (Bool.eq_false_iff.mp hword), hread]
          rfl

end Reading

/-- A line has one cut, and it is the one that is read. -/
theorem isCut_iff_eq_ofLine {line : Text} {tokens : List Token} :
    IsCut line tokens ↔ tokens = ofLine line := by
  constructor
  · intro h
    rw [← h.allFit.ofLine_written, h.whole]
  · rintro rfl
    have hwhole : written (ofLine line) = line := written_scan (.word []) line
    have hfit : AllFit (ofLine line) := allFit_scan (.word []) line (by simp [Reading.Begun])
    have hcut := hfit.isCut
    rwa [hwhole] at hcut

end Token

/-- Colours change no character. -/
theorem text_highlightLine (line : Text) : (highlightLine line).flatMap Span.text = line := by
  rw [highlightLine, List.flatMap_map]
  exact Token.written_scan (.word []) line

/-- Colouring a line loses nothing. The spans are those of the tokens, in their order; none of them
is empty, and together they are the line. The tokens are the one cut of the line. -/
theorem highlightLine_faithful (line : Text) :
    (highlightLine line).flatMap Span.text = line ∧
      (∀ span ∈ highlightLine line, span.text ≠ []) ∧
      highlightLine line = (Token.ofLine line).map Token.span ∧
      ∀ tokens, Token.IsCut line tokens ↔ tokens = Token.ofLine line := by
  have hcut := Token.isCut_iff_eq_ofLine.mpr (rfl : Token.ofLine line = _)
  refine ⟨text_highlightLine line, ?_, rfl, fun tokens => Token.isCut_iff_eq_ofLine⟩
  intro span hmem
  obtain ⟨token, htoken, rfl⟩ := List.mem_map.mp hmem
  exact hcut.nonempty token htoken

/-- Slashes inside a string, right behind one, and a quote inside the comment. -/
theorem highlightLine_faithful_quotedSlashes :
    Token.IsCut "si x_1=\"//\"//\"".toList
      [⟨.word, "si".toList⟩, ⟨.other, [' ']⟩, ⟨.word, "x_1".toList⟩, ⟨.other, ['=']⟩,
        ⟨.string, "\"//\"".toList⟩, ⟨.comment, "//\"".toList⟩] := by
  have hcut := (highlightLine_faithful "si x_1=\"//\"//\"".toList).2.2.2
  apply (hcut _).mpr
  decide +kernel

end Breadboard
