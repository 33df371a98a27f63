import Breadboard.Proofs.Text.Pieces
import Breadboard.Text.Letter
import Breadboard.Text.LowerCase

/-!
The case of A to Z. Lower case moves twenty-six characters and no other, and what it moves is a
letter before and after. So it keeps apart what the language keeps apart: blanks, letters of names
and all punctuation. Two texts that are equal up to case can therefore be cut at the same places,
and pieces at the same place are again equal up to case.
-/

namespace Breadboard

namespace Text

section Character

variable {c d : Char}

theorem isAlpha_iff :
    c.isAlpha = true ↔ (65 ≤ c.toNat ∧ c.toNat ≤ 90) ∨ (97 ≤ c.toNat ∧ c.toNat ≤ 122) := by
  have hupper : c.isUpper = true ↔ 65 ≤ c.toNat ∧ c.toNat ≤ 90 := decide_eq_true_iff
  have hlower : c.isLower = true ↔ 97 ≤ c.toNat ∧ c.toNat ≤ 122 :=
    Bool.and_eq_true_iff.trans (and_congr decide_eq_true_iff decide_eq_true_iff)
  rw [← hupper, ← hlower]
  exact Bool.or_eq_true_iff

/-- Only capitals move, and all by the same distance. -/
theorem toLower_cases (c : Char) :
    c.toLower = c ∨ 65 ≤ c.toNat ∧ c.toNat ≤ 90 ∧ c.toLower.toNat = c.toNat + 32 := by
  by_cases hupper : 'A'.val ≤ c.val ∧ c.val ≤ 'Z'.val
  · right
    have hval : c.toLower.val = c.val + 32 := congrArg Char.val (dif_pos hupper)
    have hfirst : 65 ≤ c.toNat := UInt32.le_iff_toNat_le.mp hupper.1
    have hlast : c.toNat ≤ 90 := UInt32.le_iff_toNat_le.mp hupper.2
    refine ⟨hfirst, hlast, ?_⟩
    calc c.toLower.toNat = (c.val + 32).toNat := congrArg UInt32.toNat hval
      _ = (c.toNat + 32) % 2 ^ 32 := UInt32.toNat_add c.val 32
      _ = c.toNat + 32 := Nat.mod_eq_of_lt (by omega)
  · exact .inl (dif_neg hupper)

theorem toLower_toLower (c : Char) : c.toLower.toLower = c.toLower := by
  rcases toLower_cases c.toLower with hsame | ⟨hfirst, hlast, _⟩
  · exact hsame
  · rcases toLower_cases c with hsame | ⟨_, _, hmoved⟩
    · rw [hsame, hsame]
    · omega

/-- A property that all letters share, or that none has, does not depend on their case. -/
theorem toLower_of_isAlpha {p : Char → Bool} {b : Bool} (h : ∀ c : Char, c.isAlpha = true → p c = b)
    (c : Char) : p c.toLower = p c := by
  rcases toLower_cases c with hsame | ⟨hfirst, hlast, hmoved⟩
  · rw [hsame]
  · rw [h c (isAlpha_iff.mpr (by omega)), h c.toLower (isAlpha_iff.mpr (by omega))]

/-- What is no letter is equal up to case to itself only. -/
theorem eq_of_toLower_eq (hd : d.isAlpha = false) (h : c.toLower = d.toLower) : c = d := by
  rw [Bool.eq_false_iff, ne_eq, isAlpha_iff] at hd
  rcases toLower_cases d with hsame | ⟨hfirst, hlast, _⟩
  · rw [hsame] at h
    rcases toLower_cases c with hsame' | ⟨hfirst, hlast, hmoved⟩
    · exact hsame'.symm.trans h
    · rw [h] at hmoved
      omega
  · omega

theorem isBlank_eq_false_of_isAlpha (h : c.isAlpha = true) : isBlank c = false := by
  rw [isAlpha_iff] at h
  rw [Bool.eq_false_iff]
  intro hblank
  simp only [isBlank, Bool.or_eq_true, Bool.and_eq_true, decide_eq_true_eq, beq_iff_eq] at hblank
  omega

theorem isBlank_toLower (c : Char) : isBlank c.toLower = isBlank c :=
  toLower_of_isAlpha (fun _ => isBlank_eq_false_of_isAlpha) c

theorem isLetter_of_isAlpha (h : c.isAlpha = true) : isLetter c = true := by
  rw [isLetter, h, Bool.true_or]

theorem isLetter_toLower (c : Char) : isLetter c.toLower = isLetter c :=
  toLower_of_isAlpha (fun _ => isLetter_of_isAlpha) c

theorem isNameChar_of_isAlpha (h : c.isAlpha = true) : isNameChar c = true := by
  rw [isNameChar, isLetter_of_isAlpha h, Bool.true_or, Bool.true_or]

theorem isNameChar_toLower (c : Char) : isNameChar c.toLower = isNameChar c :=
  toLower_of_isAlpha (fun _ => isNameChar_of_isAlpha) c

theorem lowerChar_toLower (c : Char) : lowerChar c.toLower = lowerChar c := by
  rcases toLower_cases c with hsame | ⟨_, hlast, hmoved⟩
  · rw [hsame]
  · rw [lowerChar, if_pos (by omega), lowerChar, if_pos (by omega), toLower_toLower]

end Character

section Cuts

variable {t front back rest : Text} {c : Char}

theorem asciiLower_append (front back : Text) :
    (front ++ back).asciiLower = front.asciiLower ++ back.asciiLower :=
  List.map_append

/-- What is equal up to case to two pieces has two such pieces. -/
theorem exists_append_of_asciiLower_eq (h : t.asciiLower = (front ++ back).asciiLower) :
    ∃ front' back', t = front' ++ back' ∧ front'.asciiLower = front.asciiLower ∧
      back'.asciiLower = back.asciiLower := by
  rw [asciiLower_append] at h
  exact List.map_eq_append_iff.mp h

theorem exists_cons_of_asciiLower_eq (hc : c.isAlpha = false)
    (h : t.asciiLower = asciiLower (c :: rest)) :
    ∃ rest' : Text, t = c :: rest' ∧ rest'.asciiLower = rest.asciiLower := by
  obtain ⟨d, rest', rfl, hd, hrest⟩ := List.map_eq_cons_iff.mp h
  exact ⟨rest', by rw [eq_of_toLower_eq hc hd], hrest⟩

theorem cutAtBlanks_asciiLower (t : Text) :
    cutAtBlanks t.asciiLower = (cutAtBlanks t).map asciiLower := by
  induction t with
  | nil => rfl
  | cons c rest ih =>
      change cutAtBlanks (c.toLower :: asciiLower rest) = _
      rw [cutAtBlanks, cutAtBlanks, isBlank_toLower, ih]
      split
      · rfl
      · cases cutAtBlanks rest with
        | nil => rfl
        | cons piece pieces => rfl

/-- Lower case makes no blank and takes none away. -/
theorem words_asciiLower (t : Text) : t.asciiLower.words = t.words.map asciiLower := by
  have hempty (piece : Text) : piece.asciiLower.isEmpty = piece.isEmpty := by
    cases piece with
    | nil => rfl
    | cons c rest => rfl
  rw [words, cutAtBlanks_asciiLower, List.filter_map]
  simp only [Function.comp_def, hempty]
  rfl

/-- What is no letter is in a text if it is there in lower case. -/
theorem mem_asciiLower_iff (hc : c.isAlpha = false) : c ∈ t.asciiLower ↔ c ∈ t := by
  have hlower : c.toLower = c := by
    rw [Bool.eq_false_iff, ne_eq, isAlpha_iff] at hc
    rcases toLower_cases c with hsame | hmoved
    · exact hsame
    · omega
  constructor
  · intro hmem
    obtain ⟨d, hd, hletter⟩ := List.mem_map.mp hmem
    rwa [← eq_of_toLower_eq hc (hletter.trans hlower.symm)]
  · intro hmem
    rw [← hlower]
    exact List.mem_map_of_mem hmem

theorem length_eq_of_asciiLower_eq {u : Text} (h : t.asciiLower = u.asciiLower) :
    t.length = u.length := by
  rw [← length_asciiLower t, h, length_asciiLower]

theorem eq_nil_of_asciiLower_eq (h : t.asciiLower = asciiLower []) : t = [] :=
  List.map_eq_nil_iff.mp h

section Property

variable {u : Text} {p : Char → Bool} (hp : ∀ c : Char, p c.toLower = p c)
  (h : t.asciiLower = u.asciiLower)

include hp h

theorem forall_of_asciiLower_eq (hu : ∀ c ∈ u, p c = true) : ∀ c ∈ t, p c = true := by
  intro c hc
  have hlower : c.toLower ∈ u.asciiLower := h ▸ List.mem_map_of_mem hc
  obtain ⟨d, hd, hletter⟩ := List.mem_map.mp hlower
  rw [← hp c, ← hletter, hp d, hu d hd]

theorem head?_of_asciiLower_eq (hu : ∀ c, u.head? = some c → p c = false) :
    ∀ c, t.head? = some c → p c = false := by
  intro c hc
  have hlower : u.asciiLower.head? = some c.toLower := by
    rw [← h, asciiLower, List.head?_map, hc]
    rfl
  rw [asciiLower, List.head?_map] at hlower
  obtain ⟨d, hd, hletter⟩ := Option.map_eq_some_iff.mp hlower
  rw [← hp c, ← hletter, hp d, hu d hd]

end Property

theorem isTrimmed_of_asciiLower_eq {u : Text} (h : t.asciiLower = u.asciiLower)
    (hu : IsTrimmed u) : IsTrimmed t := by
  constructor
  · exact head?_of_asciiLower_eq isBlank_toLower h hu.start
  · have hreverse : asciiLower t.reverse = asciiLower u.reverse := by
      rw [asciiLower, asciiLower, List.map_reverse, List.map_reverse]
      exact congrArg List.reverse h
    have hstop := head?_of_asciiLower_eq isBlank_toLower hreverse
    rw [List.head?_reverse, List.head?_reverse] at hstop
    exact hstop hu.stop

end Cuts

/-- Two parts that are equal up to case, at the same place of two texts. -/
structure SamePlace (t t' part part' : Text) : Prop where
  cut : ∃ before after before' after', t = before ++ part ++ after ∧
    t' = before' ++ part' ++ after' ∧ before.length = before'.length
  letters : part.asciiLower = part'.asciiLower

theorem SamePlace.trans {t t' part part' inner inner' : Text} (h : SamePlace t t' part part')
    (hinner : SamePlace part part' inner inner') : SamePlace t t' inner inner' := by
  obtain ⟨before, after, before', after', rfl, rfl, hlength⟩ := h.cut
  obtain ⟨front, back, front', back', rfl, rfl, hlength'⟩ := hinner.cut
  refine ⟨⟨before ++ front, back ++ after, before' ++ front', back' ++ after', ?_, ?_, ?_⟩,
    hinner.letters⟩
  · simp
  · simp
  · rw [List.length_append, List.length_append, hlength, hlength']

theorem samePlace_trim {t t' : Text} (h : t.asciiLower = t'.asciiLower) :
    SamePlace t t' t.trim t'.trim := by
  obtain ⟨⟨gap, gap', ht, hgap, hgap'⟩, htrimmed⟩ := trim_eq_iff.mp (rfl : t.trim = t.trim)
  have hletters : t'.asciiLower = (gap ++ t.trim ++ gap').asciiLower := by rw [← ht, h]
  obtain ⟨front, blank', hcut, hfront, hblank'⟩ := exists_append_of_asciiLower_eq hletters
  obtain ⟨blank, core, rfl, hblank, hcore⟩ := exists_append_of_asciiLower_eq hfront
  have hcore' : t'.trim = core := trim_eq_iff.mpr
    ⟨⟨blank, blank', hcut, forall_of_asciiLower_eq isBlank_toLower hblank hgap,
      forall_of_asciiLower_eq isBlank_toLower hblank' hgap'⟩,
      isTrimmed_of_asciiLower_eq hcore htrimmed⟩
  rw [hcore']
  exact ⟨⟨gap, gap', blank, blank', ht, hcut, (length_eq_of_asciiLower_eq hblank).symm⟩,
    hcore.symm⟩

end Text

end Breadboard
