import Breadboard.Number
import Breadboard.Proofs.Text.Pieces

/-!
The number that a text begins with. Numerals have a grammar, and the number of a text is that of the
longest numeral among its beginnings. The scanner finds it from left to right and part by part: a
sign, then digits with perhaps a point among them, then an exponent. Each part it takes is the
longest that can be taken there. For the whole to be the longest as well, a numeral with an exponent
has to have taken all of its mantissa. So it has, since no exponent begins as a mantissa goes on.
-/

namespace Breadboard

namespace Text

/-- The longest beginning of the text with some property. -/
structure IsLongest (p : Text → Prop) (t front : Text) : Prop where
  starts : front <+: t
  holds : p front
  longest : ∀ other, other <+: t → p other → other.length ≤ front.length

theorem IsLongest.unique {p : Text → Prop} {t front other : Text} (h : IsLongest p t front)
    (hother : IsLongest p t other) : front = other := by
  have hlength : front.length = other.length :=
    Nat.le_antisymm (hother.longest front h.starts h.holds)
      (h.longest other hother.starts hother.holds)
  exact (List.prefix_of_prefix_length_le h.starts hother.starts hlength.le).eq_of_length hlength

/-- What satisfies `p` everywhere is part of what `p` takes from the text. -/
theorem takeWhile_of_starts {p : Char → Bool} {t front : Text} (h : front <+: t)
    (hall : ∀ c ∈ front, p c = true) : front <+: t.takeWhile p := by
  obtain ⟨rest, rfl⟩ := h
  rw [List.takeWhile_append_of_pos hall]
  exact List.prefix_append ..

end Text

namespace Number

open Text

/-- One or more digits. -/
structure IsDigits (t : Text) : Prop where
  nonempty : t ≠ []
  digits : ∀ c ∈ t, isAsciiDigit c = true

def IsSign (t : Text) : Prop :=
  t = [] ∨ t = ['+'] ∨ t = ['-']

inductive IsMantissa : Text → Prop where
  | whole {digits : Text} (h : IsDigits digits) : IsMantissa digits
  | point {digits fraction : Text} (h : IsDigits digits)
      (hfraction : ∀ c ∈ fraction, isAsciiDigit c = true) : IsMantissa (digits ++ '.' :: fraction)
  | fraction {digits : Text} (h : IsDigits digits) : IsMantissa ('.' :: digits)

inductive IsExponent : Text → Prop where
  | none : IsExponent []
  | power {c : Char} {sign digits : Text} (hc : c = 'e' ∨ c = 'E') (hsign : IsSign sign)
      (h : IsDigits digits) : IsExponent (c :: sign ++ digits)

def IsDecimal (t : Text) : Prop :=
  ∃ mantissa exponent, t = mantissa ++ exponent ∧ IsMantissa mantissa ∧ IsExponent exponent

inductive IsNumeral : Text → Prop where
  | infinity {sign : Text} (hsign : IsSign sign) : IsNumeral (sign ++ "Infinity".toList)
  | decimal {sign decimal : Text} (hsign : IsSign sign) (h : IsDecimal decimal) :
      IsNumeral (sign ++ decimal)

/-- What a mantissa is made of. -/
def isMantissaChar (c : Char) : Bool :=
  isAsciiDigit c || c == '.'

section Sign

/-- No sign at the head of the text. -/
def IsUnsigned (t : Text) : Prop :=
  ∀ c, t.head? = some c → c ≠ '+' ∧ c ≠ '-'

theorem isUnsigned_of_isMantissaChar {front : Text} (h : ∀ c ∈ front, isMantissaChar c = true)
    (hne : front ≠ []) (rest : Text) : IsUnsigned (front ++ rest) := by
  intro c hc
  rw [List.head?_append_of_ne_nil _ hne] at hc
  have hchar := h c (List.mem_of_head? hc)
  constructor
  · rintro rfl
    cases hchar
  · rintro rfl
    cases hchar

variable {sign rest : Text}

theorem leadingSign_append (hsign : IsSign sign) (hrest : IsUnsigned rest) :
    leadingSign (sign ++ rest) = sign := by
  rcases hsign with rfl | rfl | rfl
  · unfold leadingSign
    split
    · next more hmore =>
      exact absurd rfl (hrest '-' (congrArg List.head? hmore)).2
    · next more hmore =>
      exact absurd rfl (hrest '+' (congrArg List.head? hmore)).1
    · rfl
  · rfl
  · rfl

theorem afterSign_append (hsign : IsSign sign) (hrest : IsUnsigned rest) :
    afterSign (sign ++ rest) = rest := by
  rw [afterSign, leadingSign_append hsign hrest, List.drop_left]

theorem isSign_leadingSign (t : Text) : IsSign (leadingSign t) := by
  unfold leadingSign
  split
  · exact .inr (.inr rfl)
  · exact .inr (.inl rfl)
  · exact .inl rfl

theorem leadingSign_append_afterSign (t : Text) : leadingSign t ++ afterSign t = t := by
  unfold afterSign leadingSign
  split <;> rfl

theorem leadingSign_append_starts {t body : Text} (h : body <+: afterSign t) :
    leadingSign t ++ body <+: t := by
  have hboth := (List.prefix_append_right_inj (leadingSign t)).mpr h
  rwa [leadingSign_append_afterSign] at hboth

/-- A sign with something unsigned behind it is the sign at the head of the text. -/
theorem leadingSign_of_starts {t body : Text} (hsign : IsSign sign) (hbody : body ≠ [])
    (hunsigned : IsUnsigned body) (h : sign ++ body <+: t) :
    leadingSign t = sign ∧ body <+: afterSign t := by
  obtain ⟨more, rfl⟩ := h
  have hrest : IsUnsigned (body ++ more) := by
    intro c hc
    rw [List.head?_append_of_ne_nil _ hbody] at hc
    exact hunsigned c hc
  rw [List.append_assoc, leadingSign_append hsign hrest, afterSign_append hsign hrest]
  exact ⟨rfl, List.prefix_append ..⟩

end Sign

section Mantissa

theorem IsMantissa.ne_nil {m : Text} (h : IsMantissa m) : m ≠ [] := by
  cases h with
  | whole h => exact h.nonempty
  | point h hfraction => simp
  | fraction h => simp

theorem isMantissaChar_of_isAsciiDigit {c : Char} (h : isAsciiDigit c = true) :
    isMantissaChar c = true := by
  simp [isMantissaChar, h]

theorem IsMantissa.isMantissaChar {m : Text} (h : IsMantissa m) :
    ∀ c ∈ m, Number.isMantissaChar c = true := by
  cases h with
  | whole h => exact fun c hc => isMantissaChar_of_isAsciiDigit (h.digits c hc)
  | point h hfraction =>
      intro c hc
      rcases List.mem_append.mp hc with hdigit | hrest
      · exact isMantissaChar_of_isAsciiDigit (h.digits c hdigit)
      · rcases List.mem_cons.mp hrest with rfl | hdigit
        · rfl
        · exact isMantissaChar_of_isAsciiDigit (hfraction c hdigit)
  | fraction h =>
      intro c hc
      rcases List.mem_cons.mp hc with rfl | hdigit
      · rfl
      · exact isMantissaChar_of_isAsciiDigit (h.digits c hdigit)

/-- What the scanner takes is a mantissa at the head of the text, or nothing. -/
theorem leadingMantissa_cases (t : Text) :
    leadingMantissa t = [] ∨ IsMantissa (leadingMantissa t) ∧ leadingMantissa t <+: t := by
  obtain ⟨hcut, hwhole, _⟩ := span_spec isAsciiDigit t
  unfold leadingMantissa
  generalize t.takeWhile isAsciiDigit = whole at hcut hwhole
  generalize t.dropWhile isAsciiDigit = tail at hcut
  split
  · next rest =>
    obtain ⟨hrest, hfraction, _⟩ := span_spec isAsciiDigit rest
    generalize rest.takeWhile isAsciiDigit = fraction at hrest hfraction
    have hstarts : whole ++ '.' :: fraction <+: t := by
      rw [hcut, hrest]
      simp
    by_cases hdigits : whole = []
    · subst hdigits
      by_cases hdigits' : fraction = []
      · simp [hdigits']
      · right
        simp only [List.isEmpty_nil, Bool.true_and, List.isEmpty_iff, hdigits', if_false]
        exact ⟨.fraction ⟨hdigits', hfraction⟩, hstarts⟩
    · right
      simp only [List.isEmpty_iff, Bool.and_eq_true, hdigits, false_and, if_false]
      exact ⟨.point ⟨hdigits, hwhole⟩ hfraction, hstarts⟩
  · by_cases hdigits : whole = []
    · exact .inl hdigits
    · exact .inr ⟨.whole ⟨hdigits, hwhole⟩, hcut ▸ List.prefix_append ..⟩

theorem span_point {whole : Text} (hwhole : ∀ c ∈ whole, isAsciiDigit c = true) (rest : Text) :
    (whole ++ '.' :: rest).takeWhile isAsciiDigit = whole ∧
      (whole ++ '.' :: rest).dropWhile isAsciiDigit = '.' :: rest := by
  apply span_append hwhole
  rintro c ⟨⟩
  rfl

theorem leadingMantissa_point {whole : Text} (hwhole : ∀ c ∈ whole, isAsciiDigit c = true)
    {rest : Text} (hdigits : whole ≠ [] ∨ rest.takeWhile isAsciiDigit ≠ []) :
    leadingMantissa (whole ++ '.' :: rest) = whole ++ '.' :: rest.takeWhile isAsciiDigit := by
  obtain ⟨htake, hdrop⟩ := span_point hwhole rest
  simp only [leadingMantissa, htake, hdrop, Bool.and_eq_true, List.isEmpty_iff]
  rw [if_neg]
  rintro ⟨hnone, hnone'⟩
  rcases hdigits with hne | hne
  · exact hne hnone
  · exact hne hnone'

theorem takeWhile_starts_leadingMantissa {t : Text} (h : t.takeWhile isAsciiDigit ≠ []) :
    t.takeWhile isAsciiDigit <+: leadingMantissa t := by
  unfold leadingMantissa
  split
  · rw [if_neg (by simp [h])]
    exact List.prefix_append ..
  · exact List.prefix_refl _

/-- No mantissa at the head of the text goes beyond what the scanner takes. -/
theorem IsMantissa.starts_leadingMantissa {m t : Text} (h : IsMantissa m) (hstarts : m <+: t) :
    m <+: leadingMantissa t := by
  cases h with
  | whole h =>
      have hwhole := takeWhile_of_starts hstarts h.digits
      apply hwhole.trans
      apply takeWhile_starts_leadingMantissa
      intro hnone
      exact h.nonempty (List.prefix_nil.mp (hnone ▸ hwhole))
  | @point digits fraction h hfraction =>
      obtain ⟨rest, rfl⟩ := hstarts
      have hmore := takeWhile_of_starts (List.prefix_append fraction rest) hfraction
      rw [List.append_assoc, List.cons_append,
        leadingMantissa_point h.digits (.inl h.nonempty)]
      exact (List.prefix_append_right_inj _).mpr (List.cons_prefix_cons.mpr ⟨rfl, hmore⟩)
  | @fraction digits h =>
      obtain ⟨rest, rfl⟩ := hstarts
      have hmore := takeWhile_of_starts (List.prefix_append digits rest) h.digits
      have hsome : (digits ++ rest).takeWhile isAsciiDigit ≠ [] := fun hnone =>
        h.nonempty (List.prefix_nil.mp (hnone ▸ hmore))
      have hpoint := leadingMantissa_point (by simp : ∀ c ∈ ([] : Text), _) (.inr hsome)
      rw [List.nil_append, List.nil_append] at hpoint
      rw [List.cons_append, hpoint]
      exact List.cons_prefix_cons.mpr ⟨rfl, hmore⟩

/-- A mantissa that nothing behind it can continue is all of what the scanner takes. -/
theorem IsMantissa.leadingMantissa_append {m rest : Text} (h : IsMantissa m)
    (hrest : ∀ c, rest.head? = some c → Number.isMantissaChar c = false) :
    leadingMantissa (m ++ rest) = m := by
  obtain ⟨more, hmore⟩ := h.starts_leadingMantissa (List.prefix_append m rest)
  rcases leadingMantissa_cases (m ++ rest) with hnone | ⟨hmantissa, hstarts⟩
  · rw [hnone] at hmore
    exact absurd (List.append_eq_nil_iff.mp hmore).1 h.ne_nil
  · rw [← hmore] at hmantissa hstarts ⊢
    have htail := (List.prefix_append_right_inj m).mp hstarts
    cases more with
    | nil => rw [List.append_nil]
    | cons c more =>
        obtain ⟨last, rfl⟩ := htail
        have hchar := hmantissa.isMantissaChar c (by simp)
        rw [hrest c rfl] at hchar
        cases hchar

end Mantissa

section Exponent

/-- An exponent does not begin as a mantissa goes on. -/
theorem IsExponent.isMantissaChar_head? {e : Text} (h : IsExponent e) :
    ∀ c, e.head? = some c → isMantissaChar c = false := by
  cases h with
  | none => simp
  | power hc hsign h =>
      rintro d ⟨⟩
      rcases hc with rfl | rfl <;> rfl

theorem isUnsigned_of_isDigits {digits : Text} (h : IsDigits digits) (rest : Text) :
    IsUnsigned (digits ++ rest) :=
  isUnsigned_of_isMantissaChar (fun c hc => isMantissaChar_of_isAsciiDigit (h.digits c hc))
    h.nonempty rest

/-- An exponent at the head of the text has its sign, and its digits are among those that follow. -/
theorem IsDigits.of_starts_power {c d : Char} {sign digits rest : Text} (h : IsDigits digits)
    (hsign : IsSign sign) (hstarts : d :: sign ++ digits <+: c :: rest) :
    d = c ∧ leadingSign rest = sign ∧
      digits <+: (afterSign rest).takeWhile isAsciiDigit := by
  obtain ⟨hd, hrest⟩ := List.cons_prefix_cons.mp hstarts
  have hunsigned := isUnsigned_of_isDigits h []
  rw [List.append_nil] at hunsigned
  obtain ⟨hleading, hdigits⟩ := leadingSign_of_starts hsign h.nonempty hunsigned hrest
  exact ⟨hd, hleading, takeWhile_of_starts hdigits h.digits⟩

theorem isLongest_leadingExponent (t : Text) : IsLongest IsExponent t (leadingExponent t) := by
  cases t with
  | nil => exact ⟨List.prefix_refl _, .none, fun other h _ => h.length_le⟩
  | cons c rest =>
      have hdigits : (afterSign rest).takeWhile isAsciiDigit <+:
          afterSign rest := List.takeWhile_prefix _
      simp only [leadingExponent]
      split
      · next htaken =>
        simp only [Bool.and_eq_true, Bool.or_eq_true, beq_iff_eq, Bool.not_eq_true',
          List.isEmpty_eq_false_iff] at htaken
        refine ⟨?_, ?_, ?_⟩
        · exact List.cons_prefix_cons.mpr ⟨rfl, leadingSign_append_starts hdigits⟩
        · exact .power htaken.1 (isSign_leadingSign rest)
            ⟨htaken.2, fun d hd => List.mem_takeWhile_imp hd⟩
        · intro other hstarts hother
          cases hother with
          | none => exact Nat.zero_le _
          | power hd hsign' h =>
              obtain ⟨rfl, rfl, hshorter⟩ := h.of_starts_power hsign' hstarts
              have := hshorter.length_le
              simp only [List.length_cons, List.length_append]
              omega
      · next htaken =>
        refine ⟨List.nil_prefix, .none, ?_⟩
        intro other hstarts hother
        cases hother with
        | none => exact Nat.le_refl _
        | power hd hsign' h =>
            exfalso
            apply htaken
            obtain ⟨rfl, rfl, hshorter⟩ := h.of_starts_power hsign' hstarts
            simp only [Bool.and_eq_true, Bool.or_eq_true, beq_iff_eq, Bool.not_eq_true',
              List.isEmpty_eq_false_iff]
            refine ⟨hd, fun hnone => ?_⟩
            exact h.nonempty (List.prefix_nil.mp (hnone ▸ hshorter))

end Exponent

section Numeral

variable {t : Text}

theorem IsDecimal.exists_cons (h : IsDecimal t) :
    ∃ c rest, t = c :: rest ∧ isMantissaChar c = true := by
  obtain ⟨m, e, rfl, hm, _⟩ := h
  obtain ⟨c, rest, rfl⟩ := List.exists_cons_of_ne_nil hm.ne_nil
  exact ⟨c, rest ++ e, rfl, hm.isMantissaChar c List.mem_cons_self⟩

/-- The longest mantissa and behind it the longest exponent make the longest decimal number: one
that has an exponent cannot have left anything of its mantissa. -/
theorem isLongest_decimal (h : leadingMantissa t ≠ []) :
    IsLongest IsDecimal t
      (leadingMantissa t ++ leadingExponent (t.drop (leadingMantissa t).length)) := by
  obtain ⟨hmantissa, rest, hrest⟩ := (leadingMantissa_cases t).resolve_left h
  have hdrop : t.drop (leadingMantissa t).length = rest :=
    calc t.drop (leadingMantissa t).length
        = (leadingMantissa t ++ rest).drop (leadingMantissa t).length := by rw [hrest]
      _ = rest := List.drop_left
  rw [hdrop]
  have hexponent := isLongest_leadingExponent rest
  refine ⟨?_, ⟨_, _, rfl, hmantissa, hexponent.holds⟩, ?_⟩
  · nth_rewrite 2 [← hrest]
    exact (List.prefix_append_right_inj _).mpr hexponent.starts
  · rintro other hstarts ⟨m, e, rfl, hm, he⟩
    rw [List.length_append, List.length_append]
    by_cases hnone : e = []
    · have hstarts' : m <+: t := (List.prefix_append m e).trans hstarts
      have hshorter := (hm.starts_leadingMantissa hstarts').length_le
      rw [hnone, List.length_nil]
      omega
    · obtain ⟨more, rfl⟩ := hstarts
      have hwhole : leadingMantissa (m ++ e ++ more) = m := by
        rw [List.append_assoc]
        apply hm.leadingMantissa_append
        rw [List.head?_append_of_ne_nil _ hnone]
        exact he.isMantissaChar_head?
      rw [hwhole, List.append_assoc, List.append_cancel_left_eq] at hrest
      have hshorter := hexponent.longest e (hrest ▸ List.prefix_append e more) he
      rw [hwhole]
      omega

/-- Without its sign, a numeral at the head of the text is at the head of what follows the sign. -/
theorem IsNumeral.cases_of_starts {p : Text} (h : IsNumeral p) (hstarts : p <+: t) :
    ∃ body, p = leadingSign t ++ body ∧ body <+: afterSign t ∧
      (body = "Infinity".toList ∨ IsDecimal body) := by
  cases h with
  | infinity hsign =>
      have hunsigned : IsUnsigned "Infinity".toList := by
        rintro c ⟨⟩
        decide
      obtain ⟨rfl, hrest⟩ := leadingSign_of_starts hsign (by decide) hunsigned hstarts
      exact ⟨_, rfl, hrest, .inl rfl⟩
  | decimal hsign hdecimal =>
      obtain ⟨c, rest, rfl, hc⟩ := hdecimal.exists_cons
      have hunsigned : IsUnsigned (c :: rest) :=
        isUnsigned_of_isMantissaChar (by simpa using hc : ∀ d ∈ [c], _) (by simp) rest
      obtain ⟨rfl, hrest⟩ := leadingSign_of_starts hsign (by simp) hunsigned hstarts
      exact ⟨_, rfl, hrest, .inr hdecimal⟩

theorem isLongest_infinity (h : "Infinity".toList <+: afterSign t) :
    IsLongest IsNumeral t (leadingSign t ++ "Infinity".toList) := by
  refine ⟨leadingSign_append_starts h, .infinity (isSign_leadingSign t), ?_⟩
  intro other hstarts hother
  obtain ⟨body, rfl, hbody, rfl | hdecimal⟩ := hother.cases_of_starts hstarts
  · exact Nat.le_refl _
  · obtain ⟨c, rest, rfl, hc⟩ := hdecimal.exists_cons
    obtain ⟨more, hmore⟩ := hbody
    rw [← hmore] at h
    obtain ⟨rfl, _⟩ := List.cons_prefix_cons.mp h
    cases hc

theorem not_isNumeral_of_leadingMantissa_eq_nil
    (hinfinity : ¬"Infinity".toList <+: afterSign t)
    (hmantissa : leadingMantissa (afterSign t) = []) :
    ∀ p, p <+: t → ¬IsNumeral p := by
  intro p hstarts hp
  obtain ⟨body, _, hbody, rfl | ⟨m, e, rfl, hm, _⟩⟩ := hp.cases_of_starts hstarts
  · exact hinfinity hbody
  · have hshorter := hm.starts_leadingMantissa ((List.prefix_append m e).trans hbody)
    rw [hmantissa] at hshorter
    exact hm.ne_nil (List.prefix_nil.mp hshorter)

theorem isLongest_signed {body : Text}
    (hinfinity : ¬"Infinity".toList <+: afterSign t)
    (hbody : IsLongest IsDecimal (afterSign t) body) :
    IsLongest IsNumeral t (leadingSign t ++ body) := by
  refine ⟨leadingSign_append_starts hbody.starts,
    .decimal (isSign_leadingSign t) hbody.holds, ?_⟩
  intro other hstarts hother
  obtain ⟨body', rfl, hbody', rfl | hdecimal⟩ := hother.cases_of_starts hstarts
  · exact absurd hbody' hinfinity
  · have hshorter := hbody.longest body' hbody' hdecimal
    rw [List.length_append, List.length_append]
    omega

end Numeral

section Value

theorem ofDecimal_ne_notANumber (negative : Bool) (coefficient : Nat) (exponent : Int) :
    ofDecimal negative coefficient exponent ≠ .notANumber := by
  have hratio (num den : Nat) : ofRatio negative num den ≠ .notANumber := by
    simp only [ofRatio]
    split <;> simp
  simp only [ofDecimal]
  split
  · simp
  · split
    · simp
    · cases exponent with
      | ofNat e => exact hratio _ _
      | negSucc e => exact hratio _ _

theorem exists_exponent? {e : Text} (h : IsExponent e) : ∃ n, exponent? e = some n := by
  cases h with
  | none => exact ⟨0, rfl⟩
  | @power c sign digits hc hsign h =>
      have hunsigned := isUnsigned_of_isDigits h []
      rw [List.append_nil] at hunsigned
      have hletter : (c == 'e' || c == 'E') = true := by
        rcases hc with rfl | rfl <;> rfl
      have hdigits : (!digits.isEmpty && digits.all isAsciiDigit) = true := by
        simpa [h.nonempty] using h.digits
      refine ⟨if isNegative (sign ++ digits) then -digitsValue digits else digitsValue digits, ?_⟩
      rw [List.cons_append, exponent?, afterSign_append hsign hunsigned]
      simp [guard, hletter, hdigits]

theorem ofText?_infinity {sign : Text} (hsign : IsSign sign) :
    ofText? (sign ++ "Infinity".toList) = some (.infinite (sign == ['-'])) := by
  rcases hsign with rfl | rfl | rfl <;> decide

theorem toLower_of_isMantissaChar {c : Char} (h : isMantissaChar c = true) : c.toLower = c := by
  rcases Bool.or_eq_true_iff.mp h with hdigit | hpoint
  · obtain ⟨_, hnine⟩ : '0' ≤ c ∧ c ≤ '9' := by simpa [isAsciiDigit] using hdigit
    apply dif_neg
    rintro ⟨hA, _⟩
    exact absurd (UInt32.le_trans hA hnine) (by decide)
  · rw [beq_iff_eq.mp hpoint]
    rfl

/-- No decimal number is one of the names. -/
theorem IsDecimal.sameLetters_eq_false {decimal : Text} (h : IsDecimal decimal) {c : Char}
    (hc : isMantissaChar c.toLower = false) (word : Text) :
    decimal.sameLetters (c :: word) = false := by
  obtain ⟨d, rest, rfl, hd⟩ := h.exists_cons
  rw [Bool.eq_false_iff]
  intro hsame
  rw [sameLetters_iff, asciiLower, asciiLower, List.map_cons, List.map_cons] at hsame
  obtain ⟨hletter, _⟩ := List.cons.inj hsame
  rw [← hletter, toLower_of_isMantissaChar hd, hd] at hc
  cases hc

/-- The digits in front of the point and those behind it; they are not both missing. -/
theorem IsMantissa.exists_digits {m rest : Text} (h : IsMantissa m)
    (hrest : ∀ c, rest.head? = some c → Number.isMantissaChar c = false) :
    ∃ whole fraction, (whole ≠ [] ∨ fraction ≠ []) ∧
      (m ++ rest).takeWhile isAsciiDigit = whole ∧
        takeFraction ((m ++ rest).dropWhile isAsciiDigit) = (fraction, rest) := by
  have hends : ∀ c, rest.head? = some c → isAsciiDigit c = false ∧ c ≠ '.' := by
    intro c hc
    simpa [Number.isMantissaChar] using hrest c hc
  have hpoint {whole fraction : Text} (hwhole : ∀ c ∈ whole, isAsciiDigit c = true)
      (hfraction : ∀ c ∈ fraction, isAsciiDigit c = true) :
      (whole ++ '.' :: fraction ++ rest).takeWhile isAsciiDigit = whole ∧
        takeFraction ((whole ++ '.' :: fraction ++ rest).dropWhile isAsciiDigit) =
          (fraction, rest) := by
    rw [List.append_assoc, List.cons_append]
    obtain ⟨htake, hdrop⟩ := span_point hwhole (fraction ++ rest)
    obtain ⟨htake', hdrop'⟩ := span_append hfraction fun c hc => (hends c hc).1
    rw [htake, hdrop, takeFraction, htake', hdrop']
    exact ⟨rfl, rfl⟩
  cases h with
  | whole h =>
      obtain ⟨htake, hdrop⟩ := span_append h.digits fun c hc => (hends c hc).1
      refine ⟨m, [], .inl h.nonempty, htake, ?_⟩
      rw [hdrop]
      unfold takeFraction
      split
      · exact absurd rfl (hends '.' rfl).2
      · rfl
  | point h hfraction => exact ⟨_, _, .inl h.nonempty, hpoint h.digits hfraction⟩
  | fraction h => exact ⟨[], _, .inr h.nonempty, hpoint (List.forall_mem_nil _) h.digits⟩

/-- The whole numeral is read, and it is a number. -/
theorem exists_ofText? {sign decimal : Text} (hsign : IsSign sign) (h : IsDecimal decimal) :
    ∃ x, ofText? (sign ++ decimal) = some x ∧ x ≠ .notANumber := by
  have hinf : decimal.sameLetters "inf".toList = false := h.sameLetters_eq_false rfl _
  have hinfinity : decimal.sameLetters "infinity".toList = false := h.sameLetters_eq_false rfl _
  have hnan : decimal.sameLetters "nan".toList = false := h.sameLetters_eq_false rfl _
  obtain ⟨m, e, rfl, hm, he⟩ := h
  have hunsigned := isUnsigned_of_isMantissaChar hm.isMantissaChar hm.ne_nil e
  obtain ⟨whole, fraction, hdigits, hwhole, hfraction⟩ := hm.exists_digits he.isMantissaChar_head?
  obtain ⟨n, hn⟩ := exists_exponent? he
  refine ⟨ofDecimal (isNegative (sign ++ (m ++ e))) (digitsValue (whole ++ fraction))
    (n - fraction.length), ?_, ofDecimal_ne_notANumber _ _ _⟩
  rw [ofText?, afterSign_append hsign hunsigned]
  have hguard : (!(whole.isEmpty && fraction.isEmpty)) = true := by
    rw [Bool.not_eq_true', Bool.and_eq_false_iff, List.isEmpty_eq_false_iff,
      List.isEmpty_eq_false_iff]
    exact hdigits
  simp only [hinf, hinfinity, hnan, hwhole, hfraction, hn, hguard, Bool.or_self,
    Bool.false_eq_true, if_false, guard, if_true]
  rfl

end Value

section Leading

variable {t : Text}

theorem leading_of_infinity (h : "Infinity".toList <+: afterSign t.trimStart) :
    leading t = .infinite (isNegative t.trimStart) := by
  rw [leading, if_pos (List.isPrefixOf_iff_prefix.mpr h)]

theorem leading_of_mantissa (hinfinity : ¬"Infinity".toList <+: afterSign t.trimStart) :
    let unsigned := afterSign t.trimStart
    leading t = if leadingMantissa unsigned = [] then .notANumber
      else (ofText? (leadingSign t.trimStart ++ (leadingMantissa unsigned ++
        leadingExponent (unsigned.drop (leadingMantissa unsigned).length)))).getD .notANumber := by
  intro unsigned
  rw [leading, if_neg (List.isPrefixOf_iff_prefix.not.mpr hinfinity)]
  simp only [List.isEmpty_iff, List.append_assoc]
  rfl

/-- The scanner stops behind the longest numeral or finds that there is none; it reads what it took,
and never in vain. -/
theorem leading_cases (t : Text) :
    (leading t = .notANumber ∧ ∀ p, p <+: t.trimStart → ¬IsNumeral p) ∨
      ∃ p, IsLongest IsNumeral t.trimStart p ∧ ofText? p = some (leading t) ∧
        leading t ≠ .notANumber := by
  by_cases hinfinity : "Infinity".toList <+: afterSign t.trimStart
  · right
    refine ⟨_, isLongest_infinity hinfinity, ?_, ?_⟩
    · rw [leading_of_infinity hinfinity]
      exact ofText?_infinity (isSign_leadingSign _)
    · rw [leading_of_infinity hinfinity]
      simp
  · have hleading := leading_of_mantissa hinfinity
    by_cases hmantissa : leadingMantissa (afterSign t.trimStart) = []
    · left
      refine ⟨?_, not_isNumeral_of_leadingMantissa_eq_nil hinfinity hmantissa⟩
      rw [hleading, if_pos hmantissa]
    · right
      have hlongest := isLongest_decimal hmantissa
      obtain ⟨x, hread, hx⟩ := exists_ofText? (isSign_leadingSign t.trimStart) hlongest.holds
      rw [hleading, if_neg hmantissa, hread]
      exact ⟨_, isLongest_signed hinfinity hlongest, hread, hx⟩

end Leading

/-- The number of a text is what its longest numeral reads as, blanks at the start aside. Reading it
never fails, so a text without a number is one without a numeral. -/
theorem leading_longest (t : Text) :
    ((∀ p, p <+: t.trimStart → ¬IsNumeral p) → leading t = .notANumber) ∧
    ((∃ p, p <+: t.trimStart ∧ IsNumeral p) → ∃ p, IsLongest IsNumeral t.trimStart p) ∧
    ∀ p, IsLongest IsNumeral t.trimStart p →
      ofText? p = some (leading t) ∧ leading t ≠ .notANumber ∧
      ∀ sign, IsSign sign → p = sign ++ "Infinity".toList →
        leading t = .infinite (sign == ['-']) := by
  rcases leading_cases t with ⟨hnone, hno⟩ | ⟨p, hlongest, hread, hnumber⟩
  · refine ⟨fun _ => hnone, ?_, ?_⟩
    · rintro ⟨p, hstarts, hp⟩
      exact absurd hp (hno p hstarts)
    · intro p hp
      exact absurd hp.holds (hno p hp.starts)
  · refine ⟨fun hno => absurd hlongest.holds (hno p hlongest.starts), fun _ => ⟨p, hlongest⟩, ?_⟩
    intro q hq
    obtain rfl := hlongest.unique hq
    refine ⟨hread, hnumber, ?_⟩
    rintro sign hsign rfl
    rw [ofText?_infinity hsign] at hread
    exact (Option.some.inj hread).symm

/-- A point without a fraction, and an exponent that is cut short; an infinity with more behind it;
and a text that begins like a number and is none. -/
theorem leading_longest_cutShort :
    (IsLongest IsNumeral "-5.e+".toList "-5.".toList ∧
      leading " -5.e+".toList = .finite true (5 * one)) ∧
    leading "-Infinity5".toList = .infinite true ∧
    leading "-.e5".toList = .notANumber := by
  refine ⟨?_, ?_, ?_⟩
  · have hlongest : IsLongest IsNumeral "-5.e+".toList "-5.".toList :=
      isLongest_signed (by decide) (isLongest_decimal (by decide))
    refine ⟨hlongest, ?_⟩
    obtain ⟨hread, _⟩ := (leading_longest " -5.e+".toList).2.2 _ hlongest
    have hvalue : ofText? "-5.".toList = some (.finite true (5 * one)) := by decide +kernel
    exact Option.some.inj (hread.symm.trans hvalue)
  · have hlongest : IsLongest IsNumeral "-Infinity5".toList "-Infinity".toList :=
      isLongest_infinity (by decide)
    exact ((leading_longest "-Infinity5".toList).2.2 _ hlongest).2.2 ['-'] (.inr (.inr rfl)) rfl
  · apply (leading_longest "-.e5".toList).1
    exact not_isNumeral_of_leadingMantissa_eq_nil (by decide) (by decide)

end Number

end Breadboard
