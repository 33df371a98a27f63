import Breadboard.Proofs.Condition.Grammar
import Breadboard.Proofs.Number.Leading

/-!
What a comparison says about two numbers. A condition compares the number that a value begins with
to the number that a literal begins with. Numbers are compared by their places on the number line,
where both zeros share a place and an infinity lies beyond all that is finite. A text without a
number has no place. It differs from everything and is in no order with anything, itself included,
so "different" is the opposite of "equal" for all texts and the other comparisons have no opposite.
-/

namespace Breadboard

namespace Number

/-- A finite number is below the power of two that is beyond them all. -/
def InRange (a : Number) : Prop :=
  ∀ negative units, a = .finite negative units → units < beyond

/-- The order of the numbers, by sign and size. What is not a number is before nothing. -/
inductive Before : Number → Number → Prop where
  | infinities : Before (.infinite true) (.infinite false)
  | fromBelow (negative : Bool) (units : Nat) : Before (.infinite true) (.finite negative units)
  | toAbove (negative : Bool) (units : Nat) : Before (.finite negative units) (.infinite false)
  | across {units units' : Nat} (h : units ≠ 0 ∨ units' ≠ 0) :
      Before (.finite true units) (.finite false units')
  | negative {units units' : Nat} (h : units' < units) :
      Before (.finite true units) (.finite true units')
  | positive {units units' : Nat} (h : units < units') :
      Before (.finite false units) (.finite false units')

/-- The same number, whatever the sign of a zero. -/
inductive Same : Number → Number → Prop where
  | infinite (negative : Bool) : Same (.infinite negative) (.infinite negative)
  | finite (negative : Bool) (units : Nat) :
      Same (.finite negative units) (.finite negative units)
  | zeros (negative negative' : Bool) : Same (.finite negative 0) (.finite negative' 0)

theorem beyond_pos : 0 < beyond := by decide +kernel

section Place

variable {a b : Number} {x y : Int}

theorem ne_of_place? (hx : a.place? = some x) : a ≠ .notANumber := by
  rintro rfl
  cases hx

theorem exists_place (h : a ≠ .notANumber) : ∃ x, a.place? = some x := by
  cases a with
  | notANumber => exact absurd rfl h
  | infinite negative => exact ⟨_, rfl⟩
  | finite negative units => exact ⟨_, rfl⟩

theorem eq_of_place?_infinite {negative : Bool} (hx : (infinite negative).place? = some x) :
    x = if negative then -(beyond : Int) else beyond :=
  (Option.some.inj hx).symm

theorem eq_of_place?_finite {negative : Bool} {units : Nat}
    (hx : (finite negative units).place? = some x) :
    x = if negative then -(units : Int) else units :=
  (Option.some.inj hx).symm

theorem Before.place_lt (h : Before a b) (ha : a.InRange) (hb : b.InRange)
    (hx : a.place? = some x) (hy : b.place? = some y) : x < y := by
  have hbeyond := beyond_pos
  -- the bound has six hundred digits, so it is made a variable before any arithmetic
  cases h with
  | infinities =>
    rw [eq_of_place?_infinite hx, eq_of_place?_infinite hy]
    generalize beyond = limit at hbeyond ⊢
    simp
    omega
  | fromBelow negative units =>
    have hlimit := hb negative units rfl
    rw [eq_of_place?_infinite hx, eq_of_place?_finite hy]
    generalize beyond = limit at hlimit ⊢
    cases negative <;> simp <;> omega
  | toAbove negative units =>
    have hlimit := ha negative units rfl
    rw [eq_of_place?_finite hx, eq_of_place?_infinite hy]
    generalize beyond = limit at hlimit ⊢
    cases negative <;> simp <;> omega
  | across hsome | negative hlt | positive hlt =>
    rw [eq_of_place?_finite hx, eq_of_place?_finite hy]
    simp
    omega

theorem Same.place_eq (h : Same a b) (hx : a.place? = some x) (hy : b.place? = some y) :
    x = y := by
  cases h with
  | infinite negative => exact Option.some.inj (hx.symm.trans hy)
  | finite negative units => exact Option.some.inj (hx.symm.trans hy)
  | zeros negative negative' =>
    cases negative <;> cases negative' <;> exact Option.some.inj (hx.symm.trans hy)

theorem before_or_same_or_before_finite {negative negative' : Bool} {units units' : Nat} :
    Before (.finite negative units) (.finite negative' units') ∨
      Same (.finite negative units) (.finite negative' units') ∨
      Before (.finite negative' units') (.finite negative units) := by
  by_cases hzeros : units = 0 ∧ units' = 0
  · obtain ⟨rfl, rfl⟩ := hzeros
    exact .inr (.inl (.zeros negative negative'))
  have hsome : units ≠ 0 ∨ units' ≠ 0 := not_and_or.mp hzeros
  cases negative <;> cases negative'
  · rcases Nat.lt_trichotomy units units' with hlt | rfl | hgt
    · exact .inl (.positive hlt)
    · exact .inr (.inl (.finite false units))
    · exact .inr (.inr (.positive hgt))
  · exact .inr (.inr (.across hsome.symm))
  · exact .inl (.across hsome)
  · rcases Nat.lt_trichotomy units units' with hlt | rfl | hgt
    · exact .inr (.inr (.negative hlt))
    · exact .inr (.inl (.finite true units))
    · exact .inl (.negative hgt)

/-- Any two numbers are in order one way or the other, or are the same. -/
theorem before_or_same_or_before (ha : a ≠ .notANumber) (hb : b ≠ .notANumber) :
    Before a b ∨ Same a b ∨ Before b a := by
  cases a with
  | notANumber => exact absurd rfl ha
  | infinite negative =>
    cases b with
    | notANumber => exact absurd rfl hb
    | infinite negative' =>
      cases negative <;> cases negative'
      · exact .inr (.inl (.infinite false))
      · exact .inr (.inr .infinities)
      · exact .inl .infinities
      · exact .inr (.inl (.infinite true))
    | finite negative' units' =>
      cases negative
      · exact .inr (.inr (.toAbove negative' units'))
      · exact .inl (.fromBelow negative' units')
  | finite negative units =>
    cases b with
    | notANumber => exact absurd rfl hb
    | infinite negative' =>
      cases negative'
      · exact .inl (.toAbove negative units)
      · exact .inr (.inr (.fromBelow negative units))
    | finite negative' units' => exact before_or_same_or_before_finite

theorem place_lt_iff_before (ha : a.InRange) (hb : b.InRange) (hx : a.place? = some x)
    (hy : b.place? = some y) : x < y ↔ Before a b := by
  refine ⟨fun hlt => ?_, fun h => h.place_lt ha hb hx hy⟩
  rcases before_or_same_or_before (ne_of_place? hx) (ne_of_place? hy) with hbefore | hsame | hafter
  · exact hbefore
  · exact absurd (hsame.place_eq hx hy) (Int.ne_of_lt hlt)
  · exact absurd (hafter.place_lt hb ha hy hx) (Int.lt_asymm hlt)

theorem place_eq_iff_same (ha : a.InRange) (hb : b.InRange) (hx : a.place? = some x)
    (hy : b.place? = some y) : x = y ↔ Same a b := by
  refine ⟨fun heq => ?_, fun h => h.place_eq hx hy⟩
  rcases before_or_same_or_before (ne_of_place? hx) (ne_of_place? hy) with hbefore | hsame | hafter
  · exact absurd heq (Int.ne_of_lt (hbefore.place_lt ha hb hx hy))
  · exact hsame
  · exact absurd heq.symm (Int.ne_of_lt (hafter.place_lt hb ha hy hx))

end Place

section InRange

theorem inRange_notANumber : notANumber.InRange := by
  intro negative units hfinite
  cases hfinite

theorem inRange_infinite (negative : Bool) : (infinite negative).InRange := by
  intro negative' units hfinite
  cases hfinite

theorem inRange_ofRatio (negative : Bool) (num den : Nat) :
    (ofRatio negative num den).InRange := by
  intro negative' units hfinite
  simp only [ofRatio] at hfinite
  split at hfinite
  · cases hfinite
  · next hsmall =>
    cases hfinite
    exact Nat.lt_of_not_le hsmall

theorem inRange_ofDecimal (negative : Bool) (coefficient : Nat) (exponent : Int) :
    (ofDecimal negative coefficient exponent).InRange := by
  intro negative' units hfinite
  simp only [ofDecimal] at hfinite
  split at hfinite
  · cases hfinite
    exact beyond_pos
  split at hfinite
  · cases hfinite
  split at hfinite <;> exact inRange_ofRatio _ _ _ _ _ hfinite

theorem inRange_of_ofText? {t : Text} {a : Number} (h : ofText? t = some a) : a.InRange := by
  simp only [ofText?] at h
  split at h
  · cases h
    exact inRange_infinite _
  split at h
  · cases h
    exact inRange_notANumber
  simp only [Option.bind_eq_bind, Option.bind_eq_some_iff, Option.pure_def, Option.some.injEq] at h
  obtain ⟨_, _, exponent, _, rfl⟩ := h
  exact inRange_ofDecimal _ _ _

/-- Only numbers in range are read. -/
theorem inRange_leading (t : Text) : (leading t).InRange := by
  rcases leading_cases t with ⟨hnone, _⟩ | ⟨p, _, hread, _⟩
  · rw [hnone]
    exact inRange_notANumber
  · exact inRange_of_ofText? hread

end InRange

/-- Some numeral stands at the head of the text, blanks before it apart. -/
def HasNumber (t : Text) : Prop :=
  ∃ p, p <+: t.trimStart ∧ IsNumeral p

theorem leading_ne_notANumber_iff {t : Text} : leading t ≠ .notANumber ↔ HasNumber t := by
  rcases leading_cases t with ⟨hnone, hno⟩ | ⟨p, hlongest, _, hsome⟩
  · exact ⟨fun hsome => absurd hnone hsome, fun ⟨p, hstarts, hp⟩ => absurd hp (hno p hstarts)⟩
  · exact ⟨fun _ => ⟨p, hlongest.starts, hlongest.holds⟩, fun _ => hsome⟩

end Number

namespace Comparison

open Number

/-- How the verdicts of the six comparisons on two sides go together, where `numeric` says that
there is a number on either side. -/
structure IsCoherent (numeric : Prop) (verdict : Comparison → Bool) : Prop where
  opposite : verdict .different = !verdict .equal
  incomparable : ¬numeric → ∀ c, verdict c = true ↔ c = .different
  exactlyOne : numeric → ∃! c, c ∈ [.less, .equal, .greater] ∧ verdict c = true
  atLeast : numeric → verdict .greaterOrEqual = (verdict .greater || verdict .equal)
  atMost : numeric → verdict .lessOrEqual = (verdict .less || verdict .equal)

section Holds

variable {a b : Number} {x y : Int}

theorem holds_of_not_numbers (h : ¬(a ≠ .notANumber ∧ b ≠ .notANumber)) (c : Comparison) :
    c.holds a b = (c == .different) := by
  unfold holds
  split
  · next x y hx hy => exact absurd ⟨ne_of_place? hx, ne_of_place? hy⟩ h
  · rfl

theorem exists_places (h : a ≠ .notANumber ∧ b ≠ .notANumber) :
    ∃ x y, a.place? = some x ∧ b.place? = some y := by
  obtain ⟨x, hx⟩ := exists_place h.1
  obtain ⟨y, hy⟩ := exists_place h.2
  exact ⟨x, y, hx, hy⟩

theorem exactlyOne_of_places (hx : a.place? = some x) (hy : b.place? = some y) :
    ∃! c, c ∈ [less, equal, greater] ∧ c.holds a b = true := by
  have hless : less.holds a b = true ↔ x < y := by simp [holds, hx, hy]
  have hequal : equal.holds a b = true ↔ x = y := by simp [holds, hx, hy]
  have hgreater : greater.holds a b = true ↔ y < x := by simp [holds, hx, hy]
  simp only [List.mem_cons, List.not_mem_nil, or_false]
  rcases Int.lt_trichotomy x y with hlt | heq | hgt
  · refine ⟨less, ⟨.inl rfl, hless.mpr hlt⟩, ?_⟩
    rintro c ⟨rfl | rfl | rfl, hc⟩
    · rfl
    · exact absurd (hequal.mp hc) (Int.ne_of_lt hlt)
    · exact absurd (hgreater.mp hc) (Int.lt_asymm hlt)
  · refine ⟨equal, ⟨.inr (.inl rfl), hequal.mpr heq⟩, ?_⟩
    rintro c ⟨rfl | rfl | rfl, hc⟩
    · exact absurd heq (Int.ne_of_lt (hless.mp hc))
    · rfl
    · exact absurd heq.symm (Int.ne_of_lt (hgreater.mp hc))
  · refine ⟨greater, ⟨.inr (.inr rfl), hgreater.mpr hgt⟩, ?_⟩
    rintro c ⟨rfl | rfl | rfl, hc⟩
    · exact absurd (hless.mp hc) (Int.lt_asymm hgt)
    · exact absurd (hequal.mp hc).symm (Int.ne_of_lt hgt)
    · rfl

theorem isCoherent_holds (a b : Number) :
    IsCoherent (a ≠ .notANumber ∧ b ≠ .notANumber) (fun c => c.holds a b) := by
  by_cases hnumbers : a ≠ .notANumber ∧ b ≠ .notANumber
  · obtain ⟨x, y, hx, hy⟩ := exists_places hnumbers
    refine ⟨?_, fun h => absurd hnumbers h, fun _ => exactlyOne_of_places hx hy, fun _ => ?_,
      fun _ => ?_⟩
    · simp only [holds, hx, hy]
      rfl
    · simp only [holds, hx, hy]
      grind
    · simp only [holds, hx, hy]
      grind
  · refine ⟨?_, fun _ c => ?_, fun h => absurd h hnumbers, fun h => absurd h hnumbers,
      fun h => absurd h hnumbers⟩
    · simp only [holds_of_not_numbers hnumbers]
      rfl
    · simp only [holds_of_not_numbers hnumbers, beq_iff_eq]

theorem less_holds_iff (ha : a.InRange) (hb : b.InRange) : less.holds a b = true ↔ Before a b := by
  by_cases hnumbers : a ≠ .notANumber ∧ b ≠ .notANumber
  · obtain ⟨x, y, hx, hy⟩ := exists_places hnumbers
    simp only [holds, hx, hy, decide_eq_true_eq]
    exact place_lt_iff_before ha hb hx hy
  · have hnot : ¬Before a b := fun h => hnumbers (by cases h <;> simp)
    simp [holds_of_not_numbers hnumbers, hnot]

theorem equal_holds_iff (ha : a.InRange) (hb : b.InRange) : equal.holds a b = true ↔ Same a b := by
  by_cases hnumbers : a ≠ .notANumber ∧ b ≠ .notANumber
  · obtain ⟨x, y, hx, hy⟩ := exists_places hnumbers
    simp only [holds, hx, hy, beq_iff_eq]
    exact place_eq_iff_same ha hb hx hy
  · have hnot : ¬Same a b := fun h => hnumbers (by cases h <;> simp)
    simp [holds_of_not_numbers hnumbers, hnot]

theorem greater_holds_eq (a b : Number) : greater.holds a b = less.holds b a := by
  unfold holds
  cases a.place? <;> cases b.place? <;> rfl

end Holds

end Comparison

namespace State

open Text Number

theorem evaluate_of_bound {s : State} {t : Text} {c : Condition} {v : Variable}
    (h : Condition.parse? t = some c) (hbound : s.bindings.get? c.name = some v) :
    s.evaluate t = .ok (c.comparison.holds (leading v.value) (leading c.literal)) := by
  simp only [evaluate, h, hbound]

theorem evaluate_of_unbound {s : State} {t : Text} {c : Condition}
    (h : Condition.parse? t = some c) (hunbound : s.bindings.get? c.name = none) :
    s.evaluate t = .error (.undeclaredVariable c.name) := by
  simp only [evaluate, h, hunbound]

/-- What the conditions on one variable and one literal say in one state. Each can be written, and
none fails while the variable is bound. Their verdicts are those of a total order if there is a
number on either side, with the two zeros the same and the infinities at the ends; otherwise only
"different" holds. A variable that is not bound is at fault by its name, and a text that cannot be
read is at fault in every state. -/
theorem evaluate_coherent (s : State) :
    (∀ (c : Condition) (gap gap' : Text), c.IsProper → IsGap gap → IsGap gap' →
      Condition.parse? (c.written gap gap') = some c) ∧
    (∀ (name literal : Text) (v : Variable), s.bindings.get? name = some v →
      ∃ verdict : Comparison → Bool,
        (∀ c t, Condition.parse? t = some ⟨name, c, literal⟩ → s.evaluate t = .ok (verdict c)) ∧
        Comparison.IsCoherent (HasNumber v.value ∧ HasNumber literal) verdict ∧
        (verdict .less = true ↔ Before (leading v.value) (leading literal)) ∧
        (verdict .equal = true ↔ Same (leading v.value) (leading literal)) ∧
        (verdict .greater = true ↔ Before (leading literal) (leading v.value))) ∧
    (∀ (name literal : Text) (c : Comparison) (t : Text),
      Condition.parse? t = some ⟨name, c, literal⟩ → s.bindings.get? name = none →
      s.evaluate t = .error (.undeclaredVariable name)) ∧
    ∀ t : Text, Condition.parse? t = none → s.evaluate t = .error .invalidCondition := by
  refine ⟨?_, ?_, ?_, fun t => Condition.evaluate_eq_invalidCondition_iff.mpr⟩
  · intro c gap gap' hproper hgap hgap'
    simpa using hproper.parse?_written isGap_nil hgap hgap' isGap_nil
  · intro name literal v hbound
    have ha := inRange_leading v.value
    have hb := inRange_leading literal
    refine ⟨fun c => c.holds (leading v.value) (leading literal), ?_, ?_,
      Comparison.less_holds_iff ha hb, Comparison.equal_holds_iff ha hb, ?_⟩
    · intro c t hread
      exact evaluate_of_bound hread hbound
    · rw [← leading_ne_notANumber_iff, ← leading_ne_notANumber_iff]
      exact Comparison.isCoherent_holds _ _
    · change Comparison.greater.holds _ _ = true ↔ _
      rw [Comparison.greater_holds_eq]
      exact Comparison.less_holds_iff hb ha
  · intro name literal c t hread hunbound
    exact evaluate_of_unbound hread hunbound

/-- A negative zero is at least a zero with more text behind it, and it differs from what is no
number; another variable is not bound, and an assignment is no condition. -/
theorem evaluate_coherent_zeros :
    (fresh.assign "x".toList ⟨"-0".toList, .int⟩).evaluate "(x >= 0.0abc)".toList = .ok true ∧
      (fresh.assign "x".toList ⟨"-0".toList, .int⟩).evaluate "x != bleu".toList = .ok true ∧
      (fresh.assign "x".toList ⟨"-0".toList, .int⟩).evaluate "x <= bleu".toList = .ok false ∧
      (fresh.assign "x".toList ⟨"-0".toList, .int⟩).evaluate "y < 1".toList =
        .error (.undeclaredVariable "y".toList) ∧
      (fresh.assign "x".toList ⟨"-0".toList, .int⟩).evaluate "x = 0".toList =
        .error .invalidCondition := by
  obtain ⟨_, hbound, hunbound, hunread⟩ :=
    evaluate_coherent (fresh.assign "x".toList ⟨"-0".toList, .int⟩)
  refine ⟨?_, ?_, ?_, hunbound _ ['1'] .less _ (by decide +kernel) (by decide +kernel),
    hunread _ (by decide +kernel)⟩
  · obtain ⟨verdict, heval, hcoherent, _, hsame, _⟩ :=
      hbound "x".toList "0.0abc".toList ⟨"-0".toList, .int⟩ (by decide +kernel)
    have hnumbers : HasNumber "-0".toList ∧ HasNumber "0.0abc".toList :=
      ⟨leading_ne_notANumber_iff.mp (by decide +kernel),
        leading_ne_notANumber_iff.mp (by decide +kernel)⟩
    have hzeros : Same (leading "-0".toList) (leading "0.0abc".toList) := by
      have hleft : leading "-0".toList = .finite true 0 := by decide +kernel
      have hright : leading "0.0abc".toList = .finite false 0 := by decide +kernel
      rw [hleft, hright]
      exact .zeros true false
    rw [heval .greaterOrEqual _ (by decide +kernel), hcoherent.atLeast hnumbers,
      hsame.mpr hzeros, Bool.or_true]
  all_goals
    obtain ⟨verdict, heval, hcoherent, _⟩ :=
      hbound "x".toList "bleu".toList ⟨"-0".toList, .int⟩ (by decide +kernel)
    have hword : ¬HasNumber "bleu".toList := by
      rw [← leading_ne_notANumber_iff]
      decide +kernel
    have honly := hcoherent.incomparable (fun h => hword h.2)
  · rw [heval .different _ (by decide +kernel), (honly .different).mpr rfl]
  · rw [heval .lessOrEqual _ (by decide +kernel)]
    have : verdict .lessOrEqual ≠ true := fun h => by cases (honly _).mp h
    rw [Bool.eq_false_iff.mpr this]

end State

end Breadboard
