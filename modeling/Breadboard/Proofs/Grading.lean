import Mathlib.Data.List.Forall2
import Breadboard.Grading
import Breadboard.Proofs.Walk.Silent

/-!
What a grade says. An expectation is a list of entries, and a name may occur in any number of them.
Each entry is held against the board on its own. What is wrong with one entry is said here without
regard to how it is found out; a report lists all of it in a fixed order, so there is one report for
each entry and the discrepancies are these reports put end to end. Nothing is wrong with any entry
exactly if the expectation holds. A grade is that verdict on the state in which a silent walk stops,
unless the walk stops on a failure.
-/

namespace Breadboard

namespace Discrepancy

/-- The place in the report of an entry: what is there at all comes before what it is like. -/
def rank : Discrepancy → Nat
  | .notDeclared _ | .missing _ | .wrongValue _ _ => 0
  | .shouldBeOn _ | .shouldBeOff _ | .wrongType _ _ => 1

/-- All that is wrong with one entry, once and in order. -/
structure IsReport (wrong : Discrepancy → Prop) (report : List Discrepancy) : Prop where
  exact : ∀ d, d ∈ report ↔ wrong d
  ordered : report.Pairwise fun d d' => d.rank < d'.rank

namespace IsReport

variable {wrong : Discrepancy → Prop} {report other : List Discrepancy}

theorem nodup (h : IsReport wrong report) : report.Nodup := by
  rw [List.nodup_iff_pairwise_ne]
  apply h.ordered.imp
  rintro d _ hlt rfl
  exact Nat.lt_irrefl _ hlt

theorem unique (h : IsReport wrong report) (h' : IsReport wrong other) : report = other := by
  have hperm : report.Perm other :=
    (List.perm_ext_iff_of_nodup h.nodup h'.nodup).mpr fun d => (h.exact d).trans (h'.exact d).symm
  exact hperm.eq_of_pairwise (fun d d' _ _ hlt hgt => absurd hgt (Nat.lt_asymm hlt))
    h.ordered h'.ordered

theorem eq_nil_iff (h : IsReport wrong report) : report = [] ↔ ∀ d, ¬wrong d := by
  rw [List.eq_nil_iff_forall_not_mem]
  exact forall_congr' fun d => not_congr (h.exact d)

/-- Entries have one list of reports. -/
theorem unique_forall₂ {α : Type} {wrong : α → Discrepancy → Prop} {entries : List α}
    {reports others : List (List Discrepancy)}
    (h : List.Forall₂ (fun a => IsReport (wrong a)) entries reports)
    (h' : List.Forall₂ (fun a => IsReport (wrong a)) entries others) : reports = others := by
  induction h generalizing others with
  | nil => cases h'; rfl
  | cons hhead _ ih =>
    cases h' with
    | cons hhead' htail' => rw [hhead.unique hhead', ih htail']

end IsReport

end Discrepancy

open Discrepancy (IsReport)

namespace PinExpectation

variable {e : PinExpectation} {pin : Pin} {actual : PinState} {d : Discrepancy}

/-- The pin is as the entry asks. -/
structure Holds (e : PinExpectation) (actual : PinState) : Prop where
  declared : e.declared = some true → actual.declared = true
  on : ∀ on, e.on = some on → actual.on = on

/-- What can be wrong with a pin. -/
inductive Wrong (e : PinExpectation) (pin : Pin) (actual : PinState) : Discrepancy → Prop where
  | notDeclared (h : e.declared = some true) (hactual : actual.declared = false) :
      Wrong e pin actual (.notDeclared pin)
  | shouldBeOn (h : e.on = some true) (hactual : actual.on = false) :
      Wrong e pin actual (.shouldBeOn pin)
  | shouldBeOff (h : e.on = some false) (hactual : actual.on = true) :
      Wrong e pin actual (.shouldBeOff pin)

theorem holds_iff_not_wrong (pin : Pin) : e.Holds actual ↔ ∀ d, ¬e.Wrong pin actual d := by
  constructor
  · rintro h d (⟨hasked, hactual⟩ | ⟨hasked, hactual⟩ | ⟨hasked, hactual⟩)
    · cases hactual.symm.trans (h.declared hasked)
    · cases hactual.symm.trans (h.on _ hasked)
    · cases hactual.symm.trans (h.on _ hasked)
  · intro hnone
    constructor
    · intro hasked
      rw [← Bool.not_eq_false]
      exact fun hactual => hnone _ (.notDeclared hasked hactual)
    · rintro (_ | _) hasked
      · rw [← Bool.not_eq_true]
        exact fun hactual => hnone _ (.shouldBeOff hasked hactual)
      · rw [← Bool.not_eq_false]
        exact fun hactual => hnone _ (.shouldBeOn hasked hactual)

theorem wrong_of_mem (h : d ∈ e.discrepancies pin actual) : e.Wrong pin actual d := by
  unfold discrepancies at h
  rcases List.mem_append.mp h with h | h
  · split at h
    · next hasked =>
      cases List.mem_singleton.mp h
      exact .notDeclared hasked.1 (by simpa using hasked.2)
    · cases h
  · split at h
    · next hasked =>
      split at h
      · cases h
      · next hactual =>
        cases List.mem_singleton.mp h
        exact .shouldBeOn hasked (by simpa using hactual)
    · next hasked =>
      split at h
      · next hactual =>
        cases List.mem_singleton.mp h
        exact .shouldBeOff hasked hactual
      · cases h
    · cases h

theorem Wrong.mem (h : e.Wrong pin actual d) : d ∈ e.discrepancies pin actual := by
  unfold discrepancies
  cases h with
  | notDeclared hasked hactual => simp [hasked, hactual]
  | shouldBeOn hasked hactual => simp [hasked, hactual]
  | shouldBeOff hasked hactual => simp [hasked, hactual]

theorem isReport_discrepancies (e : PinExpectation) (pin : Pin) (actual : PinState) :
    IsReport (e.Wrong pin actual) (e.discrepancies pin actual) := by
  refine ⟨fun d => ⟨wrong_of_mem, Wrong.mem⟩, ?_⟩
  unfold discrepancies
  split <;> rcases e.on with _ | _ | _ <;> cases actual.on <;> simp [Discrepancy.rank]

theorem discrepancies_eq_nil_iff : e.discrepancies pin actual = [] ↔ e.Holds actual :=
  (e.isReport_discrepancies pin actual).eq_nil_iff.trans (holds_iff_not_wrong pin).symm

end PinExpectation

namespace VariableExpectation

variable {e : VariableExpectation} {name : Text} {found : Option Variable} {d : Discrepancy}

/-- The variable is bound to what the entry asks for. -/
def Holds (e : VariableExpectation) (found : Option Variable) : Prop :=
  ∃ v, found = some v ∧ v.value = e.value ∧ ∀ type, e.type = some type → v.type = type

/-- What can be wrong with a variable. One that is not bound has neither value nor type. -/
inductive Wrong (e : VariableExpectation) (name : Text) : Option Variable → Discrepancy → Prop where
  | missing : Wrong e name none (.missing name)
  | wrongValue {v : Variable} (h : v.value ≠ e.value) :
      Wrong e name (some v) (.wrongValue name e.value)
  | wrongType {v : Variable} {type : ValueType} (h : e.type = some type) (hactual : v.type ≠ type) :
      Wrong e name (some v) (.wrongType name type)

theorem holds_iff_not_wrong (name : Text) : e.Holds found ↔ ∀ d, ¬e.Wrong name found d := by
  constructor
  · rintro ⟨v, rfl, hvalue, htype⟩ d (_ | hother | ⟨hasked, hother⟩)
    · exact hother hvalue
    · exact hother (htype _ hasked)
  · intro hnone
    cases found with
    | none => exact absurd .missing (hnone _)
    | some v =>
      refine ⟨v, rfl, ?_, fun type hasked => ?_⟩
      · exact Decidable.of_not_not fun hother => hnone _ (.wrongValue hother)
      · exact Decidable.of_not_not fun hother => hnone _ (.wrongType hasked hother)

theorem wrong_of_mem (h : d ∈ e.discrepancies name found) : e.Wrong name found d := by
  cases found with
  | none =>
    cases List.mem_singleton.mp h
    exact .missing
  | some v =>
    unfold discrepancies at h
    rcases List.mem_append.mp h with h | h
    · split at h
      · cases h
      · next hother =>
        cases List.mem_singleton.mp h
        exact .wrongValue hother
    · split at h
      · next hasked =>
        split at h
        · cases h
        · next hother =>
          cases List.mem_singleton.mp h
          exact .wrongType hasked hother
      · cases h

theorem Wrong.mem (h : e.Wrong name found d) : d ∈ e.discrepancies name found := by
  unfold discrepancies
  cases h with
  | missing => exact List.mem_singleton_self _
  | wrongValue hother => simp [hother]
  | wrongType hasked hother => simp [hasked, hother]

theorem isReport_discrepancies (e : VariableExpectation) (name : Text) (found : Option Variable) :
    IsReport (e.Wrong name found) (e.discrepancies name found) := by
  refine ⟨fun d => ⟨wrong_of_mem, Wrong.mem⟩, ?_⟩
  unfold discrepancies
  cases found with
  | none => exact List.pairwise_singleton _ _
  | some v =>
    dsimp only
    split <;> split <;> try split
    all_goals simp [Discrepancy.rank]

theorem discrepancies_eq_nil_iff : e.discrepancies name found = [] ↔ e.Holds found :=
  (e.isReport_discrepancies name found).eq_nil_iff.trans (holds_iff_not_wrong name).symm

end VariableExpectation

namespace Expectation

variable {e : Expectation} {s s' : State}

/-- The board is as every entry asks. -/
structure Holds (e : Expectation) (s : State) : Prop where
  pins : ∀ pin expected, (pin, expected) ∈ e.pins → expected.Holds (s.pins.get pin)
  bindings : ∀ name expected, (name, expected) ∈ e.bindings →
    expected.Holds (s.bindings.get? name)

/-- The reports of the entries, pins before variables and each in the order of the entries. -/
def IsListing (e : Expectation) (s : State) (listing : List Discrepancy) : Prop :=
  ∃ pinReports bindingReports : List (List Discrepancy),
    listing = pinReports.flatten ++ bindingReports.flatten ∧
    List.Forall₂ (fun entry => IsReport (entry.2.Wrong entry.1 (s.pins.get entry.1)))
      e.pins pinReports ∧
    List.Forall₂ (fun entry => IsReport (entry.2.Wrong entry.1 (s.bindings.get? entry.1)))
      e.bindings bindingReports

theorem isListing_discrepancies (e : Expectation) (s : State) :
    e.IsListing s (e.discrepancies s) := by
  refine ⟨_, _, rfl, List.forall₂_map_right_iff.mpr ?_, List.forall₂_map_right_iff.mpr ?_⟩
  · exact List.forall₂_same.mpr fun entry _ => entry.2.isReport_discrepancies entry.1 _
  · exact List.forall₂_same.mpr fun entry _ => entry.2.isReport_discrepancies entry.1 _

theorem IsListing.unique {listing other : List Discrepancy} (h : e.IsListing s listing)
    (h' : e.IsListing s other) : listing = other := by
  obtain ⟨pinReports, bindingReports, rfl, hpins, hbindings⟩ := h
  obtain ⟨pinReports', bindingReports', rfl, hpins', hbindings'⟩ := h'
  rw [IsReport.unique_forall₂ hpins hpins', IsReport.unique_forall₂ hbindings hbindings']

theorem discrepancies_eq_iff_isListing {listing : List Discrepancy} :
    e.discrepancies s = listing ↔ e.IsListing s listing :=
  ⟨fun h => h ▸ isListing_discrepancies e s, (isListing_discrepancies e s).unique⟩

theorem discrepancies_eq_nil_iff_holds : e.discrepancies s = [] ↔ e.Holds s := by
  unfold discrepancies
  rw [List.append_eq_nil_iff, List.flatMap_eq_nil_iff, List.flatMap_eq_nil_iff]
  constructor
  · rintro ⟨hpins, hbindings⟩
    constructor
    · intro pin expected hentry
      exact PinExpectation.discrepancies_eq_nil_iff.mp (hpins _ hentry)
    · intro name expected hentry
      exact VariableExpectation.discrepancies_eq_nil_iff.mp (hbindings _ hentry)
  · intro h
    constructor
    · rintro ⟨pin, expected⟩ hentry
      exact PinExpectation.discrepancies_eq_nil_iff.mpr (h.pins pin expected hentry)
    · rintro ⟨name, expected⟩ hentry
      exact VariableExpectation.discrepancies_eq_nil_iff.mpr (h.bindings name expected hentry)

/-- Only what is named is looked at. -/
theorem discrepancies_congr
    (hpins : ∀ pin expected, (pin, expected) ∈ e.pins → s.pins.get pin = s'.pins.get pin)
    (hbindings : ∀ name expected, (name, expected) ∈ e.bindings →
      s.bindings.get? name = s'.bindings.get? name) :
    e.discrepancies s = e.discrepancies s' := by
  unfold discrepancies
  congr 1
  · apply List.flatMap_congr
    rintro ⟨pin, expected⟩ hentry
    exact congrArg (expected.discrepancies pin) (hpins pin expected hentry)
  · apply List.flatMap_congr
    rintro ⟨name, expected⟩ hentry
    exact congrArg (expected.discrepancies name) (hbindings name expected hentry)

end Expectation

namespace Walk

private theorem movedTo_ne_stopped (phase : Phase) {outcome : Outcome}
    (h : phase ≠ .stopped outcome) (next : Nat) : phase.movedTo next ≠ .stopped outcome := by
  cases phase with
  | setup cursor closing? => cases closing? <;> simp [Phase.movedTo]
  | loop block cursor passes => simp [Phase.movedTo]
  | _ => exact h

theorem phase_step_ne_cancelled {w : Walk} (h : w.phase ≠ .stopped .cancelled) :
    (w.step false).phase ≠ .stopped .cancelled := by
  rcases w.running_or_stopped with hrunning | ⟨outcome, hstopped⟩
  · obtain ⟨state, phase, cues, hchange, hstep⟩ := step_changes false w hrunning
    rw [hstep, changed, phase_queue]
    -- only the raised signal cancels, and all other changes stop for another reason or go on
    cases hchange with
    | cancelled hphase hraised => cases hraised
    | entersLoop => dsimp only; split <;> simp
    | blankInSetup | passedOver | quiet | effect | taken | skipped =>
      exact movedTo_ne_stopped w.phase h _
    | entersSetup cursor closing? block =>
      exact movedTo_ne_stopped (.setup cursor (some block.closing)) (by simp) _
    | _ => simp
  · rw [step_of_stopped hstopped]
    exact h

/-- With the signal down a walk is never cancelled. -/
theorem Reaches.ne_cancelled {w v : Walk} (h : w.Reaches v) (hw : w.phase ≠ .stopped .cancelled) :
    v.phase ≠ .stopped .cancelled := by
  obtain ⟨count, rfl⟩ := h
  induction count generalizing w with
  | zero => exact hw
  | succ count ih => exact ih (phase_step_ne_cancelled hw)

end Walk

namespace Expectation

variable {e : Expectation} {s : State}

theorem gradeState_eq_passed_iff : e.gradeState s = .passed ↔ e.Holds s := by
  rw [← discrepancies_eq_nil_iff_holds]
  unfold gradeState
  split <;> simp_all

theorem gradeState_eq_wrong_iff {wrong : List Discrepancy} :
    e.gradeState s = .wrong wrong ↔ ¬e.Holds s ∧ wrong = e.discrepancies s := by
  rw [← discrepancies_eq_nil_iff_holds]
  unfold gradeState
  split
  · next hnil => simp [hnil]
  · next hsome =>
    rw [Grade.wrong.injEq]
    exact ⟨fun h => ⟨hsome, h.symm⟩, fun h => h.2.symm⟩

theorem gradeState_ne_failed (failure : Failure) : e.gradeState s ≠ .failed failure := by
  unfold gradeState
  split <;> simp

theorem errors_gradeState : (e.gradeState s).errors = (e.discrepancies s).map (·.message) := by
  unfold gradeState
  split
  · next hnil => simp [Grade.errors, hnil]
  · rfl

section Grade

variable {source : Text} {walkLoop : Option Bool} {v : Walk}

/-- The silent walk that grading takes. -/
def gradedWalk (source : Text) (walkLoop : Option Bool) : Walk :=
  .silent (.ofSource source)
    (if walkLoop.getD (Program.ofSource source).loopHasPinActions then 1 else 0)

theorem grade_of_failed {failure : Failure} (h : (gradedWalk source walkLoop).Reaches v)
    (hstopped : v.phase = .stopped (.failed failure)) :
    e.grade source walkLoop = .failed failure := by
  simp only [grade, runSilent_eq_of_reaches h hstopped]

theorem grade_of_completed (h : (gradedWalk source walkLoop).Reaches v)
    (hstopped : v.phase = .stopped .completed) :
    e.grade source walkLoop = e.gradeState v.state := by
  simp only [grade, runSilent_eq_of_reaches h hstopped]

theorem exists_graded (source : Text) (walkLoop : Option Bool) :
    ∃ v outcome, (gradedWalk source walkLoop).Reaches v ∧ v.phase = .stopped outcome ∧
      outcome ≠ .cancelled := by
  obtain ⟨v, outcome, hreaches, hstopped⟩ :=
    (Walk.isSilent_silent (.ofSource source) _).exists_stopped
  refine ⟨v, outcome, hreaches, hstopped, ?_⟩
  rintro rfl
  exact hreaches.ne_cancelled (by simp [Walk.silent]) hstopped

end Grade

/-- Grading, on every state and on every source. On a state there is nothing to report exactly if
the expectation holds, the discrepancies are the one listing of what is wrong, and nothing matters
that no entry names. The walk that is graded stops on its own. If it fails, that is the grade;
otherwise the program has passed exactly if the expectation holds where the walk has stopped. -/
theorem grading_exact :
    (∀ (e : Expectation) (s : State),
      (e.discrepancies s = [] ↔ e.Holds s) ∧
      (e.gradeState s = .passed ↔ e.Holds s) ∧
      (∀ listing, e.discrepancies s = listing ↔ e.IsListing s listing) ∧
      (e.gradeState s).errors = (e.discrepancies s).map (·.message)) ∧
    (∀ (e : Expectation) (s s' : State),
      (∀ pin expected, (pin, expected) ∈ e.pins → s.pins.get pin = s'.pins.get pin) →
      (∀ name expected, (name, expected) ∈ e.bindings →
        s.bindings.get? name = s'.bindings.get? name) →
      e.discrepancies s = e.discrepancies s' ∧ e.gradeState s = e.gradeState s') ∧
    ∀ (source : Text) (walkLoop : Option Bool),
      ∃ v outcome, (gradedWalk source walkLoop).Reaches v ∧ v.phase = .stopped outcome ∧
        ∀ e : Expectation,
          (∀ failure, e.grade source walkLoop = .failed failure ↔ outcome = .failed failure) ∧
          (e.grade source walkLoop = .passed ↔ outcome = .completed ∧ e.Holds v.state) ∧
          ∀ wrong, e.grade source walkLoop = .wrong wrong ↔
            outcome = .completed ∧ ¬e.Holds v.state ∧ wrong = e.discrepancies v.state := by
  refine ⟨fun e s => ?_, fun e s s' hpins hbindings => ?_, fun source walkLoop => ?_⟩
  · exact ⟨discrepancies_eq_nil_iff_holds, gradeState_eq_passed_iff,
      fun _ => discrepancies_eq_iff_isListing, errors_gradeState⟩
  · have hsame := discrepancies_congr hpins hbindings
    refine ⟨hsame, ?_⟩
    unfold gradeState
    rw [hsame]
  · obtain ⟨v, outcome, hreaches, hstopped, hcancelled⟩ := exists_graded source walkLoop
    refine ⟨v, outcome, hreaches, hstopped, fun e => ?_⟩
    cases outcome with
    | cancelled => exact absurd rfl hcancelled
    | failed failure => simp [grade_of_failed hreaches hstopped]
    | completed =>
      rw [grade_of_completed hreaches hstopped]
      simp [gradeState_eq_passed_iff, gradeState_eq_wrong_iff, gradeState_ne_failed]

/-- Entries that contradict or repeat each other, on a board where all of them have something to
report and on another one that differs in what they do not name; and a source that fails before it
can be graded. -/
theorem grading_exact_repeatedNames :
    let e : Expectation :=
      ⟨[(.pin1, ⟨some true, some true⟩), (.pin1, ⟨none, some false⟩)],
        [(['x'], ⟨['1'], some .int⟩), (['z'], ⟨['1'], some .int⟩), (['x'], ⟨['1'], none⟩)]⟩
    let s : State := State.fresh.assign ['x'] ⟨['2'], .string⟩
    let s' : State := (s.declare .pin2).assign ['y'] ⟨['1'], .int⟩
    let source : Text := "void setup()\n\x7b\nx = 1\n\x7d".toList
    e.IsListing s [.notDeclared .pin1, .shouldBeOn .pin1, .wrongValue ['x'] ['1'],
        .wrongType ['x'] .int, .missing ['z'], .wrongValue ['x'] ['1']] ∧
      ¬e.Holds s ∧ e.gradeState s = e.gradeState s' ∧
      e.grade source none = .failed ⟨2, .missingSemicolon⟩ := by
  intro e s s' source
  obtain ⟨hstate, hframe, hgrade⟩ := grading_exact
  obtain ⟨hnone, _, hlisting, _⟩ := hstate e s
  have hpins : ∀ entry ∈ e.pins, s.pins.get entry.1 = s'.pins.get entry.1 := by decide
  have hbindings : ∀ entry ∈ e.bindings,
      s.bindings.get? entry.1 = s'.bindings.get? entry.1 := by decide
  refine ⟨(hlisting _).mp (by decide), fun h => ?_, ?_, ?_⟩
  · exact absurd (hnone.mpr h) (by decide)
  · exact (hframe e s s' (fun _ _ => hpins _) fun _ _ => hbindings _).2
  · obtain ⟨v, outcome, hreaches, hstopped, hgraded⟩ := hgrade source none
    have hreport : runSilent source 0 = ⟨_, .failed ⟨2, .missingSemicolon⟩⟩ :=
      runSilent_eq_of_reaches ⟨4, rfl⟩ (by decide)
    have hreport' : runSilent source 0 = ⟨v.state, outcome⟩ :=
      runSilent_eq_of_reaches hreaches hstopped
    apply ((hgraded e).1 _).mpr
    exact congrArg Report.outcome (hreport'.symm.trans hreport)

end Expectation

end Breadboard
