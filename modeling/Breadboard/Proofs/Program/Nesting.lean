import Mathlib.Data.Nat.Init
import Breadboard.Proofs.Sketch.Basic

/-!
Blocks nest. The search for a closing brace starts at depth zero for every header, so the blocks of
two headers are found by two counts over the same lines. The count that began earlier is deeper by a
fixed amount for as long as the other goes on, and so it cannot end before it. Hence the block of a
header that lies inside another block ends inside it too.

A header that did not open its block on its own line waits for it, but only across blank lines and
lines that start with a brace. It never waits across a line that starts with anything else. If the
brace that it waits for stands on the line of another header, the two share one block. So any two
blocks of a program whose headers are not blank lines are nested or disjoint.
-/

namespace Breadboard

theorem depthAfter_add {braces : List Brace} {depth after : Nat}
    (h : depthAfter depth braces = some after) (more : Nat) :
    depthAfter (depth + more) braces = some (after + more) := by
  induction braces generalizing depth with
  | nil =>
      cases h
      rfl
  | cons brace rest ih =>
      cases brace with
      | opening =>
          rw [depthAfter] at h ⊢
          rw [Nat.add_right_comm]
          exact ih h
      | closing =>
          cases depth with
          | zero => cases h
          | succ depth =>
              rw [Nat.add_right_comm, depthAfter]
              exact ih h

/-- The deeper count does not end earlier. -/
theorem closingLine?_le {lines : List Line} {index depth more closing outer : Nat}
    (h : closingLine? index depth lines = some closing)
    (houter : closingLine? index (depth + more) lines = some outer) : closing ≤ outer := by
  induction lines generalizing index depth with
  | nil => cases h
  | cons l rest ih =>
      rw [closingLine?] at h
      split at h
      · cases h
        exact le_of_closingLine? houter
      · next after hafter =>
        rw [closingLine?, depthAfter_add hafter more] at houter
        exact ih h houter

theorem of_blockOn? {index : Nat} {braces : List Brace} {rest : List Line} {block : Block}
    (h : blockOn? index braces rest = some block) :
    ∃ more, braces = .opening :: more ∧
      (block.closing = index ∨
        ∃ depth, depthAfter 0 more = some depth ∧
          closingLine? (index + 1) depth rest = some block.closing) := by
  unfold blockOn? at h
  split at h
  · next more =>
    refine ⟨more, rfl, ?_⟩
    split at h
    · cases h
      exact .inl rfl
    · next depth hdepth =>
      obtain ⟨closing, hclosing, rfl⟩ := Option.map_eq_some_iff.mp h
      exact .inr ⟨depth, hdepth, hclosing⟩
  · cases h

namespace Program

variable {p : Program}

theorem getElem?_of_drop {index : Nat} {l : Line} {rest : List Line}
    (h : p.lines.drop index = l :: rest) : p.lines[index]? = some l := by
  rw [← List.head?_drop, h]
  rfl

/-- The line on which a count ends that begins on line `index`. -/
def closingFrom? (p : Program) (index depth : Nat) : Option Nat :=
  closingLine? index depth (p.lines.drop index)

theorem closingFrom?_of_getElem? {index depth : Nat} {l : Line} (h : p.lines[index]? = some l) :
    p.closingFrom? index depth =
      match depthAfter depth l.braces with
      | none => some index
      | some depth => p.closingFrom? (index + 1) depth := by
  obtain ⟨hlt, rfl⟩ := List.getElem?_eq_some_iff.mp h
  rw [closingFrom?, List.drop_eq_getElem_cons hlt]
  rfl

theorem exists_line_of_closingFrom? {index depth closing : Nat}
    (h : p.closingFrom? index depth = some closing) : ∃ l, p.lines[index]? = some l := by
  cases hline : p.lines[index]? with
  | some l => exact ⟨l, rfl⟩
  | none =>
      rw [closingFrom?, List.drop_eq_nil_of_le (List.getElem?_eq_none_iff.mp hline)] at h
      cases h

/-- Before it ends, a count comes to every line on the way. -/
theorem closingFrom?_reaches {index depth closing line : Nat}
    (h : p.closingFrom? index depth = some closing) (hle : index ≤ line) :
    closing < line ∨ ∃ deeper, p.closingFrom? line deeper = some closing := by
  induction line, hle using Nat.le_induction with
  | base => exact .inr ⟨depth, h⟩
  | succ line _ ih =>
      rcases ih with hbefore | ⟨deeper, hfrom⟩
      · exact .inl (Nat.lt_succ_of_lt hbefore)
      · obtain ⟨l, hl⟩ := exists_line_of_closingFrom? hfrom
        rw [closingFrom?_of_getElem? hl] at hfrom
        split at hfrom
        · cases hfrom
          exact .inl (Nat.lt_succ_self _)
        · next after _ => exact .inr ⟨after, hfrom⟩

/-- A count ends on a line with braces. -/
theorem exists_braces_of_closingFrom? {index depth closing : Nat}
    (h : p.closingFrom? index depth = some closing) :
    ∃ l, p.lines[closing]? = some l ∧ l.braces ≠ [] := by
  have hle : index ≤ closing := le_of_closingLine? h
  rcases closingFrom?_reaches h hle with hlt | ⟨deeper, hfrom⟩
  · exact absurd hlt (Nat.lt_irrefl _)
  · obtain ⟨l, hl⟩ := exists_line_of_closingFrom? hfrom
    refine ⟨l, hl, ?_⟩
    intro hnone
    rw [closingFrom?_of_getElem? hl, hnone] at hfrom
    have hbeyond : closing + 1 ≤ closing := le_of_closingLine? hfrom
    omega

/-- How the search from line `index` on comes to the block. -/
structure OpensFrom (p : Program) (index : Nat) (block : Block) : Prop where
  /-- No line above the opening one has braces. -/
  above : ∀ line l, index ≤ line → line < block.opening → p.lines[line]? = some l → l.braces = []
  opens : ∃ l more, p.lines[block.opening]? = some l ∧ l.braces = .opening :: more ∧
    (block.closing = block.opening ∨
      ∃ depth, depthAfter 0 more = some depth ∧
        p.closingFrom? (block.opening + 1) depth = some block.closing)

theorem opensFrom_of_blockOn? {index : Nat} {l : Line} {rest : List Line} {block : Block}
    (hdrop : p.lines.drop index = l :: rest) (h : blockOn? index l.braces rest = some block) :
    p.OpensFrom index block := by
  obtain ⟨rfl, _⟩ := le_of_blockOn? h
  obtain ⟨more, hbraces, hcloses⟩ := of_blockOn? h
  refine ⟨?_, l, more, getElem?_of_drop hdrop, hbraces, ?_⟩
  · intro line l hle hlt
    exact absurd hlt (Nat.not_lt.mpr hle)
  · simp only [closingFrom?, drop_of_drop_cons hdrop]
    exact hcloses

theorem OpensFrom.of_succ {index : Nat} {l : Line} {block : Block}
    (h : p.OpensFrom (index + 1) block) (hl : p.lines[index]? = some l) (hnone : l.braces = []) :
    p.OpensFrom index block := by
  refine ⟨?_, h.opens⟩
  intro line other hle hlt hother
  rcases Nat.eq_or_lt_of_le hle with rfl | hbelow
  · cases hl.symm.trans hother
    exact hnone
  · exact h.above line other hbelow hlt hother

theorem opensFrom_of_blockBelow? {lines : List Line} {index : Nat} {block : Block}
    (hdrop : p.lines.drop index = lines) (h : blockBelow? index lines = some block) :
    p.OpensFrom index block ∧
      ∀ line l, index ≤ line → line ≤ block.opening → p.lines[line]? = some l →
        l.keepsWaiting = true := by
  induction lines generalizing index with
  | nil => cases h
  | cons l rest ih =>
      have hl := getElem?_of_drop hdrop
      rw [blockBelow?] at h
      split at h
      · cases h
      · next hwaits =>
        have hwaits : l.keepsWaiting = true := by simpa using hwaits
        split at h
        · next hnone =>
          obtain ⟨hopens, hbelow⟩ := ih (drop_of_drop_cons hdrop) h
          refine ⟨hopens.of_succ hl (List.isEmpty_iff.mp hnone), ?_⟩
          intro line other hle hopening hother
          rcases Nat.eq_or_lt_of_le hle with rfl | hlt
          · cases hl.symm.trans hother
            exact hwaits
          · exact hbelow line other hlt hopening hother
        · obtain ⟨rfl, _⟩ := le_of_blockOn? h
          refine ⟨opensFrom_of_blockOn? hdrop h, ?_⟩
          intro line other hle hopening hother
          cases Nat.le_antisymm hle hopening
          cases hl.symm.trans hother
          exact hwaits

/-- A header opens its block on its own line or waits for it. -/
theorem opensFrom_of_block? {header : Nat} {block : Block} (h : p.block? header = some block) :
    p.OpensFrom header block ∧
      ∀ line l, header < line → line ≤ block.opening → p.lines[line]? = some l →
        l.keepsWaiting = true := by
  unfold block? at h
  split at h
  · cases h
  · next l rest hdrop =>
    have hl := getElem?_of_drop hdrop
    split at h
    · cases h
    · split at h
      · next hnone =>
        obtain ⟨hopens, hbelow⟩ := opensFrom_of_blockBelow? (drop_of_drop_cons hdrop) h
        exact ⟨hopens.of_succ hl (List.isEmpty_iff.mp hnone), hbelow⟩
      · obtain ⟨rfl, _⟩ := le_of_blockOn? h
        refine ⟨opensFrom_of_blockOn? hdrop h, ?_⟩
        intro line other hlt hle
        exact absurd hlt (Nat.not_lt.mpr hle)

/-- No header waits across a line that does not let it. -/
theorem opening_lt_of_block? {header line : Nat} {block : Block} {l : Line}
    (h : p.block? header = some block) (hlt : header < line) (hl : p.lines[line]? = some l)
    (hwaits : l.keepsWaiting = false) : block.opening < line := by
  apply Nat.lt_of_not_le
  intro hle
  have hkeeps := (opensFrom_of_block? h).2 line l hlt hle hl
  rw [hwaits] at hkeeps
  cases hkeeps

/-- A block that opens above another header ends above it or goes at least as far as its block. -/
theorem closing_lt_or_le_of_opening_lt {header inner : Nat} {block nested : Block}
    (h : p.block? header = some block) (hinner : p.block? inner = some nested)
    (hopening : block.opening < inner) :
    block.closing < inner ∨ nested.closing ≤ block.closing := by
  have hbelow := (le_of_block? hinner).1
  obtain ⟨_, _, _, _, _, hsame | ⟨depth, _, hcloses⟩⟩ := (opensFrom_of_block? h).1
  · left
    omega
  obtain ⟨habove, first, more, hfirst, hbraces, hnested⟩ := (opensFrom_of_block? hinner).1
  rcases closingFrom?_reaches hcloses (show block.opening + 1 ≤ nested.opening by omega)
    with hbefore | ⟨deeper, hfrom⟩
  · left
    apply Nat.lt_of_not_le
    intro hafter
    -- the lines in between have no braces, so no count ends there
    obtain ⟨last, hlast, hbraces⟩ := exists_braces_of_closingFrom? hcloses
    exact hbraces (habove block.closing last hafter hbefore hlast)
  · right
    have hle : nested.opening ≤ block.closing := le_of_closingLine? hfrom
    rw [closingFrom?_of_getElem? hfirst, hbraces, depthAfter] at hfrom
    rcases hnested with hsame | ⟨depth, hdepth, hclosing⟩
    · omega
    · have hdeeper := depthAfter_add hdepth (deeper + 1)
      rw [Nat.zero_add] at hdeeper
      rw [hdeeper] at hfrom
      exact closingLine?_le hclosing hfrom

/-- A block that begins above another header ends above it or goes at least as far as its block. -/
theorem closing_lt_or_le_of_block? {header inner : Nat} {block nested : Block} {l : Line}
    (h : p.block? header = some block) (hinner : p.block? inner = some nested)
    (hlt : header < inner) (hl : p.lines[inner]? = some l) (hwaits : l.keepsWaiting = false) :
    block.closing < inner ∨ nested.closing ≤ block.closing :=
  closing_lt_or_le_of_opening_lt h hinner (opening_lt_of_block? h hlt hl hwaits)

/-- Only headers have blocks. -/
theorem exists_header_of_block? {header : Nat} {block : Block} (h : p.block? header = some block) :
    ∃ l, p.lines[header]? = some l ∧ l.statement.isHeader = true := by
  unfold block? at h
  split at h
  · cases h
  · next l rest hdrop =>
    split at h
    · cases h
    · next hheader => exact ⟨l, getElem?_of_drop hdrop, by simpa using hheader⟩

theorem blockOn?_of_blockBelow? {lines : List Line} {index : Nat} {block : Block}
    (hdrop : p.lines.drop index = lines) (h : blockBelow? index lines = some block) :
    ∃ l rest, p.lines.drop block.opening = l :: rest ∧ l.braces ≠ [] ∧
      blockOn? block.opening l.braces rest = some block := by
  induction lines generalizing index with
  | nil => cases h
  | cons l rest ih =>
      rw [blockBelow?] at h
      split at h
      · cases h
      · split at h
        · exact ih (drop_of_drop_cons hdrop) h
        · next hbraces =>
          obtain ⟨rfl, _⟩ := le_of_blockOn? h
          exact ⟨l, rest, hdrop, mt List.isEmpty_iff.mpr hbraces, h⟩

/-- If the brace that a header waits for stands on the line of another header, both have the same
block. -/
theorem block?_opening {header : Nat} {block nested : Block} (h : p.block? header = some block)
    (hlt : header < block.opening) (hnested : p.block? block.opening = some nested) :
    nested = block := by
  obtain ⟨l, hl, hheader⟩ := exists_header_of_block? hnested
  unfold block? at h
  split at h
  · cases h
  · next above rest hdrop =>
    split at h
    · cases h
    · split at h
      · obtain ⟨first, more, hfirst, hbraces, hon⟩ :=
          blockOn?_of_blockBelow? (drop_of_drop_cons hdrop) h
        cases hl.symm.trans (getElem?_of_drop hfirst)
        simp only [block?, hfirst, hheader, Bool.not_true, Bool.false_eq_true, if_false,
          List.isEmpty_iff, hbraces] at hnested
        exact Option.some.inj (hnested.symm.trans hon)
      · obtain ⟨hsame, _⟩ := le_of_blockOn? h
        omega

end Program

/-- If a header lets another one wait, then it has a brace of its own. -/
theorem Line.braces_ne_nil (l : Line) (hheader : l.statement.isHeader = true) (htext : l.text ≠ [])
    (hwaits : l.keepsWaiting = true) : l.braces ≠ [] := by
  cases hcut : l.text with
  | nil => exact absurd hcut htext
  | cons c rest =>
      have hbrace : c = '{' := by simpa [keepsWaiting, hcut] using hwaits
      have hbraces : bracesOf false l.text = .opening :: bracesOf false rest := by
        rw [hcut, hbrace]
        rfl
      unfold braces
      cases hstatement : l.statement with
      | setup => simp [hbraces]
      | loop => simp [hbraces]
      | conditional condition => simp [hbraces]
      | _ => simp [hstatement, Statement.isHeader] at hheader

namespace Program

variable {p : Program}

/-- No header is a blank line. -/
def HeadersWritten (p : Program) : Prop :=
  ∀ l ∈ p.lines, l.statement.isHeader = true → l.text ≠ []

theorem headersWritten_ofSource (source : Text) : (ofSource source).HeadersWritten := by
  intro l hl hheader htext
  obtain ⟨raw, _, rfl⟩ := List.mem_map.mp hl
  have hblank : Statement.ofLine raw = .blank := by
    change Statement.ofTrimmed raw.trim = .blank
    rw [show raw.trim = [] from htext]
    rfl
  rw [show (Line.ofText raw).statement = .blank from hblank] at hheader
  cases hheader

/-- A header that starts with a brace has it for its own, so no other header waits across it. -/
theorem HeadersWritten.opening_le (hp : p.HeadersWritten) {header inner : Nat}
    {block nested : Block} (h : p.block? header = some block)
    (hinner : p.block? inner = some nested) (hlt : header < inner) : block.opening ≤ inner := by
  obtain ⟨l, hl, hheader⟩ := exists_header_of_block? hinner
  apply Nat.le_of_not_lt
  intro hbelow
  obtain ⟨hopens, hwaits⟩ := opensFrom_of_block? h
  have hnone := hopens.above inner l (Nat.le_of_lt hlt) hbelow hl
  have hkeeps := hwaits inner l hlt (Nat.le_of_lt hbelow) hl
  exact l.braces_ne_nil hheader (hp l (List.mem_of_getElem? hl) hheader) hkeeps hnone

/-- Blocks are nested or disjoint. -/
theorem HeadersWritten.nested_or_disjoint (hp : p.HeadersWritten) {header inner : Nat}
    {block nested : Block} (h : p.block? header = some block)
    (hinner : p.block? inner = some nested) (hlt : header < inner) :
    block.opening ≤ nested.opening ∧
      (block.closing < inner ∨ nested.closing ≤ block.closing) := by
  have hopening := hp.opening_le h hinner hlt
  refine ⟨Nat.le_trans hopening (le_of_block? hinner).1, ?_⟩
  rcases Nat.eq_or_lt_of_le hopening with rfl | habove
  · cases block?_opening h hlt hinner
    exact .inr (Nat.le_refl _)
  · exact closing_lt_or_le_of_opening_lt h hinner habove

end Program

end Breadboard
