import Breadboard.Proofs.Walk.Cancellation

/-!
The layout of a program. A source can be spaced out: blank lines are put in and the blanks around
its lines are changed. `Spaced` says so of any lists, with the place that each line gets. Two
positions, one in each list, meet if the same lines are before them. From positions that meet one
goes on together at a line that both have, and alone over a line that was put in.

A blank line has no braces and keeps a header waiting for its block. So the block of a header that
is moved is the block it had, with its lines moved.
-/

namespace Breadboard

/-- `spaced` are the lines with blank ones put in; line `i` has become line `place i`. -/
structure Spaced {α : Type} (blank : α) (lines spaced : List α) (place : Nat → Nat) : Prop where
  increasing : ∀ j < lines.length, ∀ i < j, place i < place j
  kept : ∀ i < lines.length, spaced[place i]? = lines[i]?
  inserted : ∀ j < spaced.length, (∃ i < lines.length, place i = j) ∨ spaced[j]? = some blank

namespace Spaced

/-- Of `count` lines the same are before line `cursor` as are, in their new place, before line
`moved`. -/
def Meets (count : Nat) (place : Nat → Nat) (cursor moved : Nat) : Prop :=
  ∀ i < count, place i < moved ↔ i < cursor

variable {α β : Type} {blank : α} {lines spaced : List α} {place : Nat → Nat} {cursor moved : Nat}

theorem map (f : α → β) (h : Spaced blank lines spaced place) :
    Spaced (f blank) (lines.map f) (spaced.map f) place where
  increasing := by simpa using h.increasing
  kept i hi := by
    rw [List.length_map] at hi
    rw [List.getElem?_map, List.getElem?_map, h.kept i hi]
  inserted j hj := by
    rw [List.length_map] at hj ⊢
    rcases h.inserted j hj with hkept | hblank
    · exact .inl hkept
    · exact .inr (by rw [List.getElem?_map, hblank]; rfl)

theorem meets_zero (count : Nat) (place : Nat → Nat) : Meets count place 0 0 := by
  intro i _
  simp

section Positions

variable (h : Spaced blank lines spaced place)

include h

theorem place_lt_iff {i j : Nat} (hi : i < lines.length) (hj : j < lines.length) :
    place i < place j ↔ i < j := by
  constructor
  · intro hlt
    rcases Nat.lt_trichotomy i j with hbefore | rfl | hbehind
    · exact hbefore
    · omega
    · have := h.increasing i hi j hbehind
      omega
  · exact h.increasing j hj i

theorem place_lt_length {i : Nat} (hi : i < lines.length) : place i < spaced.length := by
  have hkept := h.kept i hi
  rw [List.getElem?_eq_getElem hi] at hkept
  exact (List.getElem?_eq_some_iff.mp hkept).1

theorem meets_place {i : Nat} (hi : i < lines.length) : Meets lines.length place i (place i) := by
  intro j hj
  exact h.place_lt_iff hj hi

theorem meets_succ_place {i : Nat} (hi : i < lines.length) :
    Meets lines.length place (i + 1) (place i + 1) := by
  intro j hj
  have hback := h.place_lt_iff hi hj
  omega

/-- What lies ahead of two positions that meet: the end, a line that was put in, or a line that
both have. -/
theorem ahead (hmeets : Meets lines.length place cursor moved) :
    (lines.length ≤ cursor ∧ spaced.length ≤ moved) ∨
    (spaced[moved]? = some blank ∧ Meets lines.length place cursor (moved + 1)) ∨
    (cursor < lines.length ∧ moved = place cursor) := by
  rcases Nat.lt_or_ge moved spaced.length with hlt | hend
  · by_cases hkept : ∃ i < lines.length, place i = moved
    · -- The line that both have is the one ahead: a line in between would be behind both.
      obtain ⟨i, hi, rfl⟩ := hkept
      have hle : cursor ≤ i := by
        have := hmeets i hi
        omega
      rcases Nat.lt_or_eq_of_le hle with hgt | rfl
      · have hbefore := h.increasing i hi cursor hgt
        have := (hmeets cursor (Nat.lt_trans hgt hi)).mp hbefore
        omega
      · exact .inr (.inr ⟨hi, rfl⟩)
    · have hblank := (h.inserted moved hlt).resolve_left hkept
      refine .inr (.inl ⟨hblank, ?_⟩)
      intro i hi
      have hne : place i ≠ moved := fun heq => hkept ⟨i, hi, heq⟩
      have := hmeets i hi
      omega
  · refine .inl ⟨?_, hend⟩
    rcases Nat.lt_or_ge cursor lines.length with hcursor | hle
    · have := h.place_lt_length hcursor
      have := hmeets cursor hcursor
      omega
    · exact hle

/-- Induction from two positions that meet to the ends of the lists. -/
theorem induction {motive : Nat → Nat → Prop}
    (ended : ∀ cursor moved, lines.length ≤ cursor → spaced.length ≤ moved → motive cursor moved)
    (inserted : ∀ cursor moved, spaced[moved]? = some blank → motive cursor (moved + 1) →
      motive cursor moved)
    (kept : ∀ cursor < lines.length, motive (cursor + 1) (place cursor + 1) →
      motive cursor (place cursor))
    (hmeets : Meets lines.length place cursor moved) : motive cursor moved := by
  generalize hleft : spaced.length - moved = left
  induction left using Nat.strongRecOn generalizing cursor moved with
  | ind left ih =>
      subst hleft
      rcases h.ahead hmeets with ⟨hcursor, hmoved⟩ | ⟨hblank, hnext⟩ | ⟨hcursor, rfl⟩
      · exact ended cursor moved hcursor hmoved
      · obtain ⟨hlt, _⟩ := List.getElem?_eq_some_iff.mp hblank
        exact inserted cursor moved hblank (ih _ (by omega) hnext rfl)
      · have hlt := h.place_lt_length hcursor
        exact kept cursor hcursor (ih _ (by omega) (h.meets_succ_place hcursor) rfl)

end Positions

end Spaced

theorem drop_of_getElem? {α : Type} {lines : List α} {index : Nat} {line : α}
    (h : lines[index]? = some line) : lines.drop index = line :: lines.drop (index + 1) := by
  obtain ⟨hlt, rfl⟩ := List.getElem?_eq_some_iff.mp h
  exact List.drop_eq_getElem_cons hlt

def Line.blank : Line :=
  ⟨[], .blank⟩

/-- The block with its lines moved. -/
def Block.relocate (place : Nat → Nat) (b : Block) : Block :=
  ⟨place b.opening, place b.closing⟩

namespace Program

open Spaced

/-- The other program is this one with blank lines put in. -/
def SpacedBy (place : Nat → Nat) (p q : Program) : Prop :=
  Spaced Line.blank p.lines q.lines place

theorem statement?_of_blank {p : Program} {index : Nat} (h : p.lines[index]? = some Line.blank) :
    p.statement? index = some .blank := by
  rw [statement?, h]
  rfl

theorem statement?_of_length_le {p : Program} {index : Nat} (h : p.length ≤ index) :
    p.statement? index = none := by
  rw [statement?, List.getElem?_eq_none h]
  rfl

/-- The block of a `void loop()` on this line. -/
def loopOn? (p : Program) (index : Nat) : Option Block :=
  if p.statement? index = some .loop then p.block? index else none

/-- Some line of these, from `start` up to `stop`, passes the test. -/
theorem any_slice_iff {lines : List Line} {start stop : Nat} {test : Line → Bool} :
    ((lines.take stop).drop start).any test = true ↔
      ∃ index line, start ≤ index ∧ index < stop ∧ lines[index]? = some line ∧
        test line = true := by
  rw [List.any_eq_true]
  constructor
  · rintro ⟨line, hmem, htest⟩
    obtain ⟨offset, hoffset⟩ := List.mem_iff_getElem?.mp hmem
    rw [List.getElem?_drop, List.getElem?_take] at hoffset
    split at hoffset
    · next hstop => exact ⟨start + offset, line, by omega, hstop, hoffset, htest⟩
    · cases hoffset
  · rintro ⟨index, line, hstart, hstop, hread, htest⟩
    refine ⟨line, List.mem_iff_getElem?.mpr ⟨index - start, ?_⟩, htest⟩
    rw [List.getElem?_drop, List.getElem?_take, Nat.add_sub_cancel' hstart, if_pos hstop, hread]

namespace SpacedBy

variable {p q : Program} {place : Nat → Nat} (h : p.SpacedBy place q) {cursor moved : Nat}

include h

theorem drop_place (hcursor : cursor < p.length) :
    ∃ line, p.lines.drop cursor = line :: p.lines.drop (cursor + 1) ∧
      q.lines.drop (place cursor) = line :: q.lines.drop (place cursor + 1) := by
  have hread : p.lines[cursor]? = some p.lines[cursor] := List.getElem?_eq_getElem hcursor
  refine ⟨p.lines[cursor], drop_of_getElem? hread, drop_of_getElem? ?_⟩
  rw [h.kept cursor hcursor, hread]

theorem closingLine?_eq (hmeets : Meets p.length place cursor moved) (depth : Nat) :
    closingLine? moved depth (q.lines.drop moved) =
      (closingLine? cursor depth (p.lines.drop cursor)).map place := by
  revert depth
  refine Spaced.induction h (motive := fun cursor moved => ∀ depth,
    closingLine? moved depth (q.lines.drop moved) =
      (closingLine? cursor depth (p.lines.drop cursor)).map place) ?_ ?_ ?_ hmeets
  · intro cursor moved hcursor hmoved depth
    rw [List.drop_eq_nil_of_le hcursor, List.drop_eq_nil_of_le hmoved]
    rfl
  · intro cursor moved hblank ih depth
    rw [drop_of_getElem? hblank]
    exact ih depth
  · intro cursor hcursor ih depth
    obtain ⟨line, hp, hq⟩ := h.drop_place hcursor
    rw [hp, hq, closingLine?, closingLine?]
    cases depthAfter depth line.braces with
    | none => rfl
    | some depth => exact ih depth

theorem blockOn?_eq (hcursor : cursor < p.length) (braces : List Brace) :
    blockOn? (place cursor) braces (q.lines.drop (place cursor + 1)) =
      (blockOn? cursor braces (p.lines.drop (cursor + 1))).map (Block.relocate place) := by
  unfold blockOn?
  split
  · split
    · rfl
    · rw [h.closingLine?_eq (h.meets_succ_place hcursor), Option.map_map, Option.map_map]
      rfl
  · rfl

theorem blockBelow?_eq (hmeets : Meets p.length place cursor moved) :
    blockBelow? moved (q.lines.drop moved) =
      (blockBelow? cursor (p.lines.drop cursor)).map (Block.relocate place) := by
  refine Spaced.induction h (motive := fun cursor moved =>
    blockBelow? moved (q.lines.drop moved) =
      (blockBelow? cursor (p.lines.drop cursor)).map (Block.relocate place)) ?_ ?_ ?_ hmeets
  · intro cursor moved hcursor hmoved
    rw [List.drop_eq_nil_of_le hcursor, List.drop_eq_nil_of_le hmoved]
    rfl
  · intro cursor moved hblank ih
    rw [drop_of_getElem? hblank]
    exact ih
  · intro cursor hcursor ih
    obtain ⟨line, hp, hq⟩ := h.drop_place hcursor
    rw [hp, hq, blockBelow?, blockBelow?]
    split
    · rfl
    · split
      · exact ih
      · exact h.blockOn?_eq hcursor line.braces

/-- A header that is moved keeps its block. -/
theorem block?_place (hcursor : cursor < p.length) :
    q.block? (place cursor) = (p.block? cursor).map (Block.relocate place) := by
  obtain ⟨line, hp, hq⟩ := h.drop_place hcursor
  unfold block?
  rw [hp, hq]
  dsimp only
  split
  · rfl
  · split
    · exact h.blockBelow?_eq (h.meets_succ_place hcursor)
    · exact h.blockOn?_eq hcursor line.braces

theorem statement?_place (hcursor : cursor < p.length) :
    q.statement? (place cursor) = p.statement? cursor := by
  rw [statement?, statement?, h.kept cursor hcursor]

/-- The first loop with a block is the same, and so is its block. -/
theorem loopBlock?_eq : q.loopBlock? = p.loopBlock?.map (Block.relocate place) := by
  have hall := Spaced.induction h (motive := fun cursor moved =>
    (List.range' moved (q.length - moved)).findSome? q.loopOn? =
      ((List.range' cursor (p.length - cursor)).findSome? p.loopOn?).map
        (Block.relocate place)) ?_ ?_ ?_ (meets_zero p.length place)
  · rw [Nat.sub_zero, Nat.sub_zero, ← List.range_eq_range', ← List.range_eq_range'] at hall
    exact hall
  · intro cursor moved hcursor hmoved
    have hp : p.length - cursor = 0 := Nat.sub_eq_zero_of_le hcursor
    have hq : q.length - moved = 0 := Nat.sub_eq_zero_of_le hmoved
    rw [hp, hq]
    rfl
  · intro cursor moved hblank ih
    obtain ⟨hlt, _⟩ := List.getElem?_eq_some_iff.mp hblank
    have hq : q.length - moved = q.length - (moved + 1) + 1 := by
      change moved < q.length at hlt
      omega
    have hnone : q.loopOn? moved = none := by
      simp [loopOn?, statement?_of_blank hblank]
    rw [hq, List.range'_succ, List.findSome?_cons, hnone]
    exact ih
  · intro cursor hcursor ih
    have hlt : place cursor < q.length := h.place_lt_length hcursor
    have hp : p.length - cursor = p.length - (cursor + 1) + 1 := by
      change cursor < p.length at hcursor
      omega
    have hq : q.length - place cursor = q.length - (place cursor + 1) + 1 := by omega
    have hsame : q.loopOn? (place cursor) =
        (p.loopOn? cursor).map (Block.relocate place) := by
      simp only [loopOn?, h.statement?_place hcursor, h.block?_place hcursor]
      split <;> rfl
    rw [hp, hq, List.range'_succ, List.range'_succ, List.findSome?_cons, List.findSome?_cons,
      hsame, ih]
    cases p.loopOn? cursor <;> rfl

section Body

variable {block : Block} (hle : block.opening ≤ block.closing) (hclosing : block.closing < p.length)

include hle hclosing

theorem meets_bodyStart :
    Meets p.length place block.bodyStart (block.relocate place).bodyStart :=
  h.meets_succ_place (Nat.lt_of_le_of_lt hle hclosing)

theorem meets_bodyEnd : Meets p.length place block.bodyEnd (block.relocate place).bodyEnd := by
  intro i hi
  have hopening := h.meets_bodyStart hle hclosing i hi
  have hbefore := h.place_lt_iff hi hclosing
  unfold Block.bodyEnd
  change place i < max (place block.closing) _ ↔ _
  omega

theorem bodyEnd_relocate_le : (block.relocate place).bodyEnd ≤ q.length := by
  have hfirst := h.place_lt_length (Nat.lt_of_le_of_lt hle hclosing)
  have hlast := h.place_lt_length hclosing
  exact Nat.max_le.mpr ⟨Nat.le_of_lt hlast, hfirst⟩

/-- Behind the body in the one program, so behind it in the other: no line of the body is passed
by. -/
theorem bodyEnd_le_of_relocate (hmeets : Meets p.length place cursor moved)
    (hover : (block.relocate place).bodyEnd ≤ moved) : block.bodyEnd ≤ cursor := by
  rcases Nat.lt_or_ge cursor block.bodyEnd with hinside | hpast
  · have hcursor : cursor < p.length := by
      unfold Block.bodyEnd Block.bodyStart at hinside
      omega
    have hline := h.meets_bodyEnd hle hclosing cursor hcursor
    have hahead := hmeets cursor hcursor
    omega
  · exact hpast

end Body

/-- A loop switches a pin wherever its lines are moved. -/
theorem loopHasPinActions_eq : q.loopHasPinActions = p.loopHasPinActions := by
  unfold loopHasPinActions
  rw [h.loopBlock?_eq]
  cases hloop : p.loopBlock? with
  | none => rfl
  | some block =>
      obtain ⟨header, _, hheader⟩ := List.exists_of_findSome?_eq_some hloop
      have hblock : p.block? header = some block := by
        split at hheader
        · exact hheader
        · cases hheader
      have hle := (le_of_block? hblock).2
      have hclosing := closing_lt_of_block? hblock
      apply Bool.eq_iff_iff.mpr
      rw [Option.map_some, any_slice_iff, any_slice_iff]
      constructor
      · rintro ⟨moved, line, hstart, hstop, hread, hpin⟩
        obtain ⟨hmoved, _⟩ := List.getElem?_eq_some_iff.mp hread
        rcases h.inserted moved hmoved with ⟨i, hi, rfl⟩ | hblank
        · have := h.meets_bodyStart hle hclosing i hi
          have := h.meets_bodyEnd hle hclosing i hi
          rw [h.kept i hi] at hread
          exact ⟨i, line, by omega, by omega, hread, hpin⟩
        · cases hblank.symm.trans hread
          cases hpin
      · rintro ⟨i, line, hstart, hstop, hread, hpin⟩
        obtain ⟨hi, _⟩ := List.getElem?_eq_some_iff.mp hread
        have := h.meets_bodyStart hle hclosing i hi
        have := h.meets_bodyEnd hle hclosing i hi
        exact ⟨place i, line, by omega, by omega, (h.kept i hi).trans hread, hpin⟩

theorem isBlank_eq_false (hblank : p.isBlank = false) : q.isBlank = false := by
  obtain ⟨line, hmem, hstatement⟩ := isBlank_eq_false_iff.mp hblank
  obtain ⟨i, hread⟩ := List.mem_iff_getElem?.mp hmem
  obtain ⟨hi, _⟩ := List.getElem?_eq_some_iff.mp hread
  apply isBlank_eq_false_iff.mpr
  exact ⟨line, List.mem_iff_getElem?.mpr ⟨place i, (h.kept i hi).trans hread⟩, hstatement⟩

end SpacedBy

/-- A line is read without the blanks around it, so spacing out a source spaces out its program. -/
theorem spacedBy_ofSource {source source' : Text} {place : Nat → Nat}
    (h : Spaced [] (source.lines.map Text.trim) (source'.lines.map Text.trim) place) :
    (ofSource source).SpacedBy place (ofSource source') := by
  have hlines := h.map fun text => Line.mk text (Statement.ofTrimmed text)
  rw [List.map_map, List.map_map] at hlines
  exact hlines

end Program

end Breadboard
