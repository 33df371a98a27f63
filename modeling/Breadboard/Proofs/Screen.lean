import Breadboard.Screen.Paragraph

/-!
What stands on a screen. A screen is told by its cells, and what drawing does by the cells that it
may change. A row of text that is cut at the right edge fills its own row of the screen, so each of
the rows that have room can be read there afterwards.
-/

namespace Breadboard

/-- What the spans of a row say. -/
def Row.text (r : Row) : Text :=
  r.flatMap Span.text

namespace Row

@[simp]
theorem text_nil : text [] = [] := rfl

@[simp]
theorem text_cons (span : Span) (r : Row) : text (span :: r) = span.text ++ text r := rfl

@[simp]
theorem text_append (r more : Row) : text (r ++ more) = text r ++ text more :=
  List.flatMap_append

@[simp]
theorem text_restyled (r : Row) (style : Span → Style) :
    text (r.map fun span => ⟨span.text, style span⟩) = text r := by
  rw [text, List.flatMap_map, text]

end Row

/-- The columns that symbols take side by side. -/
def columns : List Text → Nat
  | [] => 0
  | symbol :: rest => symbol.width + columns rest

/-- The symbols of a row whose spans have these texts. A line feed has no place among them. -/
def symbols (pieces : List Text) : List Text :=
  (pieces.flatMap Text.clusters).filter (· != ['\n'])

theorem map_symbol_glyphs (r : Row) :
    (Row.glyphs r).map Glyph.symbol = symbols (r.map Span.text) := by
  simp [Row.glyphs, symbols, Span.glyphs, List.map_flatMap, List.filter_flatMap, List.flatMap_map,
    Function.comp_def]

theorem width_of_mem_glyphs {r : Row} {g : Glyph} (h : g ∈ Row.glyphs r) :
    g.width = g.symbol.width := by
  obtain ⟨span, _, hspan⟩ := List.mem_flatMap.mp h
  obtain ⟨symbol, _, rfl⟩ := List.mem_map.mp hspan
  rfl

theorem glyphsWidth_eq {glyphs : List Glyph} (h : ∀ g ∈ glyphs, g.width = g.symbol.width) :
    glyphsWidth glyphs = columns (glyphs.map Glyph.symbol) := by
  induction glyphs with
  | nil => rfl
  | cons g rest ih =>
      obtain ⟨hg, hrest⟩ := List.forall_mem_cons.mp h
      change g.width + glyphsWidth rest = _
      rw [ih hrest, hg, List.map_cons, columns]

/-- Cutting keeps what fits. -/
theorem isPrefix_cutGlyphs {limit room : Nat} {front glyphs : List Glyph}
    (hfront : front <+: glyphs) (hroom : glyphsWidth front ≤ room) (hlimit : room ≤ limit) :
    front <+: cutGlyphs limit room glyphs := by
  induction glyphs generalizing front room with
  | nil => exact hfront
  | cons g rest ih =>
      cases front with
      | nil => exact List.nil_prefix
      | cons first front =>
          obtain ⟨rfl, hrest⟩ := List.cons_prefix_cons.mp hfront
          have hsum : first.width + glyphsWidth front ≤ room := hroom
          rw [cutGlyphs, if_neg (by omega), if_neg (by omega)]
          exact List.cons_prefix_cons.mpr ⟨rfl, ih hrest (by omega) (by omega)⟩

theorem mem_of_mem_cutGlyphs {limit room : Nat} {glyphs : List Glyph} {g : Glyph}
    (h : g ∈ cutGlyphs limit room glyphs) : g ∈ glyphs := by
  induction glyphs generalizing room with
  | nil => exact h
  | cons first rest ih =>
      rw [cutGlyphs] at h
      split at h
      · exact List.mem_cons_of_mem _ (ih h)
      · split at h
        · cases h
        · rcases List.mem_cons.mp h with rfl | hrest
          · exact List.mem_cons_self
          · exact List.mem_cons_of_mem _ (ih hrest)

namespace Screen

variable {s t u : Screen} {x y x' y' : Nat}

/-- The cell in this column and row. -/
def cell? (s : Screen) (x y : Nat) : Option Cell :=
  if x < s.width ∧ y < s.height then s.cells[y * s.width + x]? else none

theorem place_inj {width : Nat} (hx : x < width) (hx' : x' < width)
    (h : y * width + x = y' * width + x') : x = x' ∧ y = y' := by
  have row {x y : Nat} (hx : x < width) : (y * width + x) / width = y := by
    rw [Nat.mul_comm, Nat.mul_add_div (Nat.zero_lt_of_lt hx), Nat.div_eq_of_lt hx, Nat.add_zero]
  have hy : y = y' := by
    calc
      y = (y * width + x) / width := (row hx).symm
      _ = (y' * width + x') / width := congrArg (· / width) h
      _ = y' := row hx'
  subst hy
  exact ⟨by omega, rfl⟩

theorem cell?_change (f : Cell → Cell) :
    (s.change x y f).cell? x' y' =
      if x = x' ∧ y = y' then (s.cell? x' y').map f else s.cell? x' y' := by
  unfold change
  by_cases hinside : x < s.width ∧ y < s.height
  · rw [if_pos hinside]
    unfold cell?
    by_cases hinside' : x' < s.width ∧ y' < s.height
    · rw [if_pos hinside', if_pos hinside', Array.getElem?_modify]
      by_cases hplace : x = x' ∧ y = y'
      · rw [if_pos hplace, hplace.1, hplace.2, if_pos rfl]
      · rw [if_neg hplace, if_neg]
        intro hsame
        exact hplace (place_inj hinside.1 hinside'.1 hsame)
    · rw [if_neg hinside', if_neg hinside', Option.map_none, ite_self]
  · rw [if_neg hinside]
    split
    · next hplace =>
        obtain ⟨rfl, rfl⟩ := hplace
        rw [cell?, if_neg hinside, Option.map_none]
    · rfl

/-- The screens have cells in the same places, and they differ in the given places only. -/
structure ChangesOnly (p : Nat → Nat → Prop) (s t : Screen) : Prop where
  places : ∀ x y, (t.cell? x y).isSome = (s.cell? x y).isSome
  outside : ∀ x y, ¬ p x y → t.cell? x y = s.cell? x y

section ChangesOnly

variable {p : Nat → Nat → Prop}

theorem ChangesOnly.refl (s : Screen) : ChangesOnly p s s :=
  ⟨fun _ _ => rfl, fun _ _ _ => rfl⟩

theorem ChangesOnly.trans (hst : ChangesOnly p s t) (htu : ChangesOnly p t u) :
    ChangesOnly p s u := by
  constructor
  · intro x y
    rw [htu.places, hst.places]
  · intro x y hout
    rw [htu.outside x y hout, hst.outside x y hout]

theorem ChangesOnly.mono {q : Nat → Nat → Prop} (h : ChangesOnly p s t)
    (hpq : ∀ x y, p x y → q x y) : ChangesOnly q s t :=
  ⟨h.places, fun x y hout => h.outside x y fun hp => hout (hpq x y hp)⟩

theorem ChangesOnly.foldl {α : Type} {f : Screen → α → Screen}
    (h : ∀ s item, ChangesOnly p s (f s item)) (s : Screen) (items : List α) :
    ChangesOnly p s (items.foldl f s) := by
  induction items generalizing s with
  | nil => exact .refl s
  | cons item rest ih => exact (h s item).trans (ih (f s item))

theorem changesOnly_change (s : Screen) (f : Cell → Cell) (h : p x y) :
    ChangesOnly p s (s.change x y f) := by
  constructor
  · intro x' y'
    rw [cell?_change]
    split
    · exact Option.isSome_map
    · rfl
  · intro x' y' hout
    rw [cell?_change, if_neg]
    rintro ⟨rfl, rfl⟩
    exact hout h

end ChangesOnly

/-! A border, whose titles stay in their rows. -/

section Border

theorem changesOnly_eraseFrom (s : Screen) (x y count : Nat) :
    ChangesOnly (fun _ y' => y' = y) s (s.eraseFrom x y count) := by
  induction count generalizing s x with
  | zero => exact .refl s
  | succ count ih =>
      refine .trans ?_ (ih (s.erase x y) (x + 1))
      exact changesOnly_change s _ rfl

theorem changesOnly_drawLabelFrom (s : Screen) (start x y right : Nat) (glyphs : List Glyph) :
    ChangesOnly (fun _ y' => y' = y) s (s.drawLabelFrom start x y right glyphs) := by
  induction glyphs generalizing s x with
  | nil => exact .refl s
  | cons g rest ih =>
      rw [drawLabelFrom]
      split
      · exact .refl s
      · refine .trans ?_ ((changesOnly_eraseFrom _ _ _ _).trans (ih _ _))
        split
        · exact changesOnly_change s _ rfl
        · split
          · exact changesOnly_change s _ rfl
          · exact changesOnly_change s _ rfl

theorem changesOnly_drawLabel (s : Screen) (x y right : Nat) (span : Span) :
    ChangesOnly (fun _ y' => y' = y) s (s.drawLabel x y right span) := by
  rw [drawLabel]
  split
  · exact .refl s
  · split
    · exact .refl s
    · refine .trans ?_ (changesOnly_drawLabelFrom _ _ _ _ _ _)
      refine .trans ?_ (changesOnly_eraseFrom _ _ _ _)
      exact changesOnly_change s _ rfl

theorem changesOnly_drawLabels (s : Screen) (x y right : Nat) (r : Row) :
    ChangesOnly (fun _ y' => y' = y) s (s.drawLabels x y right r) := by
  induction r generalizing s x with
  | nil => exact .refl s
  | cons span rest ih =>
      rw [drawLabels]
      split
      · exact .refl s
      · exact (changesOnly_drawLabel s x y right span).trans (ih _ _)

theorem changesOnly_drawTitle (s : Screen) (x y room : Nat) (r : Row) :
    ChangesOnly (fun _ y' => y' = y) s (s.drawTitle x y room r) :=
  changesOnly_drawLabels s x y _ r

/-- The first or the last column or row of an area. -/
def OnBorder (a : Area) (x y : Nat) : Prop :=
  x = a.x ∨ x + 1 = a.x + a.width ∨ y = a.y ∨ y + 1 = a.y + a.height

theorem changesOnly_drawBorder (s : Screen) (a : Area) (style : Style) (title footer : Row) :
    ChangesOnly (OnBorder a) s (s.drawBorder a style title footer) := by
  unfold drawBorder
  split
  · exact .refl s
  · next hempty =>
      simp only [Area.isEmpty, Bool.or_eq_true, beq_iff_eq, not_or] at hempty
      dsimp only
      generalize hright : a.x + a.width - 1 = right
      generalize hbottom : a.y + a.height - 1 = bottom
      have hwrite (s : Screen) {x y : Nat} (symbol : Text) (h : OnBorder a x y) :
          ChangesOnly (OnBorder a) s (s.write x y symbol style) :=
        changesOnly_change s _ h
      have hcolumn (s : Screen) {x : Nat} (h : ∀ y, OnBorder a x y) := ChangesOnly.foldl
        (fun s dy => hwrite s ['│'] (h (a.y + dy))) s (List.range a.height)
      have hline (s : Screen) {y : Nat} (h : ∀ x, OnBorder a x y) := ChangesOnly.foldl
        (fun s dx => hwrite s ['─'] (h (a.x + dx))) s (List.range a.width)
      have htitle (s : Screen) {y : Nat} (h : ∀ x, OnBorder a x y) (r : Row) :
          ChangesOnly (OnBorder a) s (s.drawTitle (a.x + 1) y (a.width - 2) r) :=
        (changesOnly_drawTitle s _ y _ r).mono fun x _ hy => hy ▸ h x
      have first (y : Nat) : OnBorder a a.x y := .inl rfl
      have last (y : Nat) : OnBorder a right y := .inr (.inl (by omega))
      have upper (x : Nat) : OnBorder a x a.y := .inr (.inr (.inl rfl))
      have lower (x : Nat) : OnBorder a x bottom := .inr (.inr (.inr (by omega)))
      refine .trans ?_ (htitle _ lower footer)
      refine .trans ?_ (htitle _ upper title)
      refine .trans ?_ (hwrite _ _ (upper _))
      refine .trans ?_ (hwrite _ _ (lower _))
      refine .trans ?_ (hwrite _ _ (upper _))
      refine .trans ?_ (hwrite _ _ (lower _))
      refine .trans ?_ (hline _ lower)
      refine .trans ?_ (hcolumn _ last)
      exact (hcolumn _ first).trans (hline _ upper)

end Border

/-! A row of glyphs. -/

/-- The symbols stand side by side from this place on. One without width is not to be seen. -/
def Bears (s : Screen) (x y : Nat) : List Text → Prop
  | [] => True
  | symbol :: rest =>
      (0 < symbol.width → ∀ cell ∈ s.cell? x y, cell.symbol = symbol) ∧
        s.Bears (x + symbol.width) y rest

section Bears

variable {front back : List Text}

theorem Bears.of_append (h : s.Bears x y (front ++ back)) : s.Bears x y front := by
  induction front generalizing x with
  | nil => trivial
  | cons symbol rest ih => exact ⟨h.1, ih h.2⟩

theorem Bears.congr (h : s.Bears x y front) (hrow : ∀ x, t.cell? x y = s.cell? x y) :
    t.Bears x y front := by
  induction front generalizing x with
  | nil => trivial
  | cons symbol rest ih =>
      refine ⟨?_, ih h.2⟩
      rw [hrow]
      exact h.1

theorem bears_of_columns_eq_zero (h : columns front = 0) : s.Bears x y front := by
  induction front generalizing x with
  | nil => trivial
  | cons symbol rest ih =>
      rw [columns] at h
      refine ⟨?_, ih (by omega)⟩
      intro hwidth
      omega

end Bears

theorem changesOnly_drawGlyphs (s : Screen) (x y : Nat) (glyphs : List Glyph) :
    ChangesOnly (fun x' y' => x ≤ x' ∧ y' = y) s (s.drawGlyphs x y glyphs) := by
  induction glyphs generalizing s x with
  | nil => exact .refl s
  | cons g rest ih =>
      rw [drawGlyphs]
      split
      · exact ih s x
      · apply ChangesOnly.trans (changesOnly_change s _ ⟨Nat.le_refl x, rfl⟩)
        apply (ih _ _).mono
        intro x' y' hplace
        exact ⟨by omega, hplace.2⟩

theorem bears_drawGlyphs (s : Screen) (x y : Nat) (glyphs : List Glyph)
    (h : ∀ g ∈ glyphs, g.width = g.symbol.width) :
    (s.drawGlyphs x y glyphs).Bears x y (glyphs.map Glyph.symbol) := by
  induction glyphs generalizing s x with
  | nil => trivial
  | cons g rest ih =>
      obtain ⟨hg, hrest⟩ := List.forall_mem_cons.mp h
      rw [drawGlyphs, List.map_cons, Bears, ← hg]
      split
      · next hwidth =>
          rw [hwidth, Nat.add_zero]
          exact ⟨fun hpos => absurd hpos (Nat.lt_irrefl 0), ih s x hrest⟩
      · refine ⟨?_, ih _ _ hrest⟩
        -- what follows is drawn to the right of the first glyph
        intro hpos cell hcell
        rw [(changesOnly_drawGlyphs _ _ y rest).outside x y (by omega), write, cell?_change,
          if_pos ⟨rfl, rfl⟩] at hcell
        obtain ⟨before, _, rfl⟩ := Option.map_eq_some_iff.mp hcell
        rfl

/-- The text stands in a row of the screen from this place on, as far as there is room. It may be
cut into pieces first: the letters of two of them are never one symbol. -/
def Reads (s : Screen) (x y room : Nat) (text : Text) : Prop :=
  ∃ pieces, pieces.flatten = text ∧
    ∀ front, front <+: symbols pieces → columns front ≤ room → s.Bears x y front

/-- Without room any text can be read. -/
theorem reads_zero (s : Screen) (x y : Nat) (text : Text) : s.Reads x y 0 text := by
  refine ⟨[text], by simp, ?_⟩
  intro front _ hfits
  exact bears_of_columns_eq_zero (Nat.le_zero.mp hfits)

theorem Reads.congr {s t : Screen} {x y room : Nat} {text : Text} (h : s.Reads x y room text)
    (hrow : ∀ x, t.cell? x y = s.cell? x y) : t.Reads x y room text := by
  obtain ⟨pieces, hpieces, hbears⟩ := h
  exact ⟨pieces, hpieces, fun front hfront hfits => (hbears front hfront hfits).congr hrow⟩

theorem reads_drawGlyphs (s : Screen) (x y room : Nat) (r : Row) :
    (s.drawGlyphs x y (cutGlyphs room room (Row.glyphs r))).Reads x y room
      (Row.text r) := by
  refine ⟨r.map Span.text, rfl, ?_⟩
  intro front hfront hfits
  rw [← map_symbol_glyphs] at hfront
  obtain ⟨back, hback⟩ := hfront
  obtain ⟨kept, others, hglyphs, rfl, _⟩ := List.map_eq_append_iff.mp hback.symm
  have hwidth : ∀ g ∈ kept, g.width = g.symbol.width := by
    intro g hg
    have hmem : g ∈ Row.glyphs r := by
      rw [hglyphs]
      exact List.mem_append_left _ hg
    exact width_of_mem_glyphs hmem
  obtain ⟨more, hmore⟩ : kept <+: cutGlyphs room room (Row.glyphs r) := by
    apply isPrefix_cutGlyphs ⟨others, hglyphs.symm⟩ _ (Nat.le_refl room)
    rw [glyphsWidth_eq hwidth]
    exact hfits
  have hbears := s.bears_drawGlyphs x y (cutGlyphs room room (Row.glyphs r))
    fun g hg => width_of_mem_glyphs (mem_of_mem_cutGlyphs hg)
  rw [← hmore, List.map_append] at hbears
  rw [← hmore]
  exact hbears.of_append

/-- Draws rows of glyphs below one another. -/
def drawLines (s : Screen) (x y : Nat) : List (List Glyph) → Screen
  | [] => s
  | line :: rest => (s.drawGlyphs x y line).drawLines x (y + 1) rest

theorem foldl_zipIdx_eq_drawLines (s : Screen) (x y start : Nat) (lines : List (List Glyph)) :
    (lines.zipIdx start).foldl (fun s (line, dy) => s.drawGlyphs x (y + dy) line) s =
      s.drawLines x (y + start) lines := by
  induction lines generalizing s start with
  | nil => rfl
  | cons line rest ih => exact ih _ (start + 1)

theorem drawRows_cut {a : Area} (h : a.isEmpty = false) (s : Screen) (rows : List Row) :
    s.drawRows a .cut rows =
      s.drawLines a.x a.y
        ((rows.map fun r => cutGlyphs a.width a.width (Row.glyphs r)).take a.height) := by
  unfold drawRows
  rw [if_neg (by simp [h])]
  exact foldl_zipIdx_eq_drawLines s a.x a.y 0 _

theorem changesOnly_drawLines (s : Screen) (x y : Nat) (lines : List (List Glyph)) :
    ChangesOnly (fun _ y' => y ≤ y' ∧ y' < y + lines.length) s (s.drawLines x y lines) := by
  induction lines generalizing s y with
  | nil => exact .refl s
  | cons line rest ih =>
      rw [List.length_cons]
      apply ChangesOnly.trans
      · apply (changesOnly_drawGlyphs s x y line).mono
        intro x' y' hplace
        omega
      · apply (ih _ (y + 1)).mono
        intro x' y' hplace
        omega

theorem changesOnly_drawRows (s : Screen) (a : Area) (rows : List Row) :
    ChangesOnly (fun _ y => a.y ≤ y ∧ y < a.y + rows.length) s (s.drawRows a .cut rows) := by
  by_cases hempty : a.isEmpty = true
  · unfold drawRows
    rw [if_pos hempty]
    exact .refl s
  · rw [drawRows_cut (Bool.eq_false_iff.mpr hempty)]
    apply (changesOnly_drawLines s _ _ _).mono
    intro x y hplace
    simp only [List.length_take, List.length_map] at hplace
    omega

theorem reads_drawLines {room index : Nat} {rows : List Row} {r : Row}
    (h : rows[index]? = some r) (s : Screen) (x y : Nat) :
    (s.drawLines x y (rows.map fun r => cutGlyphs room room (Row.glyphs r))).Reads x
      (y + index) room (Row.text r) := by
  induction rows generalizing s y index with
  | nil => cases h
  | cons first rest ih =>
      cases index with
      | zero =>
          cases h
          apply (reads_drawGlyphs s x y room r).congr
          intro x'
          exact (changesOnly_drawLines _ x (y + 1) _).outside x' y (by omega)
      | succ index =>
          have hreads := ih h (s.drawGlyphs x y (cutGlyphs room room (Row.glyphs first)))
            (y + 1)
          rw [Nat.add_assoc, Nat.add_comm 1 index] at hreads
          exact hreads

/-- Each row of text that has room in the area can be read there. -/
theorem reads_drawRows {a : Area} {rows : List Row} {r : Row} {index : Nat}
    (hrow : rows[index]? = some r) (hroom : index < a.height) (s : Screen) :
    (s.drawRows a .cut rows).Reads a.x (a.y + index) a.width (Row.text r) := by
  by_cases hempty : a.isEmpty = true
  · have hwidth : a.width = 0 := by
      simp only [Area.isEmpty, Bool.or_eq_true, beq_iff_eq] at hempty
      omega
    rw [hwidth]
    exact reads_zero _ _ _ _
  · rw [drawRows_cut (Bool.eq_false_iff.mpr hempty), ← List.map_take]
    apply reads_drawLines
    rw [List.getElem?_take_of_lt hroom]
    exact hrow

end Screen

end Breadboard
