import Breadboard.Proofs.Program.Matching
import Breadboard.Proofs.Program.Nesting

/-!
Where the block of a header lies. A header with an opening brace on its own line has its block from
there on: it ends where the count of open braces is back at zero. The count begins with the first
brace of the line, though, and a line that closes another block before it opens its own begins with
a brace that closes. Such a header has no block at all, whatever follows.

A header without a brace waits for one. Blank lines let it wait, and so do lines that start with a
brace. Some of these are statements, and the brace of a statement does not count. So the block opens
on the first line below the header that is neither blank nor a statement of this kind.
-/

namespace Breadboard

theorem height_append (front back : List BraceToken) :
    height (front ++ back) = height front + height back := by
  induction front with
  | nil => simp
  | cons token rest ih =>
      rw [List.cons_append, height_cons, height_cons, ih]
      omega

theorem height_take_succ {tokens : List BraceToken} {place : Nat} {token : BraceToken}
    (h : tokens[place]? = some token) :
    height (tokens.take (place + 1)) = height (tokens.take place) + token.brace.rise := by
  rw [List.take_add_one, h, height_append]
  simp

/-- With the brace at this place as many have closed as have opened, for the first time. -/
structure ReturnsAt (tokens : List BraceToken) (place : Nat) : Prop where
  zero : height (tokens.take (place + 1)) = 0
  first : ∀ before < place, height (tokens.take (before + 1)) ≠ 0

namespace ReturnsAt

variable {tokens : List BraceToken} {place : Nat}

/-- A count that begins with one and changes by one at a time stays positive up to its first
zero. -/
theorem height_pos {line : Nat} (h : ReturnsAt tokens place)
    (hopens : tokens[0]? = some ⟨line, .opening⟩) (hplace : place < tokens.length) {before : Nat}
    (hbefore : before < place) : 0 < height (tokens.take (before + 1)) := by
  induction before with
  | zero =>
      have hone := height_take_succ hopens
      simp only [List.take_zero, height_nil, Brace.rise] at hone
      omega
  | succ before ih =>
      have habove := ih (by omega)
      have hread : tokens[before + 1]? = some tokens[before + 1] :=
        List.getElem?_eq_getElem (by omega)
      have hstep := height_take_succ hread
      have hnonzero := h.first (before + 1) hbefore
      have hrise : -1 ≤ tokens[before + 1].brace.rise := by
        cases tokens[before + 1].brace with
        | opening => simp [Brace.rise]
        | closing => simp [Brace.rise]
      omega

/-- The brace with which the count is back at zero is one that closes. -/
theorem brace_eq {line : Nat} {token : BraceToken} (h : ReturnsAt tokens place)
    (hopens : tokens[0]? = some ⟨line, .opening⟩) (htoken : tokens[place]? = some token) :
    token.brace = .closing := by
  have hplace : place < tokens.length := (List.getElem?_eq_some_iff.mp htoken).1
  have hlast := height_take_succ htoken
  rw [h.zero] at hlast
  cases hbrace : token.brace with
  | closing => rfl
  | opening =>
      rw [hbrace, Brace.rise] at hlast
      cases place with
      | zero =>
          simp only [List.take_zero, height_nil] at hlast
          omega
      | succ before =>
          have habove := h.height_pos hopens hplace (Nat.lt_succ_self before)
          omega

end ReturnsAt

/-- Matching by nesting depth is counting to the first zero. -/
theorem isMatched_iff_returnsAt {tokens : List BraceToken} {block : Block} :
    IsMatched tokens block ↔
      tokens[0]? = some ⟨block.opening, .opening⟩ ∧
        ∃ place token, tokens[place]? = some token ∧ ReturnsAt tokens place ∧
          token.line = block.closing := by
  constructor
  · intro h
    obtain ⟨hopens, place, hplace, hzero, habove⟩ := h
    have hreturns : ReturnsAt tokens place := by
      constructor
      · exact hzero
      · intro before hbefore
        have hpositive := habove (before + 1) (Nat.succ_pos before) hbefore
        omega
    exact ⟨hopens, place, _, hplace, hreturns, rfl⟩
  · intro h
    obtain ⟨hopens, place, token, htoken, hreturns, hline⟩ := h
    have hplace : place < tokens.length := (List.getElem?_eq_some_iff.mp htoken).1
    have hcloses : token = ⟨block.closing, .closing⟩ := by
      obtain ⟨line, brace⟩ := token
      have hbrace : brace = .closing := hreturns.brace_eq hopens htoken
      rw [hbrace, ← hline]
    rw [hcloses] at htoken
    refine ⟨hopens, place, htoken, hreturns.zero, ?_⟩
    intro before hpositive hle
    obtain ⟨before, rfl⟩ := Nat.exists_eq_succ_of_ne_zero (Nat.ne_of_gt hpositive)
    exact hreturns.height_pos hopens hplace hle

namespace Program

variable {p : Program} {header : Nat}

/-- The braces that count, from the first one on that opens. -/
def tokensFromOpening (p : Program) (header : Nat) : List BraceToken :=
  (p.tokens header).dropWhile fun token => token.brace = .closing

/-- Counted from the first brace that opens, the block closes on this line. -/
def ClosesOn (p : Program) (header line : Nat) : Prop :=
  ∃ place token, (p.tokensFromOpening header)[place]? = some token ∧
    ReturnsAt (p.tokensFromOpening header) place ∧ token.line = line

theorem tokens_of_header {l : Line} (hl : p.lines[header]? = some l)
    (hheader : l.statement.isHeader = true) :
    p.tokens header =
      l.text.unquotedBraces.map (BraceToken.mk header) ++
        tokensOf (header + 1) (p.lines.drop (header + 1)) := by
  have howns : l.statement.ownsBraces = true := by
    cases hstatement : l.statement with
    | brace brace => rfl
    | _ => rwa [hstatement] at hheader
  rw [tokens, drop_of_getElem? hl, tokensOf_cons, Line.braces_eq, if_pos howns]

/-- A header with a brace on its line that opens has a block if the first brace there is of this
kind and the count from there on comes back to zero. -/
theorem block?_eq_some_iff_closesOn {l : Line} (hl : p.lines[header]? = some l)
    (hheader : l.statement.isHeader = true) (hopens : Brace.opening ∈ l.text.unquotedBraces)
    {block : Block} :
    p.block? header = some block ↔
      l.text.unquotedBraces.head? = some .opening ∧ block.opening = header ∧
        p.ClosesOn header block.closing := by
  have hisHeader : p.IsHeader header := ⟨l.statement, by simp [statement?, hl], hheader⟩
  have htokens := tokens_of_header hl hheader
  rw [block?_eq_some_iff hisHeader, isMatched_iff_returnsAt]
  cases hbraces : l.text.unquotedBraces with
  | nil =>
      rw [hbraces] at hopens
      cases hopens
  | cons brace more =>
      rw [hbraces, List.map_cons, List.cons_append] at htokens
      cases brace with
      | closing => simp [htokens]
      | opening =>
          have hall : p.tokensFromOpening header = p.tokens header := by
            rw [tokensFromOpening, htokens]
            rfl
          rw [ClosesOn, hall, htokens]
          constructor
          · intro h
            obtain ⟨⟨hfirst, hreturns⟩, _⟩ := h
            have hopening : header = block.opening :=
              congrArg BraceToken.line (Option.some.inj hfirst)
            exact ⟨rfl, hopening.symm, hreturns⟩
          · intro h
            obtain ⟨_, hopening, hreturns⟩ := h
            have hwaits : LetWait (header + 1) (p.lines.drop (header + 1)) block.opening := by
              apply letWait_of_lt
              omega
            exact ⟨⟨by rw [hopening]; rfl, hreturns⟩, hwaits⟩

/-- The first line below that is not blank. -/
structure IsNextWritten (p : Program) (header line : Nat) : Prop where
  below : header < line
  written : ∃ l, p.lines[line]? = some l ∧ l.text ≠ []
  first : ∀ between l, header < between → between < line → p.lines[between]? = some l → l.text = []

end Program

/-- A statement that starts with a brace, which does not count. -/
structure Line.IsStray (l : Line) : Prop where
  starts : l.text.head? = some '{'
  uncounted : l.statement.ownsBraces = false

theorem Line.braces_of_starts {l : Line} (hstarts : l.text.head? = some '{')
    (howns : l.statement.ownsBraces = true) : l.braces ≠ [] := by
  obtain ⟨rest, hrest⟩ := List.head?_eq_some_iff.mp hstarts
  rw [Line.braces_eq, if_pos howns, ← Line.bracesOf_eq_unquotedBraces, hrest]
  exact List.cons_ne_nil _ _

/-- A line without braces lets a header wait if it is blank or a stray. -/
theorem Line.blank_or_isStray {l : Line} (hwaits : l.keepsWaiting = true) (hnone : l.braces = []) :
    l.text = [] ∨ l.IsStray := by
  rcases keepsWaiting_iff.mp hwaits with hblank | hstarts
  · exact .inl hblank
  · right
    constructor
    · exact hstarts
    · cases howns : l.statement.ownsBraces with
      | false => rfl
      | true => exact absurd hnone (braces_of_starts hstarts howns)

namespace Program

variable {p : Program} {header : Nat}

/-- The line below the header on which its block opens. -/
structure IsOpening (p : Program) (header line : Nat) : Prop where
  below : header < line
  opens : ∃ l, p.lines[line]? = some l ∧ l.text.head? = some '{' ∧ l.statement.ownsBraces = true
  /-- All that stands in between. -/
  above : ∀ between l, header < between → between < line → p.lines[between]? = some l →
    l.text = [] ∨ l.IsStray

theorem opening_of_block? {block : Block} (h : p.block? header = some block) :
    block.opening = header ∨ p.IsOpening header block.opening := by
  obtain ⟨⟨habove, l, more, hl, hbraces, _⟩, hwaits⟩ := opensFrom_of_block? h
  rcases Nat.eq_or_lt_of_le (le_of_block? h).1 with hsame | hbelow
  · exact .inl hsame.symm
  · right
    have hkeeps := hwaits block.opening l hbelow (Nat.le_refl _) hl
    have hcounts : l.statement.ownsBraces = true := by
      rw [Line.braces_eq] at hbraces
      split at hbraces
      · next howns => exact howns
      · cases hbraces
    have hstarts : l.text.head? = some '{' := by
      rcases Line.keepsWaiting_iff.mp hkeeps with hblank | hstarts
      · rw [Line.braces_eq, hblank, if_pos hcounts] at hbraces
        cases hbraces
      · exact hstarts
    constructor
    · exact hbelow
    · exact ⟨l, hl, hstarts, hcounts⟩
    · intro between other hbetween hlt hother
      apply Line.blank_or_isStray
      · exact hwaits between other hbetween (Nat.le_of_lt hlt) hother
      · exact habove between other (Nat.le_of_lt hbetween) hlt hother

/-- The only thing that can stand between a header and the first written line on which its block
should open is a stray. -/
theorem IsOpening.isNextWritten_iff {line : Nat} (h : p.IsOpening header line) :
    p.IsNextWritten header line ↔
      ∀ between l, header < between → between < line → p.lines[between]? = some l →
        ¬l.IsStray := by
  constructor
  · intro hnext between l hbetween hlt hl hstray
    have hblank := hnext.first between l hbetween hlt hl
    have hstarts := hstray.starts
    rw [hblank] at hstarts
    cases hstarts
  · intro hnone
    obtain ⟨l, hl, hstarts, _⟩ := h.opens
    constructor
    · exact h.below
    · refine ⟨l, hl, ?_⟩
      intro hblank
      rw [hblank] at hstarts
      cases hstarts
    · intro between l hbetween hlt hl
      rcases h.above between l hbetween hlt hl with hblank | hstray
      · exact hblank
      · exact absurd hstray (hnone between l hbetween hlt hl)

/-- Where blocks open. A block that does not open on the line of its header opens below, on the
first line that is neither blank nor a stray. So it opens on the header's line or on the first
written line below if and only if no stray stands in between. -/
theorem block?_opening_exact (source : Text) (header : Nat) (block : Block)
    (h : (ofSource source).block? header = some block) :
    (block.opening = header ∨ (ofSource source).IsOpening header block.opening) ∧
    ((block.opening = header ∨ (ofSource source).IsNextWritten header block.opening) ↔
      ∀ between l, header < between → between < block.opening →
        (ofSource source).lines[between]? = some l → ¬l.IsStray) := by
  have hopening := opening_of_block? h
  refine ⟨hopening, ?_⟩
  rcases hopening with hsame | hbelow
  · constructor
    · intro _ between l hbetween hlt
      omega
    · intro _
      exact .inl hsame
  · rw [← hbelow.isNextWritten_iff, or_iff_right]
    intro hsame
    have hlt := hbelow.below
    omega

/-- Two blank lines and a header that starts with a brace. -/
theorem block?_opening_exact_blankLines :
    let p := ofSource "void setup()\n\n \n\x7b void loop()\n\x7d".toList
    p.block? 0 = some ⟨3, 4⟩ ∧ p.IsOpening 0 3 ∧
      (p.IsNextWritten 0 3 ↔
        ∀ between l, 0 < between → between < 3 → p.lines[between]? = some l → ¬l.IsStray) := by
  intro p
  have hblock : p.block? 0 = some ⟨3, 4⟩ := by decide +kernel
  obtain ⟨hopening, hexact⟩ := block?_opening_exact _ 0 ⟨3, 4⟩ hblock
  have hbelow : ¬(Block.opening ⟨3, 4⟩ = 0) := by decide
  rw [or_iff_right hbelow] at hopening hexact
  exact ⟨hblock, hopening, hexact⟩

/-- The pin is switched between the header and the brace on which its block opens. -/
theorem block?_opens_below_stray :
    let p := ofSource "void setup()\n\x7bpin1_allumé;\n\x7b\n\x7d".toList
    p.statement? 0 = some .setup ∧ p.statement? 1 = some (.switch ['1'] true) ∧
      p.block? 0 = some ⟨2, 3⟩ ∧ ¬(2 = 0 ∨ p.IsNextWritten 0 2) := by
  intro p
  refine ⟨by decide +kernel, by decide +kernel, by decide +kernel, ?_⟩
  intro hplace
  rcases hplace with hsame | hnext
  · cases hsame
  · have hline : p.lines[1]? = some ⟨"\x7bpin1_allumé;".toList, .switch ['1'] true⟩ := by
      decide +kernel
    have hblank := hnext.first 1 _ (by decide) (by decide) hline
    cases hblank

end Program

end Breadboard
