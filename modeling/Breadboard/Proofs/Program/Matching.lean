import Breadboard.Proofs.Program.Layout

/-!
Blocks by bracket matching. Take the braces that count, from a header to the end of the program, as
one sequence. The block of the header begins with the first of them and ends with the brace that
matches it: the first one at which as many braces have closed as have opened. What is special is
only that the first brace must open, and that nothing but blank lines and lines that start with a
brace may stand between it and the header.

The search itself is a single pass with a counter of open braces. Here it is written as a machine
that would notice if the counter had to go below zero. It never does, and the block that the machine
finds is the block of the header.
-/

namespace Breadboard

namespace Brace

def ofChar? (c : Char) : Option Brace :=
  if c = '{' then some .opening else if c = '}' then some .closing else none

/-- By how much a brace changes the number of open ones. -/
def rise : Brace → Int
  | .opening => 1
  | .closing => -1

end Brace

/-- The braces outside double quotes: an even number of quotes stands before them. -/
def Text.unquotedBraces (t : Text) : List Brace :=
  (List.range t.length).filterMap fun place =>
    if (t.take place).count '"' % 2 = 0 then t[place]?.bind Brace.ofChar? else none

/-- The scan of a text that comes after `ahead` quotes. -/
private theorem bracesOf_eq (ahead : Nat) (t : Text) :
    Line.bracesOf (ahead % 2 == 1) t =
      (List.range t.length).filterMap fun place =>
        if (ahead + (t.take place).count '"') % 2 = 0 then t[place]?.bind Brace.ofChar?
        else none := by
  induction t generalizing ahead with
  | nil => rfl
  | cons c rest ih =>
      rw [List.length_cons, List.range_succ_eq_map, List.filterMap_cons, List.filterMap_map]
      simp only [List.take_zero, List.count_nil, Nat.add_zero, List.getElem?_cons_zero,
        Option.bind_some, Function.comp_def, List.take_succ_cons, List.getElem?_cons_succ]
      by_cases hquote : c = '"'
      · subst hquote
        have hodd : (!(ahead % 2 == 1)) = ((ahead + 1) % 2 == 1) := by
          rw [Bool.eq_iff_iff]
          simp
          omega
        simp only [Line.bracesOf, hodd, ih, List.count_cons_self, Nat.add_assoc,
          Nat.add_comm 1]
        simp [Brace.ofChar?]
      · simp only [Line.bracesOf, if_neg hquote, List.count_cons_of_ne hquote, ih]
        by_cases heven : ahead % 2 = 0
        · have hunquoted : ((0 : Nat) == 1) = false := rfl
          simp only [heven, hunquoted, Bool.false_eq_true, if_true, if_false, Brace.ofChar?]
          split
          · rfl
          · split <;> rfl
        · have hodd : ahead % 2 = 1 := by omega
          simp [hodd]

theorem Line.bracesOf_eq_unquotedBraces (t : Text) : Line.bracesOf false t = t.unquotedBraces := by
  simpa [Text.unquotedBraces] using bracesOf_eq 0 t

/-- Headers, and lines that are a single brace. -/
def Statement.ownsBraces : Statement → Bool
  | .brace _ => true
  | s => s.isHeader

theorem Line.braces_eq (l : Line) :
    l.braces = if l.statement.ownsBraces then l.text.unquotedBraces else [] := by
  rw [← bracesOf_eq_unquotedBraces]
  unfold braces
  cases l.statement with
  | _ => rfl

theorem Line.keepsWaiting_iff {l : Line} :
    l.keepsWaiting = true ↔ l.text = [] ∨ l.text.head? = some '{' := by
  simp only [keepsWaiting, Bool.or_eq_true, List.isEmpty_iff, beq_iff_eq]

/-- A brace that counts, and the line it stands on. -/
structure BraceToken where
  line : Nat
  brace : Brace
deriving DecidableEq, Repr

/-- The braces that count on these lines. `index` is the number of the first line. -/
def tokensOf (index : Nat) (lines : List Line) : List BraceToken :=
  (lines.zipIdx index).flatMap fun (l, line) =>
    if l.statement.ownsBraces then l.text.unquotedBraces.map (BraceToken.mk line) else []

@[simp]
theorem tokensOf_nil (index : Nat) : tokensOf index [] = [] :=
  rfl

@[simp]
theorem tokensOf_cons (index : Nat) (l : Line) (rest : List Line) :
    tokensOf index (l :: rest) =
      l.braces.map (BraceToken.mk index) ++ tokensOf (index + 1) rest := by
  simp only [tokensOf, List.zipIdx_cons, List.flatMap_cons, Line.braces_eq]
  split <;> rfl

/-- How many more braces opened than closed. -/
def height : List BraceToken → Int
  | [] => 0
  | token :: tokens => token.brace.rise + height tokens

@[simp]
theorem height_nil : height [] = 0 :=
  rfl

@[simp]
theorem height_cons (token : BraceToken) (tokens : List BraceToken) :
    height (token :: tokens) = token.brace.rise + height tokens :=
  rfl

/-- The height comes down to `floor` with the brace at this place, and not before. -/
structure FallsTo (tokens : List BraceToken) (floor : Int) (place : Nat) : Prop where
  reached : height (tokens.take (place + 1)) = floor
  above : ∀ before ≤ place, floor < height (tokens.take before)

theorem fallsTo_zero_iff {token : BraceToken} {tokens : List BraceToken} {floor : Int} :
    FallsTo (token :: tokens) floor 0 ↔ floor < 0 ∧ token.brace.rise = floor := by
  constructor
  · rintro ⟨hreached, habove⟩
    exact ⟨habove 0 (Nat.le_refl 0), by simpa using hreached⟩
  · rintro ⟨hfloor, hrise⟩
    refine ⟨by simpa using hrise, ?_⟩
    intro before hle
    cases Nat.le_zero.mp hle
    exact hfloor

theorem fallsTo_succ_iff {token : BraceToken} {tokens : List BraceToken} {floor : Int}
    {place : Nat} :
    FallsTo (token :: tokens) floor (place + 1) ↔
      floor < 0 ∧ FallsTo tokens (floor - token.brace.rise) place := by
  constructor
  · rintro ⟨hreached, habove⟩
    refine ⟨habove 0 (Nat.zero_le _), ?_, ?_⟩
    · rw [List.take_succ_cons, height_cons] at hreached
      omega
    · intro before hle
      have hbefore := habove (before + 1) (Nat.succ_le_succ hle)
      rw [List.take_succ_cons, height_cons] at hbefore
      omega
  · rintro ⟨hfloor, hreached, habove⟩
    refine ⟨?_, ?_⟩
    · rw [List.take_succ_cons, height_cons]
      omega
    · intro before hle
      cases before with
      | zero => exact hfloor
      | succ before =>
          have hbefore := habove before (Nat.le_of_succ_le_succ hle)
          rw [List.take_succ_cons, height_cons]
          omega

theorem exists_fallsTo_cons_iff {token wanted : BraceToken} {tokens : List BraceToken}
    {floor : Int} :
    (∃ place, (token :: tokens)[place]? = some wanted ∧ FallsTo (token :: tokens) floor place) ↔
      floor < 0 ∧ ((token = wanted ∧ token.brace.rise = floor) ∨
        ∃ place, tokens[place]? = some wanted ∧
          FallsTo tokens (floor - token.brace.rise) place) := by
  constructor
  · rintro ⟨place, hplace, hfalls⟩
    cases place with
    | zero =>
        obtain ⟨hfloor, hrise⟩ := fallsTo_zero_iff.mp hfalls
        exact ⟨hfloor, .inl ⟨Option.some.inj hplace, hrise⟩⟩
    | succ place =>
        obtain ⟨hfloor, hrest⟩ := fallsTo_succ_iff.mp hfalls
        exact ⟨hfloor, .inr ⟨place, hplace, hrest⟩⟩
  · rintro ⟨hfloor, ⟨rfl, hrise⟩ | ⟨place, hplace, hrest⟩⟩
    · exact ⟨0, rfl, fallsTo_zero_iff.mpr ⟨hfloor, hrise⟩⟩
    · exact ⟨place + 1, hplace, fallsTo_succ_iff.mpr ⟨hfloor, hrest⟩⟩

/-- Where the search for a block stands. -/
inductive Search where
  | waiting
  /-- The block opened on this line, and `depth` braces are open. -/
  | inside (opening depth : Nat)
  | found (block : Block)
  | refused
  /-- A brace closed while the counter was at zero. -/
  | underflow
deriving DecidableEq, Repr

namespace Search

def read : Search → BraceToken → Search
  | .waiting, ⟨line, .opening⟩ => .inside line 1
  | .waiting, ⟨_, .closing⟩ => .refused
  | .inside opening depth, ⟨_, .opening⟩ => .inside opening (depth + 1)
  | .inside _ 0, ⟨_, .closing⟩ => .underflow
  | .inside opening 1, ⟨line, .closing⟩ => .found ⟨opening, line⟩
  | .inside opening (depth + 2), ⟨_, .closing⟩ => .inside opening (depth + 1)
  | ended, _ => ended

/-- A line that is not blank and does not start with a brace ends the wait for the block, unless it
is the header itself. -/
def readLine (header : Nat) (search : Search) (numbered : Line × Nat) : Search :=
  let (l, line) := numbered
  if search = .waiting ∧ header < line ∧ l.keepsWaiting = false then .refused
  else (l.braces.map (BraceToken.mk line)).foldl read search

def block? : Search → Option Block
  | .found block => some block
  | _ => none

/-- While a block is open, so is some brace. -/
def Counts : Search → Prop
  | .inside _ depth => 0 < depth
  | .underflow => False
  | _ => True

theorem Counts.read {search : Search} (h : search.Counts) (token : BraceToken) :
    (search.read token).Counts := by
  obtain ⟨line, brace⟩ := token
  cases search with
  | waiting => cases brace <;> simp [Search.read, Counts]
  | inside opening depth =>
      cases brace with
      | opening => exact Nat.succ_pos depth
      | closing =>
          match depth, h with
          | 1, _ => trivial
          | depth + 2, _ => exact Nat.succ_pos depth
  | found block => cases brace <;> trivial
  | refused => cases brace <;> trivial
  | underflow => exact h.elim

theorem Counts.foldl {search : Search} (h : search.Counts) (tokens : List BraceToken) :
    (tokens.foldl Search.read search).Counts := by
  induction tokens generalizing search with
  | nil => exact h
  | cons token rest ih => exact ih (h.read token)

theorem Counts.readLine {search : Search} (h : search.Counts) (header : Nat)
    (numbered : Line × Nat) : (search.readLine header numbered).Counts := by
  simp only [Search.readLine]
  split
  · trivial
  · exact h.foldl _

theorem Counts.foldl_readLine {search : Search} (h : search.Counts) (header : Nat)
    (numbered : List (Line × Nat)) : (numbered.foldl (Search.readLine header) search).Counts := by
  induction numbered generalizing search with
  | nil => exact h
  | cons first rest ih => exact ih (h.readLine header first)

@[simp]
theorem foldl_read_found (block : Block) (tokens : List BraceToken) :
    tokens.foldl read (.found block) = .found block := by
  induction tokens with
  | nil => rfl
  | cons token rest ih => exact ih

@[simp]
theorem foldl_read_refused (tokens : List BraceToken) : tokens.foldl read .refused = .refused := by
  induction tokens with
  | nil => rfl
  | cons token rest ih => exact ih

/-- The machine counts one more than the depth, which leaves the first brace out. -/
theorem foldl_read_braces (opening line depth : Nat) (braces : List Brace) :
    (braces.map (BraceToken.mk line)).foldl read (.inside opening (depth + 1)) =
      match depthAfter depth braces with
      | none => .found ⟨opening, line⟩
      | some after => .inside opening (after + 1) := by
  induction braces generalizing depth with
  | nil => rfl
  | cons brace rest ih =>
      rw [List.map_cons, List.foldl_cons]
      cases brace with
      | opening => exact ih (depth + 1)
      | closing =>
          cases depth with
          | zero => exact foldl_read_found _ _
          | succ depth => exact ih depth

theorem block?_foldl_tokensOf (opening index depth : Nat) (lines : List Line) :
    ((tokensOf index lines).foldl read (.inside opening (depth + 1))).block? =
      (closingLine? index depth lines).map (⟨opening, ·⟩) := by
  induction lines generalizing index depth with
  | nil => rfl
  | cons l rest ih =>
      rw [tokensOf_cons, List.foldl_append, foldl_read_braces, closingLine?]
      cases depthAfter depth l.braces with
      | none => simp [block?]
      | some after => exact ih (index + 1) after

/-- From the line on which a block opens the machine goes the way of the search. -/
theorem block?_foldl_of_braces {braces : List Brace} (hne : braces ≠ []) (index : Nat)
    (rest : List Line) :
    ((braces.map (BraceToken.mk index) ++ tokensOf (index + 1) rest).foldl read .waiting).block? =
      blockOn? index braces rest := by
  cases braces with
  | nil => exact absurd rfl hne
  | cons brace more =>
      rw [List.foldl_append, List.map_cons, List.foldl_cons]
      cases brace with
      | closing => simp [read, block?, blockOn?]
      | opening =>
          rw [read, foldl_read_braces, blockOn?]
          cases depthAfter 0 more with
          | none => simp [block?]
          | some depth => exact block?_foldl_tokensOf index (index + 1) depth rest

theorem block?_foldl_inside_iff {tokens : List BraceToken} {opening depth : Nat} {block : Block} :
    (tokens.foldl read (.inside opening (depth + 1))).block? = some block ↔
      block.opening = opening ∧
        ∃ place, tokens[place]? = some ⟨block.closing, .closing⟩ ∧
          FallsTo tokens (-(depth + 1)) place := by
  induction tokens generalizing depth with
  | nil => simp [block?]
  | cons token rest ih =>
      obtain ⟨line, brace⟩ := token
      have hfloor : -((depth : Int) + 1) < 0 := by omega
      rw [List.foldl_cons, exists_fallsTo_cons_iff, and_iff_right hfloor]
      cases brace with
      | opening =>
          have hdeeper : -((depth : Int) + 1) - Brace.rise .opening = -((depth + 1 : Nat) + 1) := by
            simp only [Brace.rise]
            omega
          rw [read, ih, hdeeper]
          simp
      | closing =>
          cases depth with
          | zero =>
              -- the height below is zero from the start, so it cannot come down to zero
              have hnone : ¬∃ place, rest[place]? = some ⟨block.closing, .closing⟩ ∧
                  FallsTo rest (-((0 : Nat) + 1) - Brace.rise .closing) place := by
                rintro ⟨place, _, hfalls⟩
                have habove := hfalls.above 0 (Nat.zero_le _)
                simp [Brace.rise] at habove
              rw [or_iff_left hnone]
              obtain ⟨first, last⟩ := block
              simp [read, Search.block?, Brace.rise, eq_comm]
          | succ depth =>
              have hrise : Brace.rise .closing ≠ -((depth + 1 : Nat) + 1) := by
                simp only [Brace.rise]
                omega
              have hflatter : -(((depth + 1 : Nat) : Int) + 1) - Brace.rise .closing =
                  -((depth : Int) + 1) := by
                simp only [Brace.rise]
                omega
              rw [read, ih, hflatter]
              simp only [hrise, and_false, false_or]

theorem read_ne_waiting {search : Search} (token : BraceToken) (h : search ≠ .waiting) :
    search.read token ≠ .waiting := by
  unfold read
  split <;> simp_all

theorem foldl_read_ne_waiting {search : Search} (tokens : List BraceToken) (h : search ≠ .waiting) :
    tokens.foldl read search ≠ .waiting := by
  induction tokens generalizing search with
  | nil => exact h
  | cons token rest ih => exact ih (read_ne_waiting token h)

/-- Behind the first brace the lines no longer matter, only the braces do. -/
theorem foldl_readLine_of_ne_waiting {search : Search} (h : search ≠ .waiting) (header index : Nat)
    (lines : List Line) :
    (lines.zipIdx index).foldl (readLine header) search =
      (tokensOf index lines).foldl read search := by
  induction lines generalizing index search with
  | nil => rfl
  | cons l rest ih =>
      have hread : search.readLine header (l, index) =
          (l.braces.map (BraceToken.mk index)).foldl read search := by
        simp [readLine, h]
      rw [List.zipIdx_cons, List.foldl_cons, hread, tokensOf_cons, List.foldl_append]
      exact ih (foldl_read_ne_waiting _ h) (index + 1)

theorem readLine_waiting {header index : Nat} {l : Line}
    (hwaits : header < index → l.keepsWaiting = true) :
    Search.waiting.readLine header (l, index) =
      (l.braces.map (BraceToken.mk index)).foldl read .waiting := by
  apply if_neg
  rintro ⟨_, hlt, hstops⟩
  cases (hwaits hlt).symm.trans hstops

theorem block?_foldl_readLine_of_braces {header index : Nat} {l : Line} (hne : l.braces ≠ [])
    (hwaits : header < index → l.keepsWaiting = true) (rest : List Line) :
    (((l :: rest).zipIdx index).foldl (readLine header) .waiting).block? =
      blockOn? index l.braces rest := by
  have hopened : (l.braces.map (BraceToken.mk index)).foldl read .waiting ≠ .waiting := by
    cases hbraces : l.braces with
    | nil => exact absurd hbraces hne
    | cons brace more =>
        rw [List.map_cons, List.foldl_cons]
        apply foldl_read_ne_waiting
        cases brace with
        | _ => exact Search.noConfusion
  rw [List.zipIdx_cons, List.foldl_cons, readLine_waiting hwaits,
    foldl_readLine_of_ne_waiting hopened, ← List.foldl_append, block?_foldl_of_braces hne]

/-- What the machine finds below a header that has no braces on its own line. -/
theorem block?_foldl_readLine {header index : Nat} (hbelow : header < index) (lines : List Line) :
    ((lines.zipIdx index).foldl (readLine header) .waiting).block? = blockBelow? index lines := by
  induction lines generalizing index with
  | nil => rfl
  | cons l rest ih =>
      rw [blockBelow?]
      split
      · next hstops =>
        have hrefused : Search.waiting.readLine header (l, index) = .refused := by
          apply if_pos
          exact ⟨rfl, hbelow, by simpa using hstops⟩
        have hended : Search.refused ≠ .waiting := Search.noConfusion
        rw [List.zipIdx_cons, List.foldl_cons, hrefused, foldl_readLine_of_ne_waiting hended,
          foldl_read_refused]
        rfl
      · next hwaits =>
        have hwaits : l.keepsWaiting = true := by simpa using hwaits
        split
        · next hnone =>
          rw [List.zipIdx_cons, List.foldl_cons, readLine_waiting fun _ => hwaits,
            List.isEmpty_iff.mp hnone]
          exact ih (Nat.lt_succ_of_lt hbelow)
        · next hne =>
          exact block?_foldl_readLine_of_braces (mt List.isEmpty_iff.mpr hne) (fun _ => hwaits) rest

end Search

/-- The block runs from the first brace, which opens, to the one that matches it. -/
def IsMatched (tokens : List BraceToken) (block : Block) : Prop :=
  tokens[0]? = some ⟨block.opening, .opening⟩ ∧
    ∃ place, tokens[place]? = some ⟨block.closing, .closing⟩ ∧
      height (tokens.take (place + 1)) = 0 ∧
      ∀ before, 0 < before → before ≤ place → 0 < height (tokens.take before)

theorem isMatched_cons_iff {opening : Nat} {more : List BraceToken} {block : Block} :
    IsMatched (⟨opening, .opening⟩ :: more) block ↔
      block.opening = opening ∧
        ∃ place, more[place]? = some ⟨block.closing, .closing⟩ ∧ FallsTo more (-1) place := by
  constructor
  · rintro ⟨hfirst, place, hplace, hzero, habove⟩
    have hopening : opening = block.opening := congrArg BraceToken.line (Option.some.inj hfirst)
    cases place with
    | zero => simp at hplace
    | succ place =>
        refine ⟨hopening.symm, place, hplace, ?_, ?_⟩
        · rw [List.take_succ_cons, height_cons] at hzero
          simp only [Brace.rise] at hzero
          omega
        · intro before hle
          have hbefore := habove (before + 1) (Nat.succ_pos _) (Nat.succ_le_succ hle)
          rw [List.take_succ_cons, height_cons] at hbefore
          simp only [Brace.rise] at hbefore
          omega
  · rintro ⟨rfl, place, hplace, hreached, habove⟩
    refine ⟨rfl, place + 1, hplace, ?_, ?_⟩
    · rw [List.take_succ_cons, height_cons, hreached]
      rfl
    · intro before hpos hle
      obtain ⟨before, rfl⟩ := Nat.exists_eq_succ_of_ne_zero (Nat.ne_of_gt hpos)
      have hbefore := habove before (Nat.le_of_succ_le_succ hle)
      rw [List.take_succ_cons, height_cons]
      simp only [Brace.rise]
      omega

/-- The machine finds the matching brace if there is one. -/
theorem Search.block?_foldl_waiting_iff {tokens : List BraceToken} {block : Block} :
    (tokens.foldl read .waiting).block? = some block ↔ IsMatched tokens block := by
  cases tokens with
  | nil => simp [IsMatched, Search.block?]
  | cons token more =>
      obtain ⟨line, brace⟩ := token
      rw [List.foldl_cons]
      cases brace with
      | opening =>
          rw [isMatched_cons_iff]
          exact block?_foldl_inside_iff
      | closing => simp [read, IsMatched, Search.block?]

theorem blockOn?_eq_some_iff {braces : List Brace} (hne : braces ≠ []) {index : Nat}
    {rest : List Line} {block : Block} :
    blockOn? index braces rest = some block ↔
      IsMatched (braces.map (BraceToken.mk index) ++ tokensOf (index + 1) rest) block := by
  rw [← Search.block?_foldl_of_braces hne, Search.block?_foldl_waiting_iff]

/-- A block opens on the line that has braces. -/
theorem IsMatched.opening_eq {braces : List Brace} {index : Nat} {tokens : List BraceToken}
    {block : Block} (h : IsMatched (braces.map (BraceToken.mk index) ++ tokens) block)
    (hne : braces ≠ []) : block.opening = index := by
  cases braces with
  | nil => exact absurd rfl hne
  | cons brace more => exact (congrArg BraceToken.line (Option.some.inj h.1)).symm

theorem le_line_of_mem_tokensOf {lines : List Line} {index : Nat} {token : BraceToken}
    (h : token ∈ tokensOf index lines) : index ≤ token.line := by
  induction lines generalizing index with
  | nil => cases h
  | cons l rest ih =>
      rw [tokensOf_cons, List.mem_append] at h
      rcases h with hhere | hrest
      · obtain ⟨brace, _, rfl⟩ := List.mem_map.mp hhere
        exact Nat.le_refl index
      · exact Nat.le_of_succ_le (ih hrest)

theorem IsMatched.mem {tokens : List BraceToken} {block : Block} (h : IsMatched tokens block) :
    ⟨block.opening, .opening⟩ ∈ tokens :=
  List.mem_of_getElem? h.1

/-- Every line up to `stop` lets a header wait. `index` is the number of the first line. -/
def LetWait (index : Nat) (lines : List Line) (stop : Nat) : Prop :=
  ∀ l line, (l, line) ∈ lines.zipIdx index → line ≤ stop → l.keepsWaiting = true

theorem letWait_cons_iff {index stop : Nat} {l : Line} {rest : List Line} :
    LetWait index (l :: rest) stop ↔
      (index ≤ stop → l.keepsWaiting = true) ∧ LetWait (index + 1) rest stop := by
  simp only [LetWait, List.zipIdx_cons, List.mem_cons, Prod.mk.injEq]
  constructor
  · intro h
    exact ⟨fun hle => h l index (.inl ⟨rfl, rfl⟩) hle, fun l line hmem => h l line (.inr hmem)⟩
  · rintro ⟨hfirst, hrest⟩ l line (⟨rfl, rfl⟩ | hmem) hle
    · exact hfirst hle
    · exact hrest l line hmem hle

theorem letWait_of_lt {index stop : Nat} (h : stop < index) (lines : List Line) :
    LetWait index lines stop := by
  intro l line hmem hle
  have hbelow := (List.mem_zipIdx hmem).1
  omega

/-- The search below a header goes on up to the first brace, if every line lets it. -/
theorem blockBelow?_eq_some_iff {lines : List Line} {index : Nat} {block : Block} :
    blockBelow? index lines = some block ↔
      IsMatched (tokensOf index lines) block ∧ LetWait index lines block.opening := by
  induction lines generalizing index with
  | nil => simp [blockBelow?, IsMatched]
  | cons l rest ih =>
      rw [blockBelow?, letWait_cons_iff]
      split
      · next hstops =>
        have hstops : l.keepsWaiting = false := by simpa using hstops
        constructor
        · intro h
          cases h
        · rintro ⟨hmatched, hwaits, _⟩
          have hbelow := le_line_of_mem_tokensOf hmatched.mem
          cases hstops.symm.trans (hwaits hbelow)
      · next hwaits =>
        have hwaits : l.keepsWaiting = true := by simpa using hwaits
        rw [and_iff_right fun _ => hwaits, tokensOf_cons]
        split
        · next hnone =>
          rw [ih, List.isEmpty_iff.mp hnone]
          rfl
        · next hne =>
          have hne := mt List.isEmpty_iff.mpr hne
          rw [blockOn?_eq_some_iff hne, iff_self_and]
          intro hmatched
          apply letWait_of_lt
          rw [hmatched.opening_eq hne]
          exact Nat.lt_succ_self index

namespace Program

variable {p : Program} {header : Nat}

/-- The line holds a header. -/
def IsHeader (p : Program) (header : Nat) : Prop :=
  ∃ statement, p.statement? header = some statement ∧ statement.isHeader = true

/-- The braces that count, from the header to the end of the program. -/
def tokens (p : Program) (header : Nat) : List BraceToken :=
  tokensOf header (p.lines.drop header)

/-- Where the search for the block of the header stands after so many lines. -/
def search (p : Program) (header count : Nat) : Search :=
  (((p.lines.drop header).take count).zipIdx header).foldl (Search.readLine header) .waiting

theorem exists_drop_of_isHeader (h : p.IsHeader header) :
    ∃ l, p.lines.drop header = l :: p.lines.drop (header + 1) ∧ l.statement.isHeader = true := by
  obtain ⟨statement, hread, hheader⟩ := h
  obtain ⟨l, hl, rfl⟩ := Option.map_eq_some_iff.mp hread
  obtain ⟨hlt, rfl⟩ := List.getElem?_eq_some_iff.mp hl
  exact ⟨_, List.drop_eq_getElem_cons hlt, hheader⟩

/-- Bracket matching gives the block of a header. -/
theorem block?_eq_some_iff (h : p.IsHeader header) {block : Block} :
    p.block? header = some block ↔
      IsMatched (p.tokens header) block ∧
        LetWait (header + 1) (p.lines.drop (header + 1)) block.opening := by
  obtain ⟨l, hdrop, hheader⟩ := exists_drop_of_isHeader h
  rw [block?, tokens, hdrop, tokensOf_cons]
  simp only [hheader, Bool.not_true, Bool.false_eq_true, if_false]
  split
  · next hnone =>
    rw [blockBelow?_eq_some_iff, List.isEmpty_iff.mp hnone]
    rfl
  · next hne =>
    have hne := mt List.isEmpty_iff.mpr hne
    rw [blockOn?_eq_some_iff hne, iff_self_and]
    intro hmatched
    apply letWait_of_lt
    rw [hmatched.opening_eq hne]
    exact Nat.lt_succ_self header

/-- The machine that has read the whole program has found what there is to find. -/
theorem block?_search (h : p.IsHeader header) :
    (p.search header p.length).block? = p.block? header := by
  obtain ⟨l, hdrop, hheader⟩ := exists_drop_of_isHeader h
  have hall : (p.lines.drop header).take p.length = p.lines.drop header := by
    apply List.take_of_length_le
    rw [List.length_drop]
    exact Nat.sub_le _ _
  have hhere : header < header → l.keepsWaiting = true := fun hlt => absurd hlt (Nat.lt_irrefl _)
  rw [search, hall, block?, hdrop]
  simp only [hheader, Bool.not_true, Bool.false_eq_true, if_false]
  split
  · next hnone =>
    rw [List.zipIdx_cons, List.foldl_cons, Search.readLine_waiting hhere, List.isEmpty_iff.mp hnone]
    exact Search.block?_foldl_readLine (Nat.lt_succ_self header) _
  · next hne =>
    exact Search.block?_foldl_readLine_of_braces (mt List.isEmpty_iff.mpr hne) hhere _

/-- The counter of the search never has to go below zero. -/
theorem search_ne_underflow (p : Program) (header count : Nat) :
    p.search header count ≠ .underflow := by
  have hwaiting : Search.waiting.Counts := trivial
  have hcounts : (p.search header count).Counts := hwaiting.foldl_readLine header _
  intro hunderflow
  rw [hunderflow] at hcounts
  exact hcounts

/-- The braces enclose the block of the header. -/
structure Encloses (p : Program) (header : Nat) (block : Block) : Prop where
  matched : IsMatched (p.tokens header) block
  near : block.opening = header ∨
    ∀ line l, header < line → line ≤ block.opening → p.lines[line]? = some l → l.text ≠ [] →
      l.text.head? = some '{'

theorem letWait_iff {stop : Nat} :
    LetWait (header + 1) (p.lines.drop (header + 1)) stop ↔
      ∀ line l, header < line → line ≤ stop → p.lines[line]? = some l → l.text ≠ [] →
        l.text.head? = some '{' := by
  have hkeeps (l : Line) : l.keepsWaiting = true ↔ (l.text ≠ [] → l.text.head? = some '{') := by
    rw [Line.keepsWaiting_iff]
    exact Decidable.or_iff_not_imp_left
  simp only [LetWait, List.mk_mem_zipIdx_iff_le_and_getElem?_sub, List.getElem?_drop, hkeeps]
  constructor
  · intro h line l hlt hle hl
    refine h l line ⟨hlt, ?_⟩ hle
    rwa [Nat.add_sub_cancel' hlt]
  · rintro h l line ⟨hlt, hl⟩ hle
    rw [Nat.add_sub_cancel' hlt] at hl
    exact h line l hlt hle hl

theorem block?_eq_some_iff_encloses (h : p.IsHeader header) {block : Block} :
    p.block? header = some block ↔ p.Encloses header block := by
  rw [block?_eq_some_iff h, letWait_iff]
  constructor
  · rintro ⟨hmatched, hnear⟩
    exact ⟨hmatched, .inr hnear⟩
  · rintro ⟨hmatched, hhere | hnear⟩
    · refine ⟨hmatched, ?_⟩
      intro line l hlt hle
      omega
    · exact ⟨hmatched, hnear⟩

/-- A body is a range of lines of the program, be it empty. -/
theorem body_le_of_block? {block : Block} (h : p.block? header = some block) :
    block.bodyStart ≤ block.bodyEnd ∧ block.bodyEnd ≤ p.length :=
  ⟨Nat.le_max_right _ _, bodyEnd_le_of_block? h⟩

theorem exists_block?_of_loopBlock? {block : Block} (h : p.loopBlock? = some block) :
    ∃ line, p.block? line = some block := by
  obtain ⟨line, _, hline⟩ := List.exists_of_findSome?_eq_some h
  split at hline
  · exact ⟨line, hline⟩
  · cases hline

theorem loopHasPinActions_iff :
    p.loopHasPinActions = true ↔
      ∃ block line l, p.loopBlock? = some block ∧ block.bodyStart ≤ line ∧ line < block.bodyEnd ∧
        p.lines[line]? = some l ∧ l.statement.isPinAction = true := by
  unfold loopHasPinActions
  cases p.loopBlock? with
  | none => simp
  | some block =>
      dsimp only
      rw [any_slice_iff]
      constructor
      · rintro ⟨line, l, hstart, hstop, hl, hpin⟩
        exact ⟨block, line, l, rfl, hstart, hstop, hl, hpin⟩
      · rintro ⟨_, line, l, hblock, hstart, hstop, hl, hpin⟩
        cases hblock
        exact ⟨line, l, hstart, hstop, hl, hpin⟩

/-- In every program the search for a block is bracket matching. -/
theorem block?_matches_brackets (source : Text) :
    let p := Program.ofSource source
    (∀ header, p.IsHeader header →
      (∀ block, p.block? header = some block ↔ p.Encloses header block) ∧
      (∀ block, p.block? header = some block →
        (header ≤ block.opening ∧ block.opening ≤ block.closing ∧ block.closing < p.length) ∧
        block.bodyStart ≤ block.bodyEnd ∧ block.bodyEnd ≤ p.length) ∧
      (p.search header p.length).block? = p.block? header ∧
      ∀ count, p.search header count ≠ .underflow) ∧
    (∀ block, p.loopBlock? = some block →
      block.bodyStart ≤ block.bodyEnd ∧ block.bodyEnd ≤ p.length) ∧
    (p.loopHasPinActions = true ↔
      ∃ block line l, p.loopBlock? = some block ∧ block.bodyStart ≤ line ∧ line < block.bodyEnd ∧
        p.lines[line]? = some l ∧ l.statement.isPinAction = true) := by
  intro p
  refine ⟨?_, ?_, loopHasPinActions_iff⟩
  · intro header hheader
    refine ⟨fun _ => block?_eq_some_iff_encloses hheader, ?_, block?_search hheader,
      p.search_ne_underflow header⟩
    intro block hblock
    obtain ⟨hbelow, hle⟩ := le_of_block? hblock
    exact ⟨⟨hbelow, hle, closing_lt_of_block? hblock⟩, body_le_of_block? hblock⟩
  · intro block hblock
    obtain ⟨line, hline⟩ := exists_block?_of_loopBlock? hblock
    exact body_le_of_block? hline

/-- A quoted brace, a line with two braces, and a block on the last line. -/
theorem block?_matches_brackets_at_end :
    let source : Text := ("void setup()\n\n\x7b\nsi (x == \"\x7b\") alors \x7b\n\x7d\n" ++
      "\x7d\nvoid loop() \x7b \x7d").toList
    let p := Program.ofSource source
    p.IsHeader 0 ∧ p.Encloses 0 ⟨2, 5⟩ ∧ p.IsHeader 6 ∧ p.Encloses 6 ⟨6, 6⟩ := by
  intro source p
  have hfirst : p.IsHeader 0 := ⟨.setup, by decide +kernel, rfl⟩
  have hlast : p.IsHeader 6 := ⟨.loop, by decide +kernel, rfl⟩
  obtain ⟨hmatches, _⟩ := block?_matches_brackets source
  refine ⟨hfirst, ?_, hlast, ?_⟩
  · apply ((hmatches 0 hfirst).1 ⟨2, 5⟩).mp
    decide +kernel
  · apply ((hmatches 6 hlast).1 ⟨6, 6⟩).mp
    decide +kernel

end Program

end Breadboard
