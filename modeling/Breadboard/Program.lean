import Breadboard.Statement

/-!
A program: the lines of a source text, each with its statement. A header owns the block between
the first brace after it and the brace that closes it. Only headers and lines that are a single
brace take part in the count, and braces inside double quotes never do, so a brace in a value
cannot unbalance a program. The opening brace ends the header line or starts a later line, with
nothing but blank lines and other lines that start with a brace in between.
-/

namespace Breadboard

/-- The lines of the two braces. -/
structure Block where
  opening : Nat
  closing : Nat
deriving DecidableEq, Repr

namespace Block

def bodyStart (b : Block) : Nat :=
  b.opening + 1

/-- One past the last line strictly inside the braces; the body is empty when both braces share a
line. -/
def bodyEnd (b : Block) : Nat :=
  max b.closing b.bodyStart

end Block

structure Line where
  /-- As written, without the blanks at both ends. -/
  text : Text
  statement : Statement
deriving DecidableEq, Repr

namespace Line

def ofText (raw : Text) : Line :=
  ⟨raw.trim, Statement.ofLine raw⟩

/-- The braces outside double quotes; `quoted` tells whether the text begins inside them. -/
def bracesOf (quoted : Bool) : Text → List Brace
  | [] => []
  | c :: rest =>
      if c = '"' then bracesOf (!quoted) rest
      else if quoted then bracesOf quoted rest
      else if c = '{' then .opening :: bracesOf quoted rest
      else if c = '}' then .closing :: bracesOf quoted rest
      else bracesOf quoted rest

/-- The braces that count for blocks. -/
def braces (l : Line) : List Brace :=
  match l.statement with
  | .brace _ | .setup | .loop | .conditional _ => bracesOf false l.text
  | _ => []

/-- Whether a block may still open on a later line. -/
def keepsWaiting (l : Line) : Bool :=
  l.text.isEmpty || l.text.head? == some '{'

end Line

/-- Depth after the braces of one line, `none` once the depth is back at zero. The depth counts the
braces that are open, less one. -/
def depthAfter : Nat → List Brace → Option Nat
  | depth, [] => some depth
  | depth, .opening :: rest => depthAfter (depth + 1) rest
  | 0, .closing :: _ => none
  | depth + 1, .closing :: rest => depthAfter depth rest

/-- The line on which the open block closes. `index` is the number of the first of the lines. -/
def closingLine? (index depth : Nat) : List Line → Option Nat
  | [] => none
  | l :: rest =>
      match depthAfter depth l.braces with
      | none => some index
      | some depth => closingLine? (index + 1) depth rest

/-- The block that opens on this line, whose braces are `braces` and which `rest` follows. -/
def blockOn? (index : Nat) (braces : List Brace) (rest : List Line) : Option Block :=
  match braces with
  | .opening :: more =>
      match depthAfter 0 more with
      | none => some ⟨index, index⟩
      | some depth => (closingLine? (index + 1) depth rest).map (⟨index, ·⟩)
  | _ => none

/-- The block of a header that did not open it on its own line. -/
def blockBelow? (index : Nat) : List Line → Option Block
  | [] => none
  | l :: rest =>
      if !l.keepsWaiting then none
      else if l.braces.isEmpty then blockBelow? (index + 1) rest
      else blockOn? index l.braces rest

structure Program where
  lines : List Line
deriving DecidableEq, Repr

namespace Program

def ofSource (source : Text) : Program :=
  ⟨source.lines.map Line.ofText⟩

def length (p : Program) : Nat :=
  p.lines.length

/-- Nothing but blank lines. -/
def isBlank (p : Program) : Bool :=
  p.lines.all fun l => l.statement == .blank

def statement? (p : Program) (index : Nat) : Option Statement :=
  p.lines[index]?.map (·.statement)

/-- The block owned by the header on this line. -/
def block? (p : Program) (header : Nat) : Option Block :=
  match p.lines.drop header with
  | [] => none
  | l :: rest =>
      if !l.statement.isHeader then none
      else if l.braces.isEmpty then blockBelow? (header + 1) rest
      else blockOn? header l.braces rest

/-- The block of the first `void loop()` that has one. -/
def loopBlock? (p : Program) : Option Block :=
  (List.range p.length).findSome? fun index =>
    if p.statement? index = some .loop then p.block? index else none

/-- Whether the loop switches a pin, which makes it matter for grading. -/
def loopHasPinActions (p : Program) : Bool :=
  match p.loopBlock? with
  | none => false
  | some block =>
      ((p.lines.take block.bodyEnd).drop block.bodyStart).any fun l => l.statement.isPinAction

end Program

theorem le_of_closingLine? {lines : List Line} {index depth closing : Nat}
    (h : closingLine? index depth lines = some closing) : index ≤ closing := by
  induction lines generalizing index depth with
  | nil => simp [closingLine?] at h
  | cons l rest ih =>
      rw [closingLine?] at h
      split at h
      · exact Nat.le_of_eq (Option.some.inj h)
      · exact Nat.le_of_succ_le (ih h)

theorem le_of_blockOn? {index : Nat} {braces : List Brace} {rest : List Line} {block : Block}
    (h : blockOn? index braces rest = some block) :
    block.opening = index ∧ index ≤ block.closing := by
  unfold blockOn? at h
  split at h
  · split at h
    · cases h
      exact ⟨rfl, Nat.le_refl _⟩
    · obtain ⟨closing, hclosing, rfl⟩ := Option.map_eq_some_iff.mp h
      exact ⟨rfl, Nat.le_of_succ_le (le_of_closingLine? hclosing)⟩
  · cases h

theorem le_of_blockBelow? {lines : List Line} {index : Nat} {block : Block}
    (h : blockBelow? index lines = some block) :
    index ≤ block.opening ∧ block.opening ≤ block.closing := by
  induction lines generalizing index with
  | nil => simp [blockBelow?] at h
  | cons l rest ih =>
      rw [blockBelow?] at h
      split at h
      · cases h
      · split at h
        · exact ⟨Nat.le_of_succ_le (ih h).1, (ih h).2⟩
        · obtain ⟨rfl, hle⟩ := le_of_blockOn? h
          exact ⟨Nat.le_refl _, hle⟩

/-- A block never begins above its header, so whoever continues behind it has moved forward. -/
theorem Program.le_of_block? {p : Program} {header : Nat} {block : Block}
    (h : p.block? header = some block) :
    header ≤ block.opening ∧ block.opening ≤ block.closing := by
  unfold Program.block? at h
  split at h
  · cases h
  · split at h
    · cases h
    · split at h
      · obtain ⟨hbelow, hle⟩ := le_of_blockBelow? h
        exact ⟨Nat.le_of_succ_le hbelow, hle⟩
      · obtain ⟨rfl, hle⟩ := le_of_blockOn? h
        exact ⟨Nat.le_refl _, hle⟩

end Breadboard
