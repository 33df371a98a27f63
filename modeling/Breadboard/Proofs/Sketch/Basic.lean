import Breadboard.Walk
import Breadboard.Proofs.Text.Lines

/-!
Structured programs. A sketch has two bodies, one for each section, and a body is a tree: plain
lines and branches, each branch with a body of its own. A sketch is printed as a text in the usual
layout, and it is evaluated on the tree, where a branch that is not taken is simply not entered. The
walk knows no trees: it finds its way through the printed lines by counting braces. This module
holds the tree, its printer and its evaluator, and shows that counting braces finds the blocks that
the tree has.
-/

namespace Breadboard

/-- Neither a header nor a brace. -/
def Statement.isPlain : Statement → Bool
  | .setup | .loop | .brace _ | .conditional _ => false
  | _ => true

/-- Any line but a header or a brace, also a blank or a faulty one. -/
structure PlainLine where
  text : Text
  isOneLine : '\n' ∉ text
  isPlain : (Statement.ofLine text).isPlain = true

/-- The header of a branch. No brace of it counts but the one that opens the branch. -/
structure BranchLine where
  text : Text
  condition : Text
  isOneLine : '\n' ∉ text
  isConditional : Statement.ofLine text = .conditional condition
  opensOnce : Line.bracesOf false text.trim = [.opening]

inductive Body where
  | done
  | plain (line : PlainLine) (rest : Body)
  | branch (header : BranchLine) (inner rest : Body)

structure Sketch where
  setup : Body
  loop : Body

namespace Report

def failedAt (s : State) (line : Nat) (fault : Fault) : Report :=
  ⟨s, .failed ⟨line, fault⟩⟩

/-- An evaluation that found no fault has completed. -/
def ofResult : Except Report State → Report
  | .error report => report
  | .ok s => ⟨s, .completed⟩

end Report

namespace Body

def lines : Body → List Text
  | .done => []
  | .plain line rest => line.text :: rest.lines
  | .branch header inner rest => header.text :: (inner.lines ++ ['}'] :: rest.lines)

def height : Body → Nat
  | .done => 0
  | .plain _ rest => rest.height + 1
  | .branch _ inner rest => inner.height + rest.height + 2

/-- Evaluates a body whose first line has number `index` in the printed text. A fault ends the
evaluation with the state that the faulty line found. -/
def eval (index : Nat) (s : State) : Body → Except Report State
  | .done => .ok s
  | .plain line rest => do
      let (_, s) ← (execute (.ofLine line.text) none s).mapError (.failedAt s index)
      rest.eval (index + 1) s
  | .branch header inner rest => do
      let taken ← (s.evaluate header.condition).mapError (.failedAt s index)
      let s ← if taken then inner.eval (index + 1) s else .ok s
      rest.eval (index + inner.height + 2) s

/-- Evaluates a body some number of times, one after the other. -/
def evalTimes (index : Nat) (b : Body) : Nat → State → Except Report State
  | 0, s => .ok s
  | count + 1, s => do
      let s ← b.eval index s
      b.evalTimes index count s

theorem length_lines (b : Body) : b.lines.length = b.height := by
  induction b with
  | done => rfl
  | plain line rest ih => simp [lines, height, ih]
  | branch header inner rest ihInner ihRest =>
      simp only [lines, height, List.length_cons, List.length_append, ihInner, ihRest]
      omega

theorem newline_notMem_lines (b : Body) : ∀ line ∈ b.lines, '\n' ∉ line := by
  induction b with
  | done => simp [lines]
  | plain line rest ih =>
      rintro text (_ | ⟨_, htext⟩)
      · exact line.isOneLine
      · exact ih text htext
  | branch header inner rest ihInner ihRest =>
      intro text htext
      simp only [lines, List.mem_cons, List.mem_append] at htext
      rcases htext with rfl | htext | rfl | htext
      · exact header.isOneLine
      · exact ihInner text htext
      · decide
      · exact ihRest text htext

end Body

namespace Sketch

def lines (k : Sketch) : List Text :=
  "void setup()".toList :: ['{'] :: (k.setup.lines ++
    ['}'] :: "void loop()".toList :: ['{'] :: (k.loop.lines ++ [['}']]))

def print (k : Sketch) : Text :=
  Text.joinLines k.lines

/-- The setup starts on the third line, the loop on the sixth after the last line of the setup. -/
def eval (k : Sketch) (passes : Nat) : Report :=
  .ofResult do
    let s ← k.setup.eval 2 .fresh
    k.loop.evalTimes (k.setup.height + 5) passes s

-- A branch that is taken, with a fault inside: the eighth line of the printed text.
example :
    let assignment : PlainLine := ⟨"x = 1;".toList, by decide, by decide⟩
    let faulty : PlainLine := ⟨"y = 2".toList, by decide, by decide⟩
    let header : BranchLine :=
      ⟨"si (x == 1) alors \x7b".toList, "x == 1".toList, by decide, by decide, by decide⟩
    (eval ⟨.plain assignment .done, .branch header (.plain faulty .done) .done⟩ 1).outcome =
      .failed ⟨7, .missingSemicolon⟩ := by
  decide +kernel

theorem ofSource_print (k : Sketch) : Program.ofSource k.print = ⟨k.lines.map Line.ofText⟩ := by
  have hlines : k.lines = ("void setup()".toList :: ['{'] :: (k.setup.lines ++
      ['}'] :: "void loop()".toList :: ['{'] :: k.loop.lines)) ++ [['}']] := by
    simp [lines]
  rw [print, hlines]
  refine Program.ofSource_joinLines _ _ ?_ rfl
  intro line hline
  simp only [List.mem_cons, List.mem_append] at hline
  rcases hline with rfl | rfl | hline | rfl | rfl | rfl | hline
  · decide
  · decide
  · exact k.setup.newline_notMem_lines line hline
  · decide
  · decide
  · decide
  · exact k.loop.newline_notMem_lines line hline

end Sketch

theorem Program.statement?_of_drop {p : Program} {index : Nat} {l : Line} {rest : List Line}
    (h : p.lines.drop index = l :: rest) : p.statement? index = some l.statement := by
  have hget : p.lines[index]? = some l := by
    rw [← List.head?_drop, h]
    rfl
  rw [Program.statement?, hget]
  rfl

theorem Program.drop_of_drop_cons {p : Program} {index : Nat} {l : Line} {rest : List Line}
    (h : p.lines.drop index = l :: rest) : p.lines.drop (index + 1) = rest := by
  rw [← List.drop_drop, h, List.drop_one, List.tail_cons]

theorem Program.drop_of_drop_body {p : Program} {index : Nat} {b : Body} {rest : List Line}
    (h : p.lines.drop index = b.lines.map Line.ofText ++ rest) :
    p.lines.drop (index + b.height) = rest := by
  rw [← List.drop_drop, h, ← b.length_lines, ← List.length_map, List.drop_left]

theorem PlainLine.isHeader_eq_false (l : PlainLine) :
    (Statement.ofLine l.text).isHeader = false := by
  have hplain := l.isPlain
  cases h : Statement.ofLine l.text <;> simp_all [Statement.isHeader, Statement.isPlain]

theorem PlainLine.braces_eq_nil (l : PlainLine) : (Line.ofText l.text).braces = [] := by
  have hplain := l.isPlain
  unfold Line.braces
  split
  all_goals simp_all [Line.ofText, Statement.isPlain]

theorem BranchLine.braces_eq (l : BranchLine) : (Line.ofText l.text).braces = [.opening] := by
  simp only [Line.braces, Line.ofText, l.isConditional, l.opensOnce]

/-- A body is balanced: at whatever depth it begins, the count goes on behind it as if it were not
there. -/
theorem Body.closingLine?_append (b : Body) (index depth : Nat) (rest : List Line) :
    closingLine? index depth (b.lines.map Line.ofText ++ rest) =
      closingLine? (index + b.height) depth rest := by
  induction b generalizing index depth rest with
  | done => rfl
  | plain line more ih =>
      simp only [Body.lines, Body.height, List.map_cons, List.cons_append, closingLine?,
        line.braces_eq_nil, depthAfter, ih]
      congr 1
      omega
  | branch header inner more ihInner ihMore =>
      have hclosing : (Line.ofText ['}']).braces = [.closing] := rfl
      simp only [Body.lines, Body.height, List.map_cons, List.map_append, List.cons_append,
        List.append_assoc, closingLine?, header.braces_eq, depthAfter, ihInner, hclosing, ihMore]
      congr 1
      omega

/-- The header of a branch owns the block that the tree gives it. -/
theorem block?_of_branch {p : Program} {line : Nat} (header : BranchLine) (inner : Body)
    (rest : List Line)
    (hlines : p.lines.drop line = Line.ofText header.text ::
      (inner.lines.map Line.ofText ++ Line.ofText ['}'] :: rest)) :
    p.block? line = some ⟨line, line + inner.height + 1⟩ := by
  have hheader : (Line.ofText header.text).statement.isHeader = true := by
    simp only [Line.ofText, header.isConditional, Statement.isHeader]
  have hclosing : (Line.ofText ['}']).braces = [.closing] := rfl
  unfold Program.block?
  simp only [hlines, hheader, header.braces_eq, blockOn?, depthAfter, inner.closingLine?_append,
    closingLine?, hclosing]
  simp only [Bool.not_true, Bool.false_eq_true, if_false, List.isEmpty_cons, Option.map_some,
    Option.some.injEq, Block.mk.injEq, true_and]
  omega

/-- A section header without a brace owns the block of the body below it. -/
theorem block?_of_section {p : Program} {line : Nat} {header : Line} (body : Body)
    (rest : List Line) (hheader : header.statement.isHeader = true) (hbraces : header.braces = [])
    (hlines : p.lines.drop line = header :: Line.ofText ['{'] ::
      (body.lines.map Line.ofText ++ Line.ofText ['}'] :: rest)) :
    p.block? line = some ⟨line + 1, line + body.height + 2⟩ := by
  have hopening : (Line.ofText ['{']).braces = [.opening] := rfl
  have hwaits : (Line.ofText ['{']).keepsWaiting = true := rfl
  have hclosing : (Line.ofText ['}']).braces = [.closing] := rfl
  unfold Program.block?
  simp only [hlines, hheader, hbraces, blockBelow?, hwaits, hopening, blockOn?, depthAfter,
    body.closingLine?_append, closingLine?, hclosing]
  simp only [Bool.not_true, Bool.false_eq_true, if_false, if_true, List.isEmpty_cons,
    List.isEmpty_nil, Option.map_some, Option.some.injEq, Block.mk.injEq, true_and]
  omega

end Breadboard
