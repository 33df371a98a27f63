import Breadboard.Text.Letter
import Breadboard.Number

/-!
Conditions: one comparison of a variable with a literal, in any number of parentheses.
-/

namespace Breadboard

inductive Comparison where
  | equal
  | different
  | greater
  | less
  | greaterOrEqual
  | lessOrEqual
deriving DecidableEq, Repr

namespace Comparison

def symbol : Comparison → String
  | .equal => "=="
  | .different => "!="
  | .greater => ">"
  | .less => "<"
  | .greaterOrEqual => ">="
  | .lessOrEqual => "<="

/-- The comparison at the head of the text and what follows it. The longer symbol wins. -/
def take? : Text → Option (Comparison × Text)
  | '=' :: '=' :: rest => some (.equal, rest)
  | '!' :: '=' :: rest => some (.different, rest)
  | '>' :: '=' :: rest => some (.greaterOrEqual, rest)
  | '<' :: '=' :: rest => some (.lessOrEqual, rest)
  | '>' :: rest => some (.greater, rest)
  | '<' :: rest => some (.less, rest)
  | _ => none

/-- What is not a number differs from everything and is in no order with anything. -/
def holds (c : Comparison) (left right : Number) : Bool :=
  match left.place?, right.place? with
  | some x, some y =>
    match c with
    | .equal => x == y
    | .different => x != y
    | .greater => y < x
    | .less => x < y
    | .greaterOrEqual => y ≤ x
    | .lessOrEqual => x ≤ y
  | _, _ => c == .different

end Comparison

structure Condition where
  name : Text
  comparison : Comparison
  literal : Text
deriving DecidableEq, Repr

namespace Condition

/-- Whether every closing parenthesis has its opening one before it and none stays open; `depth`
parentheses are open at the start. -/
def isBalanced (depth : Nat) : Text → Bool
  | [] => depth == 0
  | '(' :: rest => isBalanced (depth + 1) rest
  | ')' :: rest =>
      match depth with
      | 0 => false
      | depth + 1 => isBalanced depth rest
  | _ :: rest => isBalanced depth rest

/-- The inside of one pair of parentheses around the whole text. The two ends of
`(a == 1) && (b == 2)` are not such a pair. -/
def inside? (t : Text) : Option Text := do
  let rest ← t.dropStart? ['(']
  let inner ← rest.dropEnd? [')']
  guard (isBalanced 0 inner)
  return inner

theorem length_trim_le (t : Text) : t.trim.length ≤ t.length := by
  have hend (u : Text) : (u.trimEnd).length ≤ u.length := by
    simpa [Text.trimEnd] using (List.dropWhile_sublist (l := u.reverse) Text.isBlank).length_le
  exact Nat.le_trans (hend _) (List.dropWhile_sublist Text.isBlank).length_le

theorem length_inside? {t inner : Text} (h : inside? t = some inner) :
    inner.length < t.length := by
  obtain ⟨rest, hrest, h⟩ := Option.bind_eq_some_iff.mp h
  obtain ⟨tail, htail, h⟩ := Option.bind_eq_some_iff.mp h
  obtain ⟨_, _, h⟩ := Option.bind_eq_some_iff.mp h
  cases h
  simp only [Text.dropStart?, Text.dropEnd?, Option.ite_none_right_eq_some, Option.some.injEq]
    at hrest htail
  obtain ⟨hstart, rfl⟩ := hrest
  obtain ⟨_, rfl⟩ := htail
  have := (List.isPrefixOf_iff_prefix.mp hstart).length_le
  simp at this ⊢
  omega

/-- The text without the parentheses around it and the blanks around those. -/
def bare (t : Text) : Text :=
  match _h : inside? t.trim with
  | some inner => bare inner
  | none => t.trim
termination_by t.length
decreasing_by exact Nat.lt_of_lt_of_le (length_inside? _h) (length_trim_le t)

def isComparisonStart (c : Char) : Bool :=
  c == '=' || c == '!' || c == '<' || c == '>'

/-- A quoted string, or one token without operators and parentheses. -/
def isLiteral (t : Text) : Bool :=
  match (t.dropStart? ['"']).bind (Text.dropEnd? · ['"']) with
  | some inner => !inner.contains '"'
  | none =>
      !t.isEmpty && t.all fun c =>
        !(Text.isBlank c || isComparisonStart c || c == '&' || c == '|' || c == '(' || c == ')')

/-- The first character that can begin a comparison divides the text. -/
def parse? (t : Text) : Option Condition := do
  let t := bare t
  let (comparison, right) ← Comparison.take? (t.dropWhile fun c => !isComparisonStart c)
  let left := Text.trim (t.takeWhile fun c => !isComparisonStart c)
  guard (left.isName && isLiteral right.trim)
  return ⟨left, comparison, right.trim⟩

end Condition

end Breadboard
