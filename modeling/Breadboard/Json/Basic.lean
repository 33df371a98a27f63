import Breadboard.Number

/-!
Documents in JSON, as trees. Reading one is more forgiving about the parts nobody asks for than
about the parts somebody does: a string whose escapes leave half of a surrogate pair is well formed
but has no text, and a number may lie beyond every double. Such a value may stand under a field
that is skipped, so the tree keeps it and the reader of the field refuses it.
-/

namespace Breadboard

/-- A number as written: `significand * 10 ^ exponent`, negative or not. It is `plain` without
fraction and exponent. The significand holds as many of the leading digits as fit into sixty-four
bits; further ones count only for the exponent. -/
structure Numeral where
  negative : Bool
  significand : Nat
  exponent : Int
  plain : Bool
deriving DecidableEq, Repr

/-- Whether significand and power of ten, each as the nearest double, have a finite product. This is
narrower than having a finite double nearby: just below the largest one, rounding twice goes too
far. -/
def Numeral.isFinite (n : Numeral) : Bool :=
  if n.significand = 0 ∨ n.exponent < 0 then true
  else if 308 < n.exponent then false
  else match (Number.ofNat n.significand).times (.ofDecimal false 1 n.exponent) with
    | .finite _ _ => true
    | _ => false

inductive Json where
  | null
  | bool (b : Bool)
  | number (n : Numeral)
  /-- `none` is a string with half of a surrogate pair. -/
  | string (text? : Option Text)
  | array (items : List Json)
  /-- Entries in document order, repeated keys included. -/
  | object (entries : List (Option Text × Json))
deriving Repr

namespace Json

def text? : Json → Option Text
  | .string text? => text?
  | _ => none

def bool? : Json → Option Bool
  | .bool b => some b
  | _ => none

/-- A natural number below `bound`. Neither `1.0` nor `-0` is one. -/
def nat? (bound : Nat) : Json → Option Nat
  | .number n =>
      if n.plain && !n.negative && n.exponent == 0 && n.significand < bound then some n.significand
      else none
  | _ => none

def items? : Json → Option (List Json)
  | .array items => some items
  | _ => none

/-- The entries, if every key has a text. -/
def entries? : Json → Option (List (Text × Json))
  | .object entries => entries.mapM fun (key?, value) => key?.map (·, value)
  | _ => none

/-- `null` stands for nothing; anything else has to be read. -/
def nullable? {α : Type} (read? : Json → Option α) : Json → Option (Option α)
  | .null => some none
  | value => (read? value).map some

/-- The fields of a record, each present or not, in the order of `names`. A record is an object, or
an array of its leading fields. Other entries of an object are skipped; a field that is given twice
is an error, and so are more items than fields. -/
def fields? (names : List Text) : Json → Option (List (Option Json))
  | .array items =>
      if items.length ≤ names.length then
        some (items.map some ++ List.replicate (names.length - items.length) none)
      else none
  | value => do
      let entries ← value.entries?
      names.mapM fun name =>
        match entries.filter (·.1 = name) with
        | [] => some none
        | [(_, value)] => some (some value)
        | _ => none

def isArray : Json → Bool
  | .array _ => true
  | _ => false

/-- The value of a field that may be missing. -/
def orDefault? {α : Type} (default : α) (read? : Json → Option α) (field : Option Json) :
    Option α :=
  match field with
  | none => some default
  | some value => read? value

mutual

/-- Whether the value can be held in memory before it is known what it is: every string has a text,
every number is within the doubles, and arrays and objects nest at most `depth` deep. -/
def isReadable (depth : Nat) : Json → Bool
  | .null | .bool _ => true
  | .number n => n.isFinite
  | .string text? => text?.isSome
  | .array items => 0 < depth && areReadable (depth - 1) items
  | .object entries => 0 < depth && entriesReadable (depth - 1) entries

def areReadable (depth : Nat) : List Json → Bool
  | [] => true
  | item :: rest => isReadable depth item && areReadable depth rest

def entriesReadable (depth : Nat) : List (Option Text × Json) → Bool
  | [] => true
  | (key?, value) :: rest => key?.isSome && isReadable depth value && entriesReadable depth rest

end

end Json

end Breadboard
