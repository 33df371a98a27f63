import Breadboard.Text.Basic

/-!
Named values in the order of their first appearance. A name is listed once; giving it a new value
keeps its place. The variables of a run and the variable panel of a board are both registers.
-/

namespace Breadboard

structure Register (α : Type) where
  entries : List (Text × α) := []
deriving DecidableEq, Repr

namespace Register

variable {α : Type}

def empty : Register α := {}

def putIn (name : Text) (a : α) : List (Text × α) → List (Text × α)
  | [] => [(name, a)]
  | (other, b) :: rest =>
      if other = name then (name, a) :: rest else (other, b) :: putIn name a rest

def put (r : Register α) (name : Text) (a : α) : Register α :=
  ⟨putIn name a r.entries⟩

def getIn (name : Text) : List (Text × α) → Option α
  | [] => none
  | (other, a) :: rest => if other = name then some a else getIn name rest

def get? (r : Register α) (name : Text) : Option α :=
  getIn name r.entries

def names (r : Register α) : List Text :=
  r.entries.map Prod.fst

@[simp]
theorem get?_empty (name : Text) : (empty : Register α).get? name = none :=
  rfl

private theorem getIn_putIn (name other : Text) (a : α) (entries : List (Text × α)) :
    getIn other (putIn name a entries) = if other = name then some a else getIn other entries := by
  induction entries with
  | nil => simp only [putIn, getIn, eq_comm]
  | cons entry rest ih =>
      obtain ⟨key, b⟩ := entry
      by_cases hkey : key = name
      · subst hkey
        by_cases hother : key = other
        · simp [putIn, getIn, hother]
        · simp [putIn, getIn, hother, Ne.symm hother]
      · by_cases hother : key = other
        · subst hother
          simp [putIn, getIn, hkey]
        · simp [putIn, getIn, hkey, hother, ih]

/-- Putting a value changes what is found under its own name and nothing else. -/
@[simp]
theorem get?_put (r : Register α) (name other : Text) (a : α) :
    (r.put name a).get? other = if other = name then some a else r.get? other :=
  getIn_putIn name other a r.entries

private theorem map_fst_putIn (name : Text) (a : α) (entries : List (Text × α)) :
    (putIn name a entries).map Prod.fst =
      if name ∈ entries.map Prod.fst then entries.map Prod.fst
      else entries.map Prod.fst ++ [name] := by
  induction entries with
  | nil => simp [putIn]
  | cons entry rest ih =>
      obtain ⟨key, b⟩ := entry
      by_cases hkey : key = name
      · simp [putIn, hkey]
      · have hname : name ≠ key := Ne.symm hkey
        simp only [putIn, hkey, if_false, List.map_cons, ih, List.mem_cons, hname, false_or]
        split <;> simp

/-- A name that is already listed keeps its place; a new one comes last. -/
theorem names_put (r : Register α) (name : Text) (a : α) :
    (r.put name a).names = if name ∈ r.names then r.names else r.names ++ [name] :=
  map_fst_putIn name a r.entries

end Register

end Breadboard
