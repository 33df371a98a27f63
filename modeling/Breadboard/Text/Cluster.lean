import Breadboard.Text.Break

/-!
The characters that a reader sees. One of them may be spelt with several: a letter and its accents,
the consonants of a conjunct, the letters of a Korean syllable, the people of a family, the two
halves of a flag. The rules are those of Unicode for extended grapheme clusters; each looks at the
character to come and at what the cluster so far ends in. Nothing is lost by cutting a text into
clusters.
-/

namespace Breadboard.Text

/-- How far a conjunct has come. -/
inductive Conjunct where
  | absent
  /-- A consonant and perhaps marks on it. -/
  | begun
  /-- The same with a linker among the marks. -/
  | linked
deriving DecidableEq, Repr

/-- What the cluster so far ends in. -/
structure ClusterEnd where
  last : Break
  conjunct : Conjunct
  /-- A pictograph and perhaps marks on it. -/
  pictograph : Bool
  /-- The same and a joiner. -/
  joined : Bool
  /-- An odd number of regional indicators, so that a flag is incomplete. -/
  halfFlag : Bool
deriving DecidableEq, Repr

namespace ClusterEnd

/-- The zero width non-joiner is the one mark that separates consonants. -/
def conjunctAfter (before : Conjunct) (c : Char) (kind : Break) : Conjunct :=
  if isConsonant c then .begun
  else if isLinker c then if before = .absent then .absent else .linked
  else if kind = .joiner ∨ (kind = .extend ∧ c.toNat ≠ 0x200C) then before
  else .absent

def push (e : ClusterEnd) (c : Char) : ClusterEnd :=
  let kind := Break.ofChar c
  { last := kind
    conjunct := conjunctAfter e.conjunct c kind
    pictograph := isPictograph c || (e.pictograph && kind == .extend)
    joined := e.pictograph && kind == .joiner
    halfFlag := kind == .regionalIndicator && !e.halfFlag }

def start (c : Char) : ClusterEnd :=
  push ⟨.other, .absent, false, false, false⟩ c

/-- Whether the character belongs to the cluster. -/
def continues (e : ClusterEnd) (c : Char) : Bool :=
  match e.last, Break.ofChar c with
  | .carriageReturn, .lineFeed => true
  | .carriageReturn, _ | .lineFeed, _ | .control, _ => false
  | _, .carriageReturn | _, .lineFeed | _, .control => false
  | .leading, .leading | .leading, .vowel | .leading, .syllable _ => true
  | .vowel, .vowel | .vowel, .trailing => true
  | .syllable false, .vowel | .syllable _, .trailing | .trailing, .trailing => true
  | _, .extend | _, .joiner | _, .spacingMark | .prepend, _ => true
  | .regionalIndicator, .regionalIndicator => e.halfFlag
  | _, _ => (e.conjunct == .linked && isConsonant c) || (e.joined && isPictograph c)

end ClusterEnd

/-- `cluster` is what is read of the cluster at hand, the last character first. -/
def clustersFrom (e : ClusterEnd) (cluster : Text) : Text → List Text
  | [] => [cluster.reverse]
  | c :: rest =>
      if e.continues c then clustersFrom (e.push c) (c :: cluster) rest
      else cluster.reverse :: clustersFrom (.start c) [c] rest

def clusters : Text → List Text
  | [] => []
  | c :: rest => clustersFrom (.start c) [c] rest

private theorem flatten_clustersFrom (e : ClusterEnd) (cluster t : Text) :
    (clustersFrom e cluster t).flatten = cluster.reverse ++ t := by
  induction t generalizing e cluster with
  | nil => simp [clustersFrom]
  | cons c rest ih =>
      rw [clustersFrom]
      split
      · simp [ih]
      · simp [ih]

@[simp]
theorem flatten_clusters (t : Text) : (clusters t).flatten = t := by
  cases t with
  | nil => rfl
  | cons c rest => simp [clusters, flatten_clustersFrom]

end Breadboard.Text
