import Breadboard.Proofs.Markup.Tidy
import Breadboard.Proofs.Text.Letters

/-!
Escaped text reads as itself. Whoever writes markup escapes the three characters that have a meaning
there and sets tags between the pieces. As plain text the tags are gone and each piece is what it was
before it was escaped, also if it looks like a reference or a tag, and also if it does so only
together with the piece behind the next tag.

References are decoded by one replacement for each. Seen from the encoded text, every replacement
takes one entry out of the table by which it was encoded. The ampersand has to be the last: as long
as it is encoded, it stands at the beginning of a reference and nowhere else, so no replacement can
find a reference that was not written as one.
-/

namespace Breadboard

namespace Text

/-- No occurrence of `part` begins in this text, whatever follows: from every place on, the two
differ before one of them ends. -/
def misses (part : Text) : Text → Bool
  | [] => true
  | c :: rest =>
      !(c :: rest).isPrefixOf part && !part.isPrefixOf (c :: rest) && misses part rest

variable {part : Text}

theorem not_isPrefixOf_of_misses {c : Char} {t : Text} (h : misses part (c :: t) = true)
    (rest : Text) : part.isPrefixOf (c :: (t ++ rest)) = false := by
  simp only [misses, Bool.and_eq_true, Bool.not_eq_true'] at h
  obtain ⟨⟨hshorter, hlonger⟩, _⟩ := h
  apply Bool.eq_false_iff.mpr
  intro hstarts
  have hpart : part <+: (c :: t) ++ rest := List.isPrefixOf_iff_prefix.mp hstarts
  -- two beginnings of one text are beginnings of each other
  rcases List.prefix_or_prefix_of_prefix hpart (List.prefix_append (c :: t) rest) with hle | hle
  · exact Bool.eq_false_iff.mp hlonger (List.isPrefixOf_iff_prefix.mpr hle)
  · exact Bool.eq_false_iff.mp hshorter (List.isPrefixOf_iff_prefix.mpr hle)

theorem replace_append_of_misses {t : Text} (h : misses part t = true) (new rest : Text) :
    Text.replace (t ++ rest) part new = t ++ rest.replace part new := by
  induction t with
  | nil => rfl
  | cons c t ih =>
      have hrest : misses part t = true := by
        rw [misses, Bool.and_eq_true] at h
        exact h.2
      rw [List.cons_append, replace, replaceAfter, not_isPrefixOf_of_misses h rest]
      exact congrArg (c :: ·) (ih hrest)

theorem replaceAfter_length (front rest part new : Text) :
    replaceAfter front.length (front ++ rest) part new = rest.replace part new := by
  induction front with
  | nil => rfl
  | cons c front ih => exact ih

theorem replace_part_append (hpart : part ≠ []) (new rest : Text) :
    Text.replace (part ++ rest) part new = new ++ rest.replace part new := by
  obtain ⟨c, more, rfl⟩ := List.exists_cons_of_ne_nil hpart
  have hstarts : (c :: more).isPrefixOf (c :: (more ++ rest)) = true := by
    apply List.isPrefixOf_iff_prefix.mpr
    exact List.prefix_append (c :: more) rest
  rw [List.cons_append, replace, replaceAfter, if_pos hstarts]
  exact congrArg (new ++ ·) (replaceAfter_length more rest (c :: more) new)

end Text

namespace Markup

/-- Every character that the table lists is written as the table says. -/
def encodeChar (table : List (Char × Text)) (c : Char) : Text :=
  (table.lookup c).getD [c]

def encode (table : List (Char × Text)) (t : Text) : Text :=
  t.flatMap (encodeChar table)

/-- The characters that have a meaning in markup. -/
def references : List (Char × Text) :=
  [('<', "&lt;".toList), ('>', "&gt;".toList), ('&', "&amp;".toList)]

def escape (t : Text) : Text :=
  encode references t

section Table

variable {table : List (Char × Text)} {name : Text}

theorem encodeChar_cases (table : List (Char × Text)) (c : Char) :
    (c, encodeChar table c) ∈ table ∨ table.lookup c = none ∧ encodeChar table c = [c] := by
  unfold encodeChar
  cases hlookup : table.lookup c with
  | none => exact .inr ⟨rfl, rfl⟩
  | some encoded =>
      left
      obtain ⟨before, after, htable, _⟩ := List.lookup_eq_some_iff.mp hlookup
      rw [htable]
      simp

/-- As long as the ampersand is encoded, a reference is found only where it was written. -/
theorem misses_encodeChar {c : Char} (hname : name.head? = some '&')
    (hother : table.all (name.misses ·.2) = true)
    (hampersand : c = '&' → table.lookup c ≠ none) : name.misses (encodeChar table c) = true := by
  rcases encodeChar_cases table c with hentry | ⟨hnone, hplain⟩
  · exact List.all_eq_true.mp hother (c, encodeChar table c) hentry
  · have hc : c ≠ '&' := fun heq => hampersand heq hnone
    obtain ⟨rest, rfl⟩ := List.head?_eq_some_iff.mp hname
    rw [hplain]
    simp [Text.misses, List.isPrefixOf, hc, Ne.symm hc]

theorem replace_encode_of_misses (h : ∀ c, name.misses (encodeChar table c) = true)
    (new t : Text) : (encode table t).replace name new = encode table t := by
  induction t with
  | nil => rfl
  | cons c t ih =>
      change Text.replace (encodeChar table c ++ encode table t) name new = _
      rw [Text.replace_append_of_misses (h c), ih]
      rfl

/-- A replacement takes its entry out of the table. -/
theorem replace_encode {c : Char} (hname : name ≠ []) (hnone : table.lookup c = none)
    (h : ∀ d ≠ c, name.misses (encodeChar table d) = true) (t : Text) :
    (encode ((c, name) :: table) t).replace name [c] = encode table t := by
  induction t with
  | nil => rfl
  | cons d t ih =>
      change Text.replace (encodeChar ((c, name) :: table) d ++ encode ((c, name) :: table) t)
        name [c] = encodeChar table d ++ encode table t
      by_cases hd : d = c
      · subst hd
        have hwritten : encodeChar ((d, name) :: table) d = name := by simp [encodeChar]
        have hplain : encodeChar table d = [d] := by simp [encodeChar, hnone]
        rw [hwritten, hplain, Text.replace_part_append hname, ih]
      · have hother : (d == c) = false := by simpa using hd
        have hsame : encodeChar ((c, name) :: table) d = encodeChar table d := by
          simp [encodeChar, List.lookup_cons, hother]
        rw [hsame, Text.replace_append_of_misses (h d hd), ih]

end Table

/-- Decoding undoes escaping once. -/
theorem decodeReferences_escape (t : Text) : decodeReferences (escape t) = t := by
  have hless : (encode references t).replace "&lt;".toList ['<'] =
      encode [('>', "&gt;".toList), ('&', "&amp;".toList)] t := by
    apply replace_encode (by decide) rfl
    intro c _
    exact misses_encodeChar rfl (by decide) (by rintro rfl; decide)
  have hgreater : (encode [('>', "&gt;".toList), ('&', "&amp;".toList)] t).replace
      "&gt;".toList ['>'] = encode [('&', "&amp;".toList)] t := by
    apply replace_encode (by decide) rfl
    intro c _
    exact misses_encodeChar rfl (by decide) (by rintro rfl; decide)
  have hblank : (encode [('&', "&amp;".toList)] t).replace "&nbsp;".toList [' '] =
      encode [('&', "&amp;".toList)] t := by
    apply replace_encode_of_misses
    intro c
    exact misses_encodeChar rfl (by decide) (by rintro rfl; decide)
  have hampersand : (encode [('&', "&amp;".toList)] t).replace "&amp;".toList ['&'] =
      encode [] t := by
    apply replace_encode (by decide) rfl
    intro c hc
    exact misses_encodeChar rfl (by decide) (fun heq => absurd heq hc)
  have hplain : encode [] t = t := List.flatMap_singleton' t
  rw [escape, decodeReferences, hless, hgreater, hblank, hampersand, hplain]

/-- Nothing that was escaped looks like the beginning of a tag. -/
theorem less_notMem_escape (t : Text) : '<' ∉ escape t := by
  intro hmem
  obtain ⟨c, _, hc⟩ := List.mem_flatMap.mp hmem
  rcases encodeChar_cases references c with hentry | ⟨hnone, hplain⟩
  · have habsent : references.all (fun entry => !entry.2.contains '<') = true := by decide
    have hencoded := List.all_eq_true.mp habsent (c, encodeChar references c) hentry
    rw [List.contains_iff_mem.mpr hc] at hencoded
    cases hencoded
  · rw [hplain] at hc
    rw [← List.mem_singleton.mp hc] at hnone
    cases hnone

section Tags

theorem dropTags_append_of_notMem {t : Text} (h : '<' ∉ t) (rest : Text) :
    dropTags none (t ++ rest) = t ++ dropTags none rest := by
  induction t with
  | nil => rfl
  | cons c t ih =>
      obtain ⟨hc, ht⟩ : '<' ≠ c ∧ '<' ∉ t := by simpa using h
      rw [List.cons_append, dropTags]
      simp only [Ne.symm hc, if_false]
      exact congrArg (c :: ·) (ih ht)

/-- An open tag ends at the first closing bracket. -/
theorem dropTags_of_open {body : Text} (h : '>' ∉ body) (seen rest : Text) :
    dropTags (some seen) (body ++ '>' :: rest) =
      tagText (seen.reverse ++ body) ++ dropTags none rest := by
  induction body generalizing seen with
  | nil =>
      rw [List.nil_append, dropTags, List.append_nil]
      rfl
  | cons c body ih =>
      obtain ⟨hc, hbody⟩ : '>' ≠ c ∧ '>' ∉ body := by simpa using h
      rw [List.cons_append, dropTags]
      simp only [Ne.symm hc, if_false]
      rw [ih hbody, List.reverse_cons, List.append_assoc, List.singleton_append]

end Tags

/-- The tags that have a text of their own. -/
def blockTags : List Text :=
  ["li".toList, "/p".toList, "/li".toList, "/ul".toList, "/pre".toList, "br".toList, "br/".toList]

/-- What stands between the brackets of a tag that leaves no trace. -/
structure InlineTag where
  body : Text
  closed : '>' ∉ body
  inline : ∀ word, body.words.head? = some word → word.asciiLower ∉ blockTags

theorem InlineTag.tagText_eq_nil (tag : InlineTag) : tagText tag.body = [] := by
  have hname : tagName tag.body ∉ blockTags := by
    rw [tagName, Text.words_asciiLower, List.head?_map]
    cases hword : tag.body.words.head? with
    | none => decide
    | some word => exact tag.inline word hword
  have hitem : tagName tag.body ≠ "li".toList := by
    intro heq
    exact hname (heq ▸ List.mem_cons_self)
  have hbreak : breakingTags.contains (tagName tag.body) = false := by
    apply Bool.eq_false_iff.mpr
    intro hcontains
    exact hname (List.mem_cons_of_mem _ (List.contains_iff_mem.mp hcontains))
  rw [tagText, if_neg hitem, hbreak]
  rfl

/-- Markup is written in pieces. -/
inductive Piece where
  | text (t : Text)
  | tag (tag : InlineTag)

namespace Piece

/-- Text is escaped, and a tag stands in its brackets. -/
def written : Piece → Text
  | .text t => escape t
  | .tag inline => '<' :: (inline.body ++ ['>'])

/-- What is to be read. -/
def plain : Piece → Text
  | .text t => t
  | .tag _ => []

theorem dropTags_written (piece : Piece) (rest : Text) :
    dropTags none (piece.written ++ rest) = escape piece.plain ++ dropTags none rest := by
  cases piece with
  | text t => exact dropTags_append_of_notMem (less_notMem_escape t) rest
  | tag inline =>
      have hopen : dropTags none (written (.tag inline) ++ rest) =
          dropTags (some []) (inline.body ++ '>' :: rest) := by
        rw [written, List.cons_append, List.append_assoc, dropTags]
        rfl
      rw [hopen, dropTags_of_open inline.closed, List.reverse_nil, List.nil_append,
        inline.tagText_eq_nil]
      rfl

end Piece

theorem dropTags_flatMap_written (pieces : List Piece) :
    dropTags none (pieces.flatMap Piece.written) = escape (pieces.flatMap Piece.plain) := by
  induction pieces with
  | nil => rfl
  | cons piece rest ih =>
      rw [List.flatMap_cons, piece.dropTags_written, ih, List.flatMap_cons]
      exact List.flatMap_append.symm

/-- Escaped text reads as itself. However texts are escaped and set between tags that leave no
trace, what is read is the texts one after another, with nothing decoded twice and nothing cleaned
up but their lines. -/
theorem plainText_written (pieces : List Piece) :
    plainText (pieces.flatMap Piece.written) = cleanUp (pieces.flatMap Piece.plain) := by
  rw [plainText, dropTags_flatMap_written, decodeReferences_escape, tidy_eq_cleanUp]

/-- Two pieces that make a reference and a paragraph only together, with a tag in between. -/
theorem plainText_written_lookalikes :
    plainText "&amp;lt<Em id=<li>;\n\n\n&lt;p&gt; &amp;amp; ".toList =
      "&lt;\n\n<p> &amp;".toList := by
  have hword : (Text.words "Em id=<li".toList).head? = some "Em".toList := by decide +kernel
  let tag : InlineTag := {
    body := "Em id=<li".toList
    closed := by decide
    inline := by
      intro word hfirst
      rw [← Option.some.inj (hword.symm.trans hfirst)]
      decide }
  have hclean : cleanUp "&lt;\n\n\n<p> &amp; ".toList = "&lt;\n\n<p> &amp;".toList := by
    decide +kernel
  have hread := plainText_written
    [.text "&lt".toList, .tag tag, .text ";\n\n\n<p> &amp; ".toList]
  exact hread.trans hclean

end Markup

end Breadboard
