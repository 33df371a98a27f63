import Mathlib.Data.Option.Basic
import Breadboard.Proofs.Text.Pieces
import Breadboard.Json.Reader

/-!
The grammar of JSON, as far as documents without arrays and numbers need it, and the reader that
follows it. A value can be written in many ways: blanks stand where they like between its parts, and
inside a string a character stands for itself, is escaped by a letter, or is written with the digits
of one or two sixteen-bit units. However a value is written, it is read as that value.
-/

namespace Breadboard.Json

/-- An object whose keys all have a text. -/
def record (entries : List (Text × Json)) : Json :=
  .object (entries.map fun entry => (some entry.1, entry.2))

/-- Blanks between the parts of a document. -/
def IsSpace (t : Text) : Prop :=
  ∀ c ∈ t, c ∈ [' ', '\t', '\n', '\r']

/-- Digits with values ten and above are letters of either case. -/
def HexDigit (c : Char) (n : Nat) : Prop :=
  "0123456789abcdef".toList[n]? = some c ∨ "0123456789ABCDEF".toList[n]? = some c

/-- Four digits and the number that they write. -/
inductive SpellsUnit : Nat → Text → Prop
  | digits {a b c d : Char} {i j k m : Nat} (ha : HexDigit a i) (hb : HexDigit b j)
      (hc : HexDigit c k) (hd : HexDigit d m) :
      SpellsUnit (i * 0x1000 + j * 0x100 + k * 0x10 + m) [a, b, c, d]

/-- The characters that have a letter of their own behind a backslash. -/
def letterEscapes : List (Char × Char) :=
  [('"', '"'), ('\\', '\\'), ('/', '/'), ('b', '\x08'), ('f', '\x0c'), ('n', '\n'), ('r', '\r'),
    ('t', '\t')]

/-- A character inside a string. -/
inductive SpellsChar : Char → Text → Prop
  | plain {c : Char} (hvisible : 0x20 ≤ c.toNat) (hquote : c ≠ '"') (hbackslash : c ≠ '\\') :
      SpellsChar c [c]
  | letter {c letter : Char} (h : (letter, c) ∈ letterEscapes) : SpellsChar c ['\\', letter]
  | unit {c : Char} {digits : Text} (h : SpellsUnit c.toNat digits) :
      SpellsChar c ('\\' :: 'u' :: digits)
  | pair {c : Char} {high low : Nat} {digits digits' : Text}
      (hhigh : SpellsUnit (0xD800 + high) digits) (hlow : SpellsUnit (0xDC00 + low) digits')
      (hlt : high < 0x400) (hlt' : low < 0x400) (hc : c.toNat = 0x10000 + high * 0x400 + low) :
      SpellsChar c ('\\' :: 'u' :: digits ++ '\\' :: 'u' :: digits')

/-- What stands between the quotes of a string. -/
inductive SpellsText : Text → Text → Prop
  | nil : SpellsText [] []
  | cons {c : Char} {t s more : Text} (hc : SpellsChar c s) (ht : SpellsText t more) :
      SpellsText (c :: t) (s ++ more)

mutual

/-- The ways to write a value. -/
inductive Spells : Json → Text → Prop
  | null : Spells .null "null".toList
  | true : Spells (.bool true) "true".toList
  | false : Spells (.bool false) "false".toList
  | string {t s : Text} (h : SpellsText t s) : Spells (.string (some t)) ('"' :: s ++ ['"'])
  | empty {gap : Text} (hgap : IsSpace gap) : Spells (.object []) ('{' :: gap ++ ['}'])
  | object {entries : List (Option Text × Json)} {s : Text} (h : SpellsEntries entries s) :
      Spells (.object entries) ('{' :: s ++ ['}'])

/-- One entry or more, with commas in between. -/
inductive SpellsEntries : List (Option Text × Json) → Text → Prop
  | last {entry : Option Text × Json} {s : Text} (h : SpellsEntry entry s) : SpellsEntries [entry] s
  | cons {entry : Option Text × Json} {entries : List (Option Text × Json)} {s more : Text}
      (h : SpellsEntry entry s) (hmore : SpellsEntries entries more) :
      SpellsEntries (entry :: entries) (s ++ ',' :: more)

inductive SpellsEntry : Option Text × Json → Text → Prop
  | entry {key k s before behind inner after : Text} {value : Json} (hbefore : IsSpace before)
      (hkey : SpellsText key k) (hbehind : IsSpace behind) (hinner : IsSpace inner)
      (hvalue : Spells value s) (hafter : IsSpace after) :
      SpellsEntry (some key, value)
        (before ++ '"' :: (k ++ '"' :: (behind ++ ':' :: (inner ++ s ++ after))))

end

/-- A document is a value with blanks around it. -/
inductive SpellsDocument : Json → Text → Prop
  | document {value : Json} {before s after : Text} (hbefore : IsSpace before)
      (h : Spells value s) (hafter : IsSpace after) :
      SpellsDocument value (before ++ s ++ after)

section Writing

theorem isSpace_nil : IsSpace [] := by
  intro c hc
  cases hc

/-- A text without control characters, quotes and backslashes can be written as it is. -/
theorem spellsText_self {t : Text}
    (h : (t.all fun c => 0x20 ≤ c.toNat && c != '"' && c != '\\') = true) : SpellsText t t := by
  induction t with
  | nil => exact .nil
  | cons c t ih =>
      simp only [List.all_cons, Bool.and_eq_true, decide_eq_true_eq, bne_iff_ne] at h
      obtain ⟨⟨⟨hvisible, hquote⟩, hbackslash⟩, hrest⟩ := h
      exact .cons (.plain hvisible hquote hbackslash) (ih (by simpa using hrest))

theorem spellsEntry_self (key : Text) {before s : Text} {value : Json} (hbefore : IsSpace before)
    (hkey : (key.all fun c => 0x20 ≤ c.toNat && c != '"' && c != '\\') = true)
    (hvalue : Spells value s) :
    SpellsEntry (some key, value) (before ++ '"' :: (key ++ '"' :: ':' :: (s ++ []))) :=
  .entry hbefore (spellsText_self hkey) isSpace_nil isSpace_nil hvalue isSpace_nil

theorem exists_hexDigit {n : Nat} (h : n < 16) : ∃ c, HexDigit c n :=
  ⟨_, .inl (List.getElem?_eq_getElem h)⟩

theorem exists_spellsUnit {n : Nat} (h : n < 0x10000) : ∃ digits, SpellsUnit n digits := by
  obtain ⟨a, ha⟩ := exists_hexDigit (n := n / 0x1000) (by omega)
  obtain ⟨b, hb⟩ := exists_hexDigit (n := n / 0x100 % 0x10) (by omega)
  obtain ⟨c, hc⟩ := exists_hexDigit (n := n / 0x10 % 0x10) (by omega)
  obtain ⟨d, hd⟩ := exists_hexDigit (n := n % 0x10) (by omega)
  have hunit := SpellsUnit.digits ha hb hc hd
  have hvalue : n / 0x1000 * 0x1000 + n / 0x100 % 0x10 * 0x100 + n / 0x10 % 0x10 * 0x10 +
      n % 0x10 = n := by
    omega
  rw [hvalue] at hunit
  exact ⟨_, hunit⟩

theorem exists_spellsChar (c : Char) : ∃ s, SpellsChar c s := by
  by_cases hquote : c = '"'
  · subst hquote
    exact ⟨['\\', '"'], .letter (by decide)⟩
  by_cases hbackslash : c = '\\'
  · subst hbackslash
    exact ⟨['\\', '\\'], .letter (by decide)⟩
  by_cases hvisible : 0x20 ≤ c.toNat
  · exact ⟨_, .plain hvisible hquote hbackslash⟩
  · obtain ⟨digits, hdigits⟩ := exists_spellsUnit (n := c.toNat) (by omega)
    exact ⟨_, .unit hdigits⟩

/-- Every text can stand in a string. -/
theorem exists_spellsText (t : Text) : ∃ s, SpellsText t s := by
  induction t with
  | nil => exact ⟨[], .nil⟩
  | cons c t ih =>
      obtain ⟨more, hmore⟩ := ih
      obtain ⟨s, hs⟩ := exists_spellsChar c
      exact ⟨s ++ more, .cons hs hmore⟩

theorem exists_spells_string (t : Text) : ∃ s, Spells (.string (some t)) s := by
  obtain ⟨s, hs⟩ := exists_spellsText t
  exact ⟨_, .string hs⟩

theorem exists_spellsEntry {entry : Text × Json} (h : ∃ s, Spells entry.2 s) :
    ∃ s, SpellsEntry (some entry.1, entry.2) s := by
  obtain ⟨s, hs⟩ := h
  obtain ⟨key, hkey⟩ := exists_spellsText entry.1
  exact ⟨_, .entry isSpace_nil hkey isSpace_nil isSpace_nil hs isSpace_nil⟩

/-- A record can be written if its values can. -/
theorem exists_spells_record {entries : List (Text × Json)}
    (h : ∀ entry ∈ entries, ∃ s, Spells entry.2 s) : ∃ s, Spells (record entries) s := by
  cases entries with
  | nil => exact ⟨_, .empty isSpace_nil⟩
  | cons first rest =>
      have hentries : ∃ s, SpellsEntries
          ((first :: rest).map fun entry => (some entry.1, entry.2)) s := by
        induction rest generalizing first with
        | nil =>
            obtain ⟨s, hs⟩ := exists_spellsEntry (h first List.mem_cons_self)
            exact ⟨s, .last hs⟩
        | cons next rest ih =>
            obtain ⟨s, hs⟩ := exists_spellsEntry (h first List.mem_cons_self)
            obtain ⟨more, hmore⟩ := ih next fun entry hentry =>
              h entry (List.mem_cons_of_mem first hentry)
            exact ⟨_, .cons hs hmore⟩
      obtain ⟨s, hs⟩ := hentries
      exact ⟨_, .object hs⟩

end Writing

namespace Reader

section Strings

theorem hexDigit?_of_hexDigit {c : Char} {n : Nat} (h : HexDigit c n) : hexDigit? c = some n := by
  have hlower : ("0123456789abcdef".toList.zipIdx.all fun digit =>
      hexDigit? digit.1 == some digit.2) = true := by
    decide
  have hupper : ("0123456789ABCDEF".toList.zipIdx.all fun digit =>
      hexDigit? digit.1 == some digit.2) = true := by
    decide
  rcases h with hdigit | hdigit
  · exact beq_iff_eq.mp
      (List.all_eq_true.mp hlower (c, n) (List.mem_zipIdx_iff_getElem?.mpr hdigit))
  · exact beq_iff_eq.mp
      (List.all_eq_true.mp hupper (c, n) (List.mem_zipIdx_iff_getElem?.mpr hdigit))

theorem escape?_of_mem {c letter : Char} (h : (letter, c) ∈ letterEscapes) :
    escape? letter = some c := by
  have hall : (letterEscapes.all fun escaped => escape? escaped.1 == some escaped.2) = true := by
    decide
  exact beq_iff_eq.mp (List.all_eq_true.mp hall (letter, c) h)

theorem parts?_plain {c : Char} (hvisible : 0x20 ≤ c.toNat) (hquote : c ≠ '"')
    (hbackslash : c ≠ '\\') (rest : Text) :
    parts? (c :: rest) = (parts? rest).map (Prod.map (StringPart.char c :: ·) id) := by
  rw [parts?]
  · have hguard : (decide (0x20 ≤ c.toNat) && c != '\\') = true := by simp [hvisible, hbackslash]
    rw [hguard]
    cases parts? rest <;> rfl
  · exact hquote
  · intro a b c d more hc
    exact absurd hc hbackslash
  · intro d more hc
    exact absurd hc hbackslash

theorem parts?_letter {c letter : Char} (h : (letter, c) ∈ letterEscapes) (rest : Text) :
    parts? ('\\' :: letter :: rest) =
      (parts? rest).map (Prod.map (StringPart.char c :: ·) id) := by
  have hletter := escape?_of_mem h
  rw [parts?]
  · rw [hletter]
    cases parts? rest <;> rfl
  · rintro a b c d more rfl
    cases hletter

theorem parts?_unit {n : Nat} {digits : Text} (h : SpellsUnit n digits) (rest : Text) :
    parts? ('\\' :: 'u' :: (digits ++ rest)) =
      (parts? rest).map (Prod.map (StringPart.unit n :: ·) id) := by
  obtain @⟨a, b, c, d, i, j, k, m, ha, hb, hc, hd⟩ := h
  have hvalue : ((i * 16 + j) * 16 + k) * 16 + m = i * 0x1000 + j * 0x100 + k * 0x10 + m := by
    omega
  change parts? ('\\' :: 'u' :: a :: b :: c :: d :: rest) = _
  rw [parts?, hexDigit?_of_hexDigit ha, hexDigit?_of_hexDigit hb, hexDigit?_of_hexDigit hc,
    hexDigit?_of_hexDigit hd, ← hvalue]
  cases parts? rest <;> rfl

theorem joinParts?_unit (c : Char) (parts : List StringPart) :
    joinParts? (.unit c.toNat :: parts) = (joinParts? parts).map (c :: ·) := by
  have hvalid : c.toNat < 0xD800 ∨ 0xDFFF < c.toNat := by
    rcases c.valid with hlow | ⟨hhigh, _⟩
    · exact .inl hlow
    · exact .inr hhigh
  have hhigh : isHighSurrogate c.toNat = false := by
    simp [isHighSurrogate]
    omega
  have hlow : isLowSurrogate c.toNat = false := by
    simp [isLowSurrogate]
    omega
  cases parts with
  | nil => simp [joinParts?, hhigh, hlow]
  | cons part rest =>
      cases part with
      | char d => simp [joinParts?, hhigh, hlow]
      | unit n => simp [joinParts?, hhigh, hlow]

theorem joinParts?_pair {c : Char} {high low : Nat} (hlt : high < 0x400) (hlt' : low < 0x400)
    (hc : c.toNat = 0x10000 + high * 0x400 + low) (parts : List StringPart) :
    joinParts? (.unit (0xD800 + high) :: .unit (0xDC00 + low) :: parts) =
      (joinParts? parts).map (c :: ·) := by
  have hhigh : isHighSurrogate (0xD800 + high) = true := by
    simp [isHighSurrogate]
    omega
  have hlow : isLowSurrogate (0xDC00 + low) = true := by
    simp [isLowSurrogate]
    omega
  rw [joinParts?, if_pos hhigh, if_pos hlow, Nat.add_sub_cancel_left, Nat.add_sub_cancel_left,
    ← hc, Char.ofNat_toNat]

/-- However a character is written, it is read as parts that join to it. -/
theorem exists_parts_of_spellsChar {c : Char} {s : Text} (h : SpellsChar c s) :
    ∃ front : List StringPart,
      (∀ rest, parts? (s ++ rest) = (parts? rest).map (Prod.map (front ++ ·) id)) ∧
      ∀ parts, joinParts? (front ++ parts) = (joinParts? parts).map (c :: ·) := by
  cases h with
  | plain hvisible hquote hbackslash =>
      exact ⟨[.char c], parts?_plain hvisible hquote hbackslash, fun parts => rfl⟩
  | letter hletter => exact ⟨[.char c], parts?_letter hletter, fun parts => rfl⟩
  | unit hunit => exact ⟨[.unit c.toNat], parts?_unit hunit, joinParts?_unit c⟩
  | @pair high low digits digits' hhigh hlow hlt hlt' hc =>
      refine ⟨[.unit _, .unit _], ?_, joinParts?_pair hlt hlt' hc⟩
      intro rest
      have hcut : '\\' :: 'u' :: digits ++ '\\' :: 'u' :: digits' ++ rest =
          '\\' :: 'u' :: (digits ++ '\\' :: 'u' :: (digits' ++ rest)) := by
        simp
      rw [hcut, parts?_unit hhigh, parts?_unit hlow, Option.map_map]
      rfl

theorem string?_of_spellsText {t s : Text} (h : SpellsText t s) (rest : Text) :
    string? (s ++ '"' :: rest) = some (some t, rest) := by
  have hparts : ∃ parts, parts? (s ++ '"' :: rest) = some (parts, rest) ∧
      joinParts? parts = some t := by
    induction h with
    | nil => exact ⟨[], rfl, rfl⟩
    | cons hc _ ih =>
        obtain ⟨parts, hread, hjoin⟩ := ih
        obtain ⟨front, hfront, hjoinFront⟩ := exists_parts_of_spellsChar hc
        refine ⟨front ++ parts, ?_, ?_⟩
        · rw [List.append_assoc, hfront, hread]
          rfl
        · rw [hjoinFront, hjoin]
          rfl
  obtain ⟨parts, hread, hjoin⟩ := hparts
  rw [string?, hread, ← hjoin]
  rfl

end Strings

section Values

theorem skipSpace_append {gap : Text} (hgap : IsSpace gap) (t : Text) :
    skipSpace (gap ++ t) = skipSpace t := by
  apply List.dropWhile_append_of_pos
  intro c hc
  have hspaces : ([' ', '\t', '\n', '\r'].all isSpace) = true := by decide
  exact List.all_eq_true.mp hspaces c (hgap c hc)

theorem value?_append {gap : Text} (hgap : IsSpace gap) (fuel : Nat) (t : Text) :
    value? fuel (gap ++ t) = value? fuel t := by
  cases fuel with
  | zero => rfl
  | succ fuel => rw [value?, value?, skipSpace_append hgap]

theorem entries?_append {gap : Text} (hgap : IsSpace gap) (fuel : Nat) (t : Text) :
    entries? fuel (gap ++ t) = entries? fuel t := by
  cases fuel with
  | zero => rfl
  | succ fuel => rw [entries?, entries?, skipSpace_append hgap]

theorem value?_string (fuel : Nat) (rest : Text) :
    value? (fuel + 1) ('"' :: rest) = (string? rest).map fun read => (.string read.1, read.2) := by
  rw [value?]
  change (string? rest >>= _) = _
  cases string? rest <;> rfl

theorem value?_empty {inner rest : Text} (fuel : Nat) (h : skipSpace inner = '}' :: rest) :
    value? (fuel + 1) ('{' :: inner) = some (.object [], rest) := by
  have hbrace : skipSpace ('{' :: inner) = '{' :: inner := rfl
  simp only [value?, hbrace, h]

theorem value?_object {inner more : Text} (fuel : Nat) (h : skipSpace inner = '"' :: more) :
    value? (fuel + 1) ('{' :: inner) =
      (entries? fuel ('"' :: more)).map fun read => (.object read.1, read.2) := by
  have hbrace : skipSpace ('{' :: inner) = '{' :: inner := rfl
  simp only [value?, hbrace, h]
  change (entries? fuel ('"' :: more) >>= _) = _
  cases entries? fuel ('"' :: more) <;> rfl

/-- The text begins with this entry, and `after` follows it. -/
def BeginsWithEntry (fuel : Nat) (t : Text) (entry : Option Text × Json) (after : Text) : Prop :=
  ∃ inner behind follows, skipSpace t = '"' :: inner ∧ string? inner = some (entry.1, behind) ∧
    skipSpace behind = ':' :: follows ∧ value? fuel follows = some (entry.2, after)

/-- What follows the first entry decides whether there are more. -/
theorem BeginsWithEntry.entries?_eq {fuel : Nat} {t after : Text} {entry : Option Text × Json}
    (h : BeginsWithEntry fuel t entry after) :
    entries? (fuel + 1) t = match skipSpace after with
      | '}' :: rest => some ([entry], rest)
      | ',' :: rest => entries? fuel rest >>= fun read => some (entry :: read.1, read.2)
      | _ => none := by
  obtain ⟨inner, behind, follows, hquote, hkey, hcolon, hvalue⟩ := h
  have hopen : Text.dropStart? ('"' :: inner) ['"'] = some inner := rfl
  have hpoint : Text.dropStart? (':' :: follows) [':'] = some follows := rfl
  simp only [entries?, hquote, hopen, hkey, hcolon, hpoint, hvalue, Option.bind_eq_bind,
    Option.bind_some]
  rfl

/-- With so many calls, every value whose text is no longer is read, whatever follows it. -/
def ReadsValues (fuel : Nat) : Prop :=
  ∀ v s, Spells v s → s.length ≤ fuel → ∀ rest, value? fuel (s ++ rest) = some (v, rest)

/-- With so many calls, all entries whose text is shorter are read, up to the closing brace. -/
def ReadsEntries (fuel : Nat) : Prop :=
  ∀ entries s, SpellsEntries entries s → s.length < fuel →
    ∀ rest, entries? fuel (s ++ '}' :: rest) = some (entries, rest)

theorem exists_quote_of_spellsEntry {entry : Option Text × Json} {s : Text}
    (h : SpellsEntry entry s) : ∃ gap more, IsSpace gap ∧ s = gap ++ '"' :: more := by
  cases h with
  | entry hbefore => exact ⟨_, _, hbefore, rfl⟩

theorem exists_quote_of_spellsEntries {entries : List (Option Text × Json)} {s : Text}
    (h : SpellsEntries entries s) : ∃ gap more, IsSpace gap ∧ s = gap ++ '"' :: more := by
  cases h with
  | last hentry => exact exists_quote_of_spellsEntry hentry
  | @cons entry entries s after hentry hmore =>
      obtain ⟨gap, more, hgap, rfl⟩ := exists_quote_of_spellsEntry hentry
      exact ⟨gap, more ++ ',' :: after, hgap, by simp⟩

theorem readsValues_succ {fuel : Nat} (h : ReadsEntries fuel) : ReadsValues (fuel + 1) := by
  intro v s hspells hfuel rest
  cases hspells with
  | null =>
      rw [value?]
      rfl
  | true =>
      rw [value?]
      rfl
  | false =>
      rw [value?]
      rfl
  | @string t s htext =>
      rw [List.append_assoc, List.cons_append, List.singleton_append, value?_string,
        string?_of_spellsText htext]
      rfl
  | @empty gap hgap =>
      rw [List.append_assoc, List.cons_append, List.singleton_append, value?_empty]
      rw [skipSpace_append hgap]
      rfl
  | @object entries s hentries =>
      obtain ⟨gap, more, hgap, hs⟩ := exists_quote_of_spellsEntries hentries
      have hskip : skipSpace (s ++ '}' :: rest) = '"' :: (more ++ '}' :: rest) := by
        rw [hs, List.append_assoc, skipSpace_append hgap]
        rfl
      have hread : entries? fuel ('"' :: (more ++ '}' :: rest)) = some (entries, rest) := by
        rw [← entries?_append hgap, ← List.cons_append, ← List.append_assoc, ← hs]
        apply h entries s hentries
        rw [List.length_append, List.length_cons, List.length_singleton] at hfuel
        omega
      rw [List.append_assoc, List.cons_append, List.singleton_append, value?_object fuel hskip,
        hread]
      rfl

theorem beginsWithEntry_of_spells {fuel : Nat} (h : ReadsValues fuel)
    {entry : Option Text × Json} {s : Text} (hentry : SpellsEntry entry s)
    (hfuel : s.length ≤ fuel) (tail : Text) :
    ∃ gap, IsSpace gap ∧ BeginsWithEntry fuel (s ++ tail) entry (gap ++ tail) := by
  cases hentry with
  | @entry key k s before behind inner after value hbefore hkey hbehind hinner hvalue hafter =>
      refine ⟨after, hafter, k ++ '"' :: (behind ++ ':' :: (inner ++ (s ++ (after ++ tail)))),
        behind ++ ':' :: (inner ++ (s ++ (after ++ tail))), inner ++ (s ++ (after ++ tail)),
        ?_, ?_, ?_, ?_⟩
      · rw [List.append_assoc, skipSpace_append hbefore]
        simp [skipSpace, isSpace]
      · exact string?_of_spellsText hkey _
      · rw [skipSpace_append hbehind]
        rfl
      · rw [value?_append hinner]
        apply h value s hvalue
        simp only [List.length_append, List.length_cons] at hfuel
        omega

theorem readsEntries_succ {fuel : Nat} (hvalues : ReadsValues fuel) (h : ReadsEntries fuel) :
    ReadsEntries (fuel + 1) := by
  intro entries s hspells hfuel rest
  cases hspells with
  | last hentry =>
      obtain ⟨gap, hgap, hbegins⟩ :=
        beginsWithEntry_of_spells hvalues hentry (by omega) ('}' :: rest)
      rw [hbegins.entries?_eq, skipSpace_append hgap]
      rfl
  | @cons entry entries s more hentry hmore =>
      rw [List.length_append, List.length_cons] at hfuel
      obtain ⟨gap, hgap, hbegins⟩ :=
        beginsWithEntry_of_spells hvalues hentry (by omega) (',' :: (more ++ '}' :: rest))
      have hread := h entries more hmore (by omega) rest
      rw [List.append_assoc, List.cons_append, hbegins.entries?_eq, skipSpace_append hgap]
      change (entries? fuel (more ++ '}' :: rest) >>= _) = _
      rw [hread]
      rfl

theorem length_pos_of_spells {v : Json} {s : Text} (h : Spells v s) : 0 < s.length := by
  cases h <;> simp

/-- Nothing that is written takes more calls than it has characters. -/
theorem readsValues_and_readsEntries (fuel : Nat) : ReadsValues fuel ∧ ReadsEntries fuel := by
  induction fuel with
  | zero =>
      constructor
      · intro v s hspells hfuel
        have hpositive := length_pos_of_spells hspells
        omega
      · intro entries s _ hfuel
        omega
  | succ fuel ih => exact ⟨readsValues_succ ih.2, readsEntries_succ ih.1 ih.2⟩

end Values

end Reader

/-- Every document is read as the value that it writes. -/
theorem parse?_of_spellsDocument {v : Json} {t : Text} (h : SpellsDocument v t) :
    parse? t = some v := by
  cases h with
  | @document before s after hbefore hvalue hafter =>
      have hvalues := (Reader.readsValues_and_readsEntries
        (2 * (before ++ s ++ after).length + 2)).1
      have hfuel : s.length ≤ 2 * (before ++ s ++ after).length + 2 := by
        rw [List.length_append, List.length_append]
        omega
      have hread := hvalues v s hvalue hfuel after
      have hend : Reader.skipSpace after = [] := by
        rw [← List.append_nil after, Reader.skipSpace_append hafter]
        rfl
      rw [← Reader.value?_append hbefore, ← List.append_assoc] at hread
      rw [parse?, hread, Option.bind_eq_bind, Option.bind_some]
      change (guard (Reader.skipSpace after).isEmpty >>= _) = _
      rw [hend]
      rfl

end Breadboard.Json
