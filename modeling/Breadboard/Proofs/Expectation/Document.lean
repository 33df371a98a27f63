import Breadboard.Proofs.Json.Grammar
import Breadboard.Expectation.Document

/-!
Expectations survive being written down. A document may put the fields of a record in any order, may
leave out a part that is not expected or give it as `null`, and may write a variable without a type
as a bare string. What is read from it is the expectation that was written, with its pins and its
variables in the order of the document and each as often as it is there.
-/

namespace Breadboard

namespace Json

/-- The entry of a field that need not be there. A field without a value is `null` or left out. -/
inductive WritesField {α : Type} (name : Text) (writes : α → Json → Prop) :
    Option α → List (Text × Json) → Prop
  | given {a : α} {json : Json} (h : writes a json) :
      WritesField name writes (some a) [(name, json)]
  | null : WritesField name writes none [(name, .null)]
  | omitted : WritesField name writes none []

/-- A list as an object, with an entry for each member. Only the empty list may be left out. -/
inductive WritesList {α : Type} (name : Text) (writes : α → Text × Json → Prop) :
    List α → List (Text × Json) → Prop
  | given {list : List α} {entries : List (Text × Json)} (h : List.Forall₂ writes list entries) :
      WritesList name writes list [(name, record entries)]
  | omitted : WritesList name writes [] []

end Json

/-- The names of a type in documents. -/
def ValueType.documentNames : ValueType → List Text
  | .int => ["int".toList]
  | .float => ["float".toList]
  | .string => ["string".toList, "String".toList]
  | .untyped => ["untyped".toList]

def ValueType.Writes (type : ValueType) (json : Json) : Prop :=
  ∃ name ∈ type.documentNames, json = .string (some name)

def PinExpectation.Writes (e : PinExpectation) (json : Json) : Prop :=
  ∃ declared on entries,
    Json.WritesField "declared".toList (fun b json => json = .bool b) e.declared declared ∧
      Json.WritesField "on".toList (fun b json => json = .bool b) e.on on ∧
      List.Perm entries (declared ++ on) ∧ json = .record entries

inductive VariableExpectation.Writes : VariableExpectation → Json → Prop
  | bare (value : Text) : Writes ⟨value, none⟩ (.string (some value))
  | full {e : VariableExpectation} {type entries : List (Text × Json)}
      (htype : Json.WritesField "type".toList ValueType.Writes e.type type)
      (hentries : entries.Perm (("value".toList, .string (some e.value)) :: type)) :
      Writes e (.record entries)

namespace Expectation

def WritesPin (expected : Pin × PinExpectation) (entry : Text × Json) : Prop :=
  entry.1 = expected.1.name.toList ∧ expected.2.Writes entry.2

def WritesVariable (expected : Text × VariableExpectation) (entry : Text × Json) : Prop :=
  entry.1 = expected.1 ∧ expected.2.Writes entry.2

def Writes (e : Expectation) (json : Json) : Prop :=
  ∃ pins bindings entries,
    Json.WritesList "pins".toList WritesPin e.pins pins ∧
      Json.WritesList "variables".toList WritesVariable e.bindings bindings ∧
      List.Perm entries (pins ++ bindings) ∧ json = .record entries

end Expectation

namespace Json

section Records

variable {α : Type} {entries others : List (Text × Json)} {name : Text}

theorem entries?_record (entries : List (Text × Json)) :
    (record entries).entries? = some entries := by
  change (entries.map fun entry => (some entry.1, entry.2)).mapM _ = _
  induction entries with
  | nil => rfl
  | cons entry rest ih =>
      rw [List.map_cons, List.mapM_cons, ih]
      rfl

/-- Among the entries of a record, those with one name are the field of that name. -/
theorem filter_of_perm {field : Option Json}
    (h : entries.Perm ((field.map (name, ·)).toList ++ others))
    (hothers : ∀ entry ∈ others, entry.1 ≠ name) :
    entries.filter (·.1 = name) = (field.map (name, ·)).toList := by
  have hnone : others.filter (·.1 = name) = [] := by
    simpa using hothers
  have hfound := h.filter (·.1 = name)
  rw [List.filter_append, hnone, List.append_nil] at hfound
  cases field with
  | none => simpa using hfound
  | some json => simpa using hfound

theorem fst_of_mem_field {field : Option Json} {entry : Text × Json}
    (h : entry ∈ (field.map (name, ·)).toList) : entry.1 = name := by
  obtain ⟨json, _, rfl⟩ := Option.map_eq_some_iff.mp (Option.mem_toList.mp h)
  rfl

theorem fields?_record {first second : Text} {a b : Option Json} (hne : first ≠ second)
    (h : entries.Perm ((a.map (first, ·)).toList ++ (b.map (second, ·)).toList)) :
    (record entries).fields? [first, second] = some [a, b] := by
  have hfirst : entries.filter (·.1 = first) = (a.map (first, ·)).toList := by
    apply filter_of_perm h
    intro entry hentry
    rw [fst_of_mem_field hentry]
    exact Ne.symm hne
  have hsecond : entries.filter (·.1 = second) = (b.map (second, ·)).toList := by
    apply filter_of_perm (h.trans List.perm_append_comm)
    intro entry hentry
    rw [fst_of_mem_field hentry]
    exact hne
  change ((record entries).entries? >>= _) = _
  rw [entries?_record, Option.bind_eq_bind, Option.bind_some, List.mapM_cons, List.mapM_cons,
    hfirst, hsecond]
  cases a <;> cases b <;> rfl

theorem nullable?_eq {read? : Json → Option α} {json : Json} (h : json ≠ .null) :
    nullable? read? json = (read? json).map some := by
  cases json with
  | null => exact absurd rfl h
  | _ => rfl

theorem WritesField.exists_field {writes : α → Json → Prop} {read? : Json → Option α}
    {value : Option α} (h : WritesField name writes value entries)
    (hread : ∀ a json, writes a json → json ≠ .null ∧ read? json = some a) :
    ∃ field : Option Json, entries = (field.map (name, ·)).toList ∧
      orDefault? none (nullable? read?) field = some value := by
  cases h with
  | @given a json hwrites =>
      obtain ⟨hnull, hjson⟩ := hread a json hwrites
      refine ⟨some json, rfl, ?_⟩
      rw [orDefault?, nullable?_eq hnull, hjson]
      rfl
  | null => exact ⟨some .null, rfl, rfl⟩
  | omitted => exact ⟨none, rfl, rfl⟩

theorem WritesField.forall_mem {writes : α → Json → Prop} {value : Option α} {p : Json → Prop}
    (h : WritesField name writes value entries) (hnull : p .null)
    (hwrites : ∀ a json, writes a json → p json) : ∀ entry ∈ entries, p entry.2 := by
  intro entry hentry
  cases h with
  | given hjson =>
      rw [List.mem_singleton.mp hentry]
      exact hwrites _ _ hjson
  | null =>
      rw [List.mem_singleton.mp hentry]
      exact hnull
  | omitted => cases hentry

end Records

theorem isReadable_record {entries : List (Text × Json)} {depth : Nat}
    (h : ∀ entry ∈ entries, entry.2.isReadable depth = true) :
    (record entries).isReadable (depth + 1) = true := by
  have hentries : entriesReadable depth (entries.map fun entry => (some entry.1, entry.2)) =
      true := by
    induction entries with
    | nil => rw [List.map_nil, entriesReadable]
    | cons entry rest ih =>
        have hentry := h entry List.mem_cons_self
        have hrest := ih fun other hother => h other (List.mem_cons_of_mem entry hother)
        rw [List.map_cons, entriesReadable, hentry, hrest]
        rfl
  rw [record, isReadable, Nat.add_sub_cancel, hentries]
  simp

end Json

theorem Pin.ofName?_name (pin : Pin) : Pin.ofName? pin.name.toList = some pin := by
  cases pin <;> decide

theorem PinExpectation.ofJson?_of_writes {e : PinExpectation} {json : Json} (h : e.Writes json) :
    PinExpectation.ofJson? json = some e := by
  obtain ⟨declared, on, entries, hdeclared, hon, hperm, rfl⟩ := h
  have hbool : ∀ (b : Bool) (json : Json), json = .bool b → json ≠ .null ∧ json.bool? = some b := by
    rintro b json rfl
    exact ⟨Json.noConfusion, rfl⟩
  obtain ⟨first, rfl, hfirst⟩ := hdeclared.exists_field hbool
  obtain ⟨second, rfl, hsecond⟩ := hon.exists_field hbool
  have hfields := Json.fields?_record (by decide) hperm
  rw [PinExpectation.ofJson?, hfields]
  change (Json.orDefault? none (Json.nullable? Json.bool?) first >>= _) = _
  rw [hfirst]
  change (Json.orDefault? none (Json.nullable? Json.bool?) second >>= _) = _
  rw [hsecond]
  rfl

theorem ValueType.ofJson?_of_writes {type : ValueType} {json : Json} (h : type.Writes json) :
    json ≠ .null ∧ ValueType.ofJson? json = some type := by
  obtain ⟨name, hname, rfl⟩ := h
  have hnames : (type.documentNames.all fun name => ofName? name == some type) = true := by
    cases type <;> decide
  exact ⟨Json.noConfusion, beq_iff_eq.mp (List.all_eq_true.mp hnames name hname)⟩

/-- Only strings and `null` stand in a variable. -/
theorem VariableExpectation.isReadable_of_writes {e : VariableExpectation} {json : Json}
    (h : e.Writes json) (depth : Nat) : json.isReadable (depth + 1) = true := by
  cases h with
  | bare value => rw [Json.isReadable, Option.isSome_some]
  | full htype hentries =>
      apply Json.isReadable_record
      intro entry hentry
      rcases List.mem_cons.mp (hentries.subset hentry) with rfl | hfield
      · rw [Json.isReadable, Option.isSome_some]
      · apply htype.forall_mem (p := fun json => json.isReadable depth = true) _ _ entry hfield
        · rw [Json.isReadable]
        · rintro type json ⟨name, _, rfl⟩
          rw [Json.isReadable, Option.isSome_some]

theorem VariableExpectation.ofJson?_of_writes {e : VariableExpectation} {json : Json}
    (h : e.Writes json) (depth : Nat) : VariableExpectation.ofJson? (depth + 1) json = some e := by
  have hreadable := isReadable_of_writes h depth
  cases h with
  | bare value =>
      rw [VariableExpectation.ofJson?, hreadable]
      rfl
  | @full _ type entries htype hentries =>
      obtain ⟨field, rfl, hfield⟩ := htype.exists_field fun _ _ => ValueType.ofJson?_of_writes
      have hvalue : entries.Perm (((some (Json.string (some e.value))).map
          ("value".toList, ·)).toList ++ (field.map ("type".toList, ·)).toList) := hentries
      have hfields := Json.fields?_record (by decide) hvalue
      change (guard ((Json.record entries).isReadable (depth + 1) = true) >>= fun _ =>
        (Json.record entries).fields? ["value".toList, "type".toList] >>= _) = _
      rw [hreadable, hfields]
      change (Json.orDefault? none (Json.nullable? ValueType.ofJson?) field >>= _) = _
      rw [hfield]
      rfl

namespace Expectation

/-- Entries that are read one by one are read in their order. -/
theorem entriesOf?_of_forall₂ {κ α : Type} {writes : κ × α → Text × Json → Prop}
    {key? : Text → Option κ} {value? : Json → Option α}
    (hread : ∀ expected entry, writes expected entry →
      key? entry.1 = some expected.1 ∧ value? entry.2 = some expected.2)
    {list : List (κ × α)} {entries : List (Text × Json)} (h : List.Forall₂ writes list entries) :
    entriesOf? key? value? (Json.record entries) = some list := by
  rw [entriesOf?, Json.entries?_record, Option.bind_eq_bind, Option.bind_some]
  induction h with
  | nil => rfl
  | @cons expected entry list entries hentry _ ih =>
      obtain ⟨key, json⟩ := entry
      obtain ⟨hkey, hvalue⟩ := hread expected (key, json) hentry
      rw [List.mapM_cons, ih]
      change ((key? key >>= fun key => value? json >>= fun value => some (key, value)) >>= _) = _
      rw [hkey, hvalue]
      rfl

theorem exists_field_of_writesList {κ α : Type} {writes : κ × α → Text × Json → Prop}
    {key? : Text → Option κ} {value? : Json → Option α} {name : Text}
    (hread : ∀ expected entry, writes expected entry →
      key? entry.1 = some expected.1 ∧ value? entry.2 = some expected.2)
    {list : List (κ × α)} {entries : List (Text × Json)}
    (h : Json.WritesList name writes list entries) :
    ∃ field : Option Json, entries = (field.map (name, ·)).toList ∧
      Json.orDefault? [] (entriesOf? key? value?) field = some list := by
  cases h with
  | given hentries => exact ⟨some _, rfl, entriesOf?_of_forall₂ hread hentries⟩
  | omitted => exact ⟨none, rfl, rfl⟩

theorem ofJson?_of_writes {e : Expectation} {json : Json} (h : e.Writes json) (depth : Nat) :
    ofJson? (depth + 3) json = some e := by
  obtain ⟨pins, bindings, entries, hpins, hbindings, hperm, rfl⟩ := h
  have hpin : ∀ expected entry, WritesPin expected entry →
      Pin.ofName? entry.1 = some expected.1 ∧
        PinExpectation.ofJson? entry.2 = some expected.2 := by
    rintro ⟨pin, expected⟩ ⟨key, json⟩ ⟨rfl, hwrites⟩
    exact ⟨Pin.ofName?_name pin, PinExpectation.ofJson?_of_writes hwrites⟩
  have hvariable : ∀ expected entry, WritesVariable expected entry →
      some entry.1 = some expected.1 ∧
        VariableExpectation.ofJson? (depth + 1) entry.2 = some expected.2 := by
    rintro ⟨name, expected⟩ ⟨key, json⟩ ⟨rfl, hwrites⟩
    exact ⟨rfl, VariableExpectation.ofJson?_of_writes hwrites depth⟩
  obtain ⟨first, rfl, hfirst⟩ := exists_field_of_writesList hpin hpins
  obtain ⟨second, rfl, hsecond⟩ := exists_field_of_writesList hvariable hbindings
  have hfields := Json.fields?_record (by decide) hperm
  rw [ofJson?, hfields]
  change (Json.orDefault? [] (entriesOf? Pin.ofName? PinExpectation.ofJson?) first >>= _) = _
  rw [hfirst]
  change (Json.orDefault? [] (entriesOf? some (VariableExpectation.ofJson? (depth + 1))) second
    >>= _) = _
  rw [hsecond]
  rfl

end Expectation

section Writing

variable {α : Type} {name : Text}

theorem Json.WritesList.exists_spells {writes : α → Text × Json → Prop} {list : List α}
    {entries : List (Text × Json)} (h : WritesList name writes list entries)
    (hwrites : ∀ a entry, writes a entry → ∃ s, entry.2.Spells s) :
    ∀ entry ∈ entries, ∃ s, entry.2.Spells s := by
  cases h with
  | @given _ members hmembers =>
      have hspells : ∀ entry ∈ members, ∃ s, entry.2.Spells s := by
        induction hmembers with
        | nil => simp
        | cons hentry _ ih => exact List.forall_mem_cons.mpr ⟨hwrites _ _ hentry, ih⟩
      simpa using exists_spells_record hspells
  | omitted => simp

theorem PinExpectation.Writes.exists_spells {e : PinExpectation} {json : Json}
    (h : e.Writes json) : ∃ s, json.Spells s := by
  obtain ⟨declared, on, entries, hdeclared, hon, hperm, rfl⟩ := h
  have hbool : ∀ (b : Bool) (json : Json), json = .bool b → ∃ s, json.Spells s := by
    rintro b json rfl
    cases b with
    | true => exact ⟨_, .true⟩
    | false => exact ⟨_, .false⟩
  apply Json.exists_spells_record
  intro entry hentry
  rcases List.mem_append.mp (hperm.subset hentry) with hfield | hfield
  · exact hdeclared.forall_mem ⟨_, .null⟩ hbool entry hfield
  · exact hon.forall_mem ⟨_, .null⟩ hbool entry hfield

theorem VariableExpectation.Writes.exists_spells {e : VariableExpectation} {json : Json}
    (h : e.Writes json) : ∃ s, json.Spells s := by
  cases h with
  | bare value => exact Json.exists_spells_string value
  | full htype hentries =>
      have hname : ∀ (type : ValueType) (json : Json), type.Writes json → ∃ s, json.Spells s := by
        rintro type json ⟨name, _, rfl⟩
        exact Json.exists_spells_string name
      apply Json.exists_spells_record
      intro entry hentry
      rcases List.mem_cons.mp (hentries.subset hentry) with rfl | hfield
      · exact Json.exists_spells_string _
      · exact htype.forall_mem ⟨_, .null⟩ hname entry hfield

theorem Json.exists_writesField {writes : α → Json → Prop} (h : ∀ a, ∃ json, writes a json)
    (value : Option α) : ∃ entries, WritesField name writes value entries := by
  cases value with
  | none => exact ⟨[], .omitted⟩
  | some a =>
      obtain ⟨json, hjson⟩ := h a
      exact ⟨_, .given hjson⟩

theorem Json.exists_writesList {writes : α → Text × Json → Prop}
    (h : ∀ a, ∃ entry, writes a entry) (list : List α) :
    ∃ entries, WritesList name writes list entries := by
  have hlist : ∃ entries, List.Forall₂ writes list entries := by
    induction list with
    | nil => exact ⟨[], .nil⟩
    | cons a list ih =>
        obtain ⟨entry, hentry⟩ := h a
        obtain ⟨entries, hentries⟩ := ih
        exact ⟨_, .cons hentry hentries⟩
  obtain ⟨entries, hentries⟩ := hlist
  exact ⟨_, .given hentries⟩

theorem PinExpectation.exists_writes (e : PinExpectation) : ∃ json, e.Writes json := by
  have hbool : ∀ b : Bool, ∃ json, json = Json.bool b := fun b => ⟨_, rfl⟩
  obtain ⟨declared, hdeclared⟩ := Json.exists_writesField hbool e.declared
  obtain ⟨on, hon⟩ := Json.exists_writesField hbool e.on
  exact ⟨_, declared, on, _, hdeclared, hon, .refl _, rfl⟩

theorem VariableExpectation.exists_writes (e : VariableExpectation) : ∃ json, e.Writes json := by
  have htype : ∀ type : ValueType, ∃ json, type.Writes json := by
    intro type
    cases type <;> exact ⟨_, _, List.mem_cons_self, rfl⟩
  obtain ⟨type, hfield⟩ := Json.exists_writesField htype e.type
  exact ⟨_, .full hfield (.refl _)⟩

end Writing

namespace Expectation

/-- Nothing that an expectation is written as is beyond the grammar. -/
theorem Writes.exists_document {e : Expectation} {json : Json} (h : e.Writes json) :
    ∃ document, json.SpellsDocument document := by
  obtain ⟨pins, bindings, entries, hpins, hbindings, hperm, rfl⟩ := h
  have hspells : ∀ entry ∈ entries, ∃ s, entry.2.Spells s := by
    intro entry hentry
    rcases List.mem_append.mp (hperm.subset hentry) with hlist | hlist
    · exact hpins.exists_spells (fun _ _ hpin => hpin.2.exists_spells) entry hlist
    · exact hbindings.exists_spells (fun _ _ hvariable => hvariable.2.exists_spells) entry hlist
  obtain ⟨s, hs⟩ := Json.exists_spells_record hspells
  exact ⟨_, .document Json.isSpace_nil hs Json.isSpace_nil⟩

theorem exists_writes (e : Expectation) : ∃ json, e.Writes json := by
  have hpin : ∀ expected, ∃ entry, WritesPin expected entry := by
    intro expected
    obtain ⟨json, hwrites⟩ := expected.2.exists_writes
    exact ⟨(expected.1.name.toList, json), rfl, hwrites⟩
  have hvariable : ∀ expected, ∃ entry, WritesVariable expected entry := by
    intro expected
    obtain ⟨json, hwrites⟩ := expected.2.exists_writes
    exact ⟨(expected.1, json), rfl, hwrites⟩
  obtain ⟨pins, hpins⟩ := Json.exists_writesList hpin e.pins
  obtain ⟨bindings, hbindings⟩ := Json.exists_writesList hvariable e.bindings
  exact ⟨_, pins, bindings, _, hpins, hbindings, .refl _, rfl⟩

/-- Expectations survive being written down. Every one can be written, each of its forms has a
document, and whichever document it is, what is read is the same expectation. -/
theorem documents_read_back (e : Expectation) :
    (∃ json, e.Writes json) ∧ (∀ json, e.Writes json → ∃ document, json.SpellsDocument document) ∧
      ∀ json document, e.Writes json → json.SpellsDocument document →
        parse? document = some e := by
  refine ⟨e.exists_writes, fun json hwrites => hwrites.exists_document, ?_⟩
  intro json document hwrites hspells
  rw [parse?, Json.parse?_of_spellsDocument hspells]
  exact ofJson?_of_writes hwrites 124

section

open Json

/-- The variables come first, one name is given twice, once as a bare string and once with its type
as `null`, and the values are written with the digits of one and of two units. -/
theorem documents_read_back_mixedForms :
    parse? ("\x7b\"variables\":\x7b\"a\":\"\\u0022\",\n\"a\":\x7b\"type\":null,".toList ++
        "\"value\":\"\\uD83D\\ude00\"\x7d\x7d,".toList ++
        "\"pins\":\x7b\"pin9\":\x7b\"on\":true\x7d\x7d\x7d ".toList) =
      some ⟨[(.pin9, ⟨none, some true⟩)],
        [("a".toList, ⟨['"'], none⟩), ("a".toList, ⟨['😀'], none⟩)]⟩ := by
  have hunit : SpellsUnit 0x22 ['0', '0', '2', '2'] :=
    .digits (i := 0) (j := 0) (k := 2) (m := 2) (.inl rfl) (.inl rfl) (.inl rfl) (.inl rfl)
  have hhigh : SpellsUnit (0xD800 + 0x3D) ['D', '8', '3', 'D'] :=
    .digits (i := 13) (j := 8) (k := 3) (m := 13) (.inr rfl) (.inl rfl) (.inl rfl) (.inr rfl)
  have hlow : SpellsUnit (0xDC00 + 0x200) ['d', 'e', '0', '0'] :=
    .digits (i := 13) (j := 14) (k := 0) (m := 0) (.inl rfl) (.inl rfl) (.inl rfl) (.inl rfl)
  have hquote : SpellsText ['"'] _ := .cons (.unit hunit) .nil
  have hface : SpellsText ['😀'] _ := .cons (.pair hhigh hlow (by decide) (by decide) rfl) .nil
  have hgap : IsSpace ['\n'] := by simp [IsSpace]
  have hspace : IsSpace [' '] := by simp [IsSpace]
  have hbare := spellsEntry_self "a".toList isSpace_nil rfl (.string hquote)
  have htype := spellsEntry_self "type".toList isSpace_nil rfl .null
  have hvalue := spellsEntry_self "value".toList isSpace_nil rfl (.string hface)
  have hfull := spellsEntry_self "a".toList hgap rfl
    (.object (.cons htype (.last hvalue)))
  have hvariables := spellsEntry_self "variables".toList isSpace_nil rfl
    (.object (.cons hbare (.last hfull)))
  have hon := spellsEntry_self "on".toList isSpace_nil rfl .true
  have hpin := spellsEntry_self "pin9".toList isSpace_nil rfl (.object (.last hon))
  have hpins := spellsEntry_self "pins".toList isSpace_nil rfl (.object (.last hpin))
  have hwritesPin : WritesPin (.pin9, ⟨none, some true⟩) ("pin9".toList, _) :=
    ⟨rfl, _, _, _, .omitted, .given rfl, .refl _, rfl⟩
  have hwritesBare : WritesVariable ("a".toList, ⟨['"'], none⟩) ("a".toList, _) := ⟨rfl, .bare _⟩
  have hwritesFull : WritesVariable ("a".toList, ⟨['😀'], none⟩) ("a".toList, _) :=
    ⟨rfl, .full .null (.swap _ _ [])⟩
  have hwrites : Writes ⟨_, _⟩ _ :=
    ⟨_, _, _, .given (.cons hwritesPin .nil), .given (.cons hwritesBare (.cons hwritesFull .nil)),
      .swap _ _ [], rfl⟩
  have hdocument :=
    SpellsDocument.document isSpace_nil (.object (.cons hvariables (.last hpins))) hspace
  exact (documents_read_back _).2.2 _ _ hwrites hdocument

end

end Expectation

end Breadboard
