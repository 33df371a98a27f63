import Breadboard.Arguments

/-!
The grammar of the command line. An option and the file behind it form a group, and a program is a
group of its own. Whether an argument is an option, the file of one or a program depends on all that
stands before it. Still a list splits into groups in one way at most, since a program never looks
like an option. What is read from the groups depends on the files of each kind, not on how groups of
different kinds are mixed.
-/

namespace Breadboard

namespace Arguments

def options : List String := ["--config", "--content"]

def IsDashed (argument : String) : Prop := "--".toList <+: argument.toList

instance (argument : String) : Decidable (IsDashed argument) :=
  decidable_of_iff _ List.isPrefixOf_iff_prefix

inductive Kind where
  | config
  | content
  | program
deriving DecidableEq

/-- Arguments that belong together. Only a program has to be told from an option: the file of an
option is any text. -/
structure Group where
  kind : Kind
  file : String
  plain : kind = .program → ¬ IsDashed file

def Group.words (g : Group) : List String :=
  match g.kind with
  | .config => ["--config", g.file]
  | .content => ["--content", g.file]
  | .program => [g.file]

/-- The arguments of the groups, from left to right. -/
def line (groups : List Group) : List String := groups.flatMap Group.words

def files (kind : Kind) (groups : List Group) : List String :=
  (groups.filter (·.kind = kind)).map (·.file)

structure IsGrouping (arguments : List String) (groups : List Group) : Prop where
  line_eq : line groups = arguments
  program_once : (files .program groups).length ≤ 1

/-- Of each kind the last file counts. -/
def ofGroups (groups : List Group) : Arguments where
  config := (files .config groups).getLast?
  content := (files .content groups).getLast?
  program := (files .program groups).getLast?

/-- The same groups, with those of one kind in the same order. -/
def Reorders (groups others : List Group) : Prop :=
  ∀ kind, others.filter (·.kind = kind) = groups.filter (·.kind = kind)

/-- There is something left, but no group to begin with. -/
inductive Stuck : List String → ArgumentError → Prop
  | missingFile {option : String} (hoption : option ∈ options) :
      Stuck [option] (.missingFile option)
  | unknownOption {option : String} {rest : List String} (hdashed : IsDashed option)
      (hoption : option ∉ options) : Stuck (option :: rest) (.unknownOption option)

/-- A list is refused for its second program, or else for what is left behind its groups. -/
inductive Refuses : List String → ArgumentError → Prop
  | secondProgram {groups : List Group} {rest : List String} {file : String}
      (hsecond : (files .program groups)[1]? = some file) :
      Refuses (line groups ++ rest) (.unexpected file)
  | stuck {groups : List Group} {rest : List String} {e : ArgumentError}
      (honce : (files .program groups).length ≤ 1) (hstuck : Stuck rest e) :
      Refuses (line groups ++ rest) e

theorem mem_options_iff {option : String} :
    option ∈ options ↔ option = "--config" ∨ option = "--content" := by
  simp [options]

theorem isDashed_of_mem_options {option : String} (h : option ∈ options) : IsDashed option := by
  obtain rfl | rfl := mem_options_iff.mp h <;> decide

theorem Group.file_notMem_options {g : Group} (h : g.kind = .program) : g.file ∉ options :=
  fun hoption => g.plain h (isDashed_of_mem_options hoption)

theorem Group.words_ne_nil (g : Group) : g.words ≠ [] := by
  obtain ⟨kind, file, _⟩ := g
  cases kind <;> simp [words]

/-- No group is the beginning of another one. -/
theorem Group.words_append_inj {g g' : Group} {rest rest' : List String}
    (h : g.words ++ rest = g'.words ++ rest') : g = g' ∧ rest = rest' := by
  have hfile : g.kind = .program → g.file ∉ options := file_notMem_options
  have hfile' : g'.kind = .program → g'.file ∉ options := file_notMem_options
  obtain ⟨kind, file, _⟩ := g
  obtain ⟨kind', file', _⟩ := g'
  -- The first words differ unless the kinds agree: two options by name, a program by `hfile`.
  cases kind <;> cases kind' <;> simp_all [words, options]

section Splitting

variable (g : Group) (groups : List Group) (arguments rest : List String)

theorem line_cons_append : line (g :: groups) ++ rest = g.words ++ (line groups ++ rest) := by
  rw [line, List.flatMap_cons, List.append_assoc, line]

theorem files_cons (kind : Kind) :
    files kind (g :: groups) =
      if g.kind = kind then g.file :: files kind groups else files kind groups := by
  by_cases h : g.kind = kind <;> simp [files, h]

theorem line_injective : Function.Injective line := by
  intro groups
  induction groups with
  | nil =>
      intro others h
      cases others with
      | nil => rfl
      | cons g others => exact absurd (List.append_eq_nil_iff.mp h.symm).1 g.words_ne_nil
  | cons g groups ih =>
      intro others h
      cases others with
      | nil => exact absurd (List.append_eq_nil_iff.mp h).1 g.words_ne_nil
      | cons g' others =>
          obtain ⟨hfirst, hrest⟩ := Group.words_append_inj h
          rw [hfirst, ih hrest]

theorem split_first :
    arguments = [] ∨ (∃ e, Stuck arguments e) ∨
      ∃ (g : Group) (rest : List String), arguments = g.words ++ rest := by
  cases arguments with
  | nil => exact .inl rfl
  | cons argument rest =>
      right
      by_cases hoption : argument ∈ options
      · cases rest with
        | nil => exact .inl ⟨_, .missingFile hoption⟩
        | cons file rest =>
            obtain rfl | rfl := mem_options_iff.mp hoption
            · exact .inr ⟨⟨.config, file, Kind.noConfusion⟩, rest, rfl⟩
            · exact .inr ⟨⟨.content, file, Kind.noConfusion⟩, rest, rfl⟩
      · by_cases hdashed : IsDashed argument
        · exact .inl ⟨_, .unknownOption hdashed hoption⟩
        · exact .inr ⟨⟨.program, argument, fun _ => hdashed⟩, rest, rfl⟩

theorem exists_line_append :
    ∃ groups rest, arguments = line groups ++ rest ∧ (rest = [] ∨ ∃ e, Stuck rest e) := by
  induction hlength : arguments.length using Nat.strongRecOn generalizing arguments with
  | ind n ih =>
      obtain rfl | hstuck | ⟨g, rest, rfl⟩ := split_first arguments
      · exact ⟨[], [], rfl, .inl rfl⟩
      · exact ⟨[], arguments, rfl, .inr hstuck⟩
      · have hshorter : rest.length < n := by
          have hwords := List.length_pos_iff.mpr g.words_ne_nil
          rw [List.length_append] at hlength
          omega
        obtain ⟨groups, tail, rfl, htail⟩ := ih _ hshorter rest rfl
        exact ⟨g :: groups, tail, (line_cons_append g groups tail).symm, htail⟩

theorem isGrouping_or_refuses :
    (∃ groups, IsGrouping arguments groups) ∨ ∃ e, Refuses arguments e := by
  obtain ⟨groups, rest, rfl, hrest⟩ := exists_line_append arguments
  cases hsecond : (files .program groups)[1]? with
  | some file => exact .inr ⟨_, .secondProgram hsecond⟩
  | none =>
      have honce := List.getElem?_eq_none_iff.mp hsecond
      obtain rfl | ⟨e, hstuck⟩ := hrest
      · exact .inl ⟨groups, (List.append_nil _).symm, honce⟩
      · exact .inr ⟨e, .stuck honce hstuck⟩

end Splitting

section Reading

variable (a : Arguments) (g : Group) (groups : List Group) (rest : List String)

/-- What is known once a group has been read. -/
def after : Arguments :=
  match g.kind with
  | .config => { a with config := some g.file }
  | .content => { a with content := some g.file }
  | .program => { a with program := some g.file }

def file : Kind → Option String
  | .config => a.config
  | .content => a.content
  | .program => a.program

theorem file_after (kind : Kind) :
    (a.after g).file kind = if g.kind = kind then some g.file else a.file kind := by
  obtain ⟨own, file, _⟩ := g
  cases own <;> cases kind <;> rfl

/-- A later file of a kind takes the place of the one before. -/
theorem file_foldl_after (kind : Kind) :
    (groups.foldl after a).file kind = (files kind groups).getLast?.or (a.file kind) := by
  induction groups generalizing a with
  | nil => rfl
  | cons g groups ih =>
      rw [List.foldl_cons, ih, file_after, files_cons]
      split
      · rw [List.getLast?_cons]
        cases (files kind groups).getLast? <;> rfl
      · rfl

theorem foldl_after_eq_ofGroups : groups.foldl after {} = ofGroups groups := by
  have hfile (kind : Kind) : (groups.foldl after {}).file kind = (files kind groups).getLast? := by
    rw [file_foldl_after]
    cases kind <;> exact Option.or_none
  rw [ofGroups, ← hfile, ← hfile, ← hfile]
  rfl

theorem parseFrom_cons_of_notMem {argument : String} (h : argument ∉ options) :
    parseFrom a (argument :: rest) =
      if IsDashed argument then .error (.unknownOption argument)
      else if a.program.isSome then .error (.unexpected argument)
      else parseFrom { a with program := some argument } rest := by
  rw [mem_options_iff, not_or] at h
  rw [parseFrom.eq_def]
  simp only [h.1, h.2, if_false, List.isPrefixOf_iff_prefix]
  rfl

theorem parseFrom_words_append :
    parseFrom a (g.words ++ rest) =
      if g.kind = .program ∧ a.program.isSome then .error (.unexpected g.file)
      else parseFrom (a.after g) rest := by
  have hfile : g.kind = .program → g.file ∉ options := Group.file_notMem_options
  obtain ⟨kind, file, hplain⟩ := g
  cases kind with
  | config => simp [Group.words, parseFrom, after]
  | content => simp [Group.words, parseFrom, after]
  | program =>
      rw [Group.words, List.singleton_append, parseFrom_cons_of_notMem a rest (hfile rfl),
        if_neg (hplain rfl)]
      simp [after]

/-- Groups are read one after the other, up to the second program if there is one. -/
theorem parseFrom_line_append :
    parseFrom a (line groups ++ rest) =
      ((a.program.toList ++ files .program groups)[1]?).elim
        (parseFrom (groups.foldl after a) rest) (fun file => .error (.unexpected file)) := by
  induction groups generalizing a with
  | nil => cases hprogram : a.program <;> simp [line, files]
  | cons g groups ih =>
      rw [line_cons_append, parseFrom_words_append, files_cons]
      split
      case isTrue hsecond =>
        obtain ⟨first, hfirst⟩ := Option.isSome_iff_exists.mp hsecond.2
        simp [hsecond.1, hfirst]
      case isFalse hsecond =>
        -- The program that has been read and those to come are the same list before and after.
        have hprogram :
            (a.after g).program = if g.kind = .program then some g.file else a.program :=
          file_after a g .program
        rw [ih, hprogram]
        by_cases hkind : g.kind = .program
        · have hnone : a.program = none := by simpa [hkind] using hsecond
          simp [hkind, hnone]
        · simp [hkind]

theorem parse_line_append :
    parse (line groups ++ rest) =
      ((files .program groups)[1]?).elim (parseFrom (ofGroups groups) rest)
        (fun file => .error (.unexpected file)) := by
  rw [parse, parseFrom_line_append, foldl_after_eq_ofGroups]
  rfl

end Reading

section Outcome

variable {arguments rest : List String} {groups others : List Group} {e : ArgumentError}

theorem parse_of_isGrouping (h : IsGrouping arguments groups) :
    parse arguments = .ok (ofGroups groups) := by
  have hsecond : (files .program groups)[1]? = none :=
    List.getElem?_eq_none_iff.mpr h.program_once
  rw [← h.line_eq, ← List.append_nil (line groups), parse_line_append, hsecond]
  rfl

theorem parseFrom_of_stuck (a : Arguments) (h : Stuck rest e) : parseFrom a rest = .error e := by
  cases h with
  | missingFile hoption => obtain rfl | rfl := mem_options_iff.mp hoption <;> rfl
  | unknownOption hdashed hoption =>
      rw [parseFrom_cons_of_notMem a _ hoption, if_pos hdashed]

theorem parse_of_refuses (h : Refuses arguments e) : parse arguments = .error e := by
  cases h with
  | secondProgram hsecond =>
      rw [parse_line_append, hsecond]
      rfl
  | stuck honce hstuck =>
      rw [parse_line_append, List.getElem?_eq_none_iff.mpr honce]
      exact parseFrom_of_stuck _ hstuck

theorem Reorders.files_eq (h : Reorders groups others) (kind : Kind) :
    files kind others = files kind groups := by
  rw [files, h kind, files]

theorem parse_line_append_of_reorders (h : Reorders groups others) (rest : List String) :
    parse (line others ++ rest) = parse (line groups ++ rest) := by
  rw [parse_line_append, parse_line_append, ofGroups, ofGroups, h.files_eq, h.files_eq, h.files_eq]

end Outcome

/-- The command line is accepted exactly if it splits into groups with at most one program among
them. There is no other way to split it, and the last file of each kind is what is read. Groups of
different kinds may change places, whatever follows them and whether or not the list is accepted.
Every other list is refused, with the error of the argument that does not fit. -/
theorem parse_follows_grammar (arguments : List String) :
    ((∃ a, parse arguments = .ok a) ↔ ∃ groups, IsGrouping arguments groups) ∧
      (∀ groups, IsGrouping arguments groups →
        parse arguments = .ok (ofGroups groups) ∧
          ∀ others, line others = arguments → others = groups) ∧
      (∀ groups others rest, line groups ++ rest = arguments → Reorders groups others →
        parse (line others ++ rest) = parse arguments) ∧
      ((¬ ∃ groups, IsGrouping arguments groups) →
        ∃ e, Refuses arguments e ∧ parse arguments = .error e) := by
  refine ⟨⟨?_, ?_⟩, ?_, ?_, ?_⟩
  · rintro ⟨a, hparse⟩
    apply (isGrouping_or_refuses arguments).resolve_right
    rintro ⟨e, hrefuses⟩
    rw [parse_of_refuses hrefuses] at hparse
    cases hparse
  · rintro ⟨groups, hgrouping⟩
    exact ⟨_, parse_of_isGrouping hgrouping⟩
  · intro groups hgrouping
    refine ⟨parse_of_isGrouping hgrouping, ?_⟩
    intro others hline
    exact line_injective (hline.trans hgrouping.line_eq.symm)
  · rintro groups others rest rfl hreorders
    exact parse_line_append_of_reorders hreorders rest
  · intro hnone
    obtain ⟨e, hrefuses⟩ := (isGrouping_or_refuses arguments).resolve_left hnone
    exact ⟨e, hrefuses, parse_of_refuses hrefuses⟩

/-- Each option has the name of the other one as a file, a later file of the settings wins, and the
list without its last argument is refused. -/
theorem parse_follows_grammar_lookalikes :
    parse ["--config", "--content", "-", "--content", "--config", "--config", "b"] =
        .ok ⟨some "b", some "--config", some "-"⟩ ∧
      parse ["--content", "--config", "--config", "--content", "--config", "b", "-"] =
        .ok ⟨some "b", some "--config", some "-"⟩ ∧
      ∃ e, Refuses ["--config", "--content", "-", "--content", "--config", "--config"] e ∧
        parse ["--config", "--content", "-", "--content", "--config", "--config"] = .error e := by
  let first : Group := ⟨.config, "--content", by decide⟩
  let second : Group := ⟨.config, "b", by decide⟩
  let content : Group := ⟨.content, "--config", by decide⟩
  let program : Group := ⟨.program, "-", by decide⟩
  have hgrouping : IsGrouping _ [first, program, content, second] := ⟨rfl, by decide⟩
  have hreorders :
      Reorders [first, program, content, second] [content, first, second, program] := by
    intro kind
    cases kind <;> rfl
  have hnone : ¬ ∃ groups,
      IsGrouping ["--config", "--content", "-", "--content", "--config", "--config"] groups := by
    intro h
    obtain ⟨a, ha⟩ := (parse_follows_grammar _).1.mpr h
    cases ha
  have hparse := ((parse_follows_grammar _).2.1 _ hgrouping).1
  have hreordered := (parse_follows_grammar _).2.2.1 _ _ [] rfl hreorders
  exact ⟨hparse, hreordered.trans hparse, (parse_follows_grammar _).2.2.2 hnone⟩

end Arguments

end Breadboard
