import Breadboard.Board
import Breadboard.Proofs.Latest

/-!
A board as a record of its own side. A board follows a stream of events one at a time and changes in
place, and the stream may hold anything: events of the other side, ends of lines that were never
highlighted, effects behind a failure. What the board shows in the end can still be read off the
events of its side. A light and an error mark go by the last word on them, and so does the value of a
variable, while its place in the panel goes by the first. A line is highlighted as long as nothing
has ended that.

Each of these is a fact about one more event, so it is shown for `note` first and then, by induction
from the end of the stream, for all of them.
-/

namespace Breadboard

namespace Happening

/-- Which way the light of this pin goes. -/
def lightOf? (pin : Pin) : Happening → Option Bool
  | .effect (.light other on) => if other = pin then some on else none
  | _ => none

/-- The variable that is set, and what is shown of it from now on. -/
def setting? : Happening → Option (Text × Text)
  | .effect (.variableSet name display) => some (name, display)
  | _ => none

def name? (happening : Happening) : Option Text :=
  happening.setting?.map Prod.fst

/-- What is shown of this variable from now on. -/
def displayOf? (name : Text) (happening : Happening) : Option Text :=
  happening.setting?.bind fun (other, display) => if other = name then some display else none

/-- The line of a failure, and its message. -/
def failure? : Happening → Option (Nat × String)
  | .failed line message => some (line, message)
  | _ => none

/-- Another highlight, the end of the one on this line, and a failure. -/
def endsHighlight (line : Nat) : Happening → Bool
  | .highlightStart _ | .failed _ _ => true
  | .highlightEnd other => other = line
  | .effect _ => false

end Happening

/-- The line was highlighted, and nothing that ends its highlight came after. -/
def StillLit (own : List Happening) (line : Nat) : Prop :=
  ∃ before after, own = before ++ .highlightStart line :: after ∧
    ∀ later ∈ after, later.endsHighlight line = false

/-- What happens on one side, in order. -/
def Event.onSide (side : Side) (events : List Event) : List Happening :=
  (events.filter (·.side = side)).map (·.happening)

section Last

variable {own : List Happening} {happening : Happening}

theorem not_stillLit_nil (line : Nat) : ¬StillLit [] line := by
  intro h
  obtain ⟨before, after, hnil, _⟩ := h
  simp at hnil

theorem stillLit_concat {line : Nat} :
    StillLit (own ++ [happening]) line ↔
      happening = .highlightStart line ∨
        StillLit own line ∧ happening.endsHighlight line = false := by
  constructor
  · intro h
    obtain ⟨before, after, hsplit, hlater⟩ := h
    rcases concat_eq_append_cons_iff.mp hsplit with ⟨_, _, hstart⟩ | ⟨more, rfl, hown⟩
    · exact .inl hstart
    · right
      constructor
      · refine ⟨before, more, hown, ?_⟩
        intro later hmore
        exact hlater later (List.mem_append_left _ hmore)
      · apply hlater
        simp
  · intro h
    rcases h with rfl | ⟨⟨before, after, rfl, hlater⟩, hkept⟩
    · exact ⟨own, [], rfl, by simp⟩
    · refine ⟨before, after ++ [happening], by simp, ?_⟩
      intro later hmem
      rcases List.mem_append.mp hmem with hafter | hlast
      · exact hlater later hafter
      · rw [List.mem_singleton.mp hlast]
        exact hkept

end Last

namespace Register

variable {α : Type} {r : Register α}

theorem nodup_names_put (h : r.names.Nodup) (name : Text) (a : α) :
    (r.put name a).names.Nodup := by
  rw [Register.names_put]
  split
  · exact h
  · next hnew =>
    refine List.nodup_append.mpr ⟨h, by simp, ?_⟩
    intro other hother new hlast heq
    rw [List.mem_singleton.mp hlast] at heq
    exact hnew (heq ▸ hother)

private theorem mem_iff_getIn {entries : List (Text × α)} (h : (entries.map Prod.fst).Nodup)
    {name : Text} {a : α} : (name, a) ∈ entries ↔ getIn name entries = some a := by
  induction entries with
  | nil => simp [getIn]
  | cons entry rest ih =>
      obtain ⟨key, b⟩ := entry
      obtain ⟨hnew, hrest⟩ := List.nodup_cons.mp h
      by_cases hkey : key = name
      · subst hkey
        have hnone : (key, a) ∉ rest := by
          intro hmem
          exact hnew (List.mem_map.mpr ⟨(key, a), hmem, rfl⟩)
        simp [getIn, hnone, eq_comm]
      · simp [getIn, hkey, Ne.symm hkey, ih hrest]

/-- With every name listed once, what is found under a name is its entry. -/
theorem mem_entries_iff (h : r.names.Nodup) {name : Text} {a : α} :
    (name, a) ∈ r.entries ↔ r.get? name = some a :=
  mem_iff_getIn h

end Register

namespace Board

variable (b : Board) (happening : Happening)

theorem side_note : (b.note happening).side = b.side := by
  cases happening with
  | effect effect => cases effect <;> rfl
  | highlightEnd line =>
      rw [note]
      split <;> rfl
  | _ => rfl

theorem side_apply (event : Event) : (b.apply event).side = b.side := by
  unfold apply
  split
  · exact b.side_note event.happening
  · rfl

theorem side_applyAll (events : List Event) : (b.applyAll events).side = b.side := by
  induction events generalizing b with
  | nil => rfl
  | cons event rest ih => exact (ih (b.apply event)).trans (b.side_apply event)

/-- Only what happens on its own side reaches a board. -/
theorem applyAll_eq_foldl_note (events : List Event) :
    b.applyAll events = (Event.onSide b.side events).foldl note b := by
  induction events generalizing b with
  | nil => rfl
  | cons event rest ih =>
      change (b.apply event).applyAll rest = _
      rw [ih, side_apply]
      by_cases hside : event.side = b.side
      · simp [Event.onSide, apply, hside]
      · simp [Event.onSide, apply, hside]

theorem applyAll_onSide (events : List Event) :
    b.applyAll (events.filter (·.side = b.side)) = b.applyAll events := by
  rw [applyAll_eq_foldl_note, applyAll_eq_foldl_note]
  simp [Event.onSide]

theorem applyAll_of_other {b : Board} {events : List Event}
    (h : ∀ event ∈ events, event.side ≠ b.side) : b.applyAll events = b := by
  have hnone : events.filter (·.side = b.side) = [] := by simpa using h
  rw [← applyAll_onSide, hnone]
  rfl

/-! One more event. -/

theorem lights_note (pin : Pin) :
    (b.note happening).lights.get pin = (happening.lightOf? pin).getD (b.lights.get pin) := by
  cases happening with
  | highlightStart line => rfl
  | failed line message => rfl
  | highlightEnd line =>
      rw [note]
      split <;> rfl
  | effect effect =>
      cases effect with
      | variableSet name display => rfl
      | light other on =>
          by_cases hpin : other = pin
          · simp [note, Happening.lightOf?, hpin]
          · simp [note, Happening.lightOf?, hpin, Ne.symm hpin]

theorem error_note : (b.note happening).error = happening.failure?.or b.error := by
  cases happening with
  | highlightStart line => rfl
  | failed line message => rfl
  | highlightEnd line =>
      rw [note]
      split <;> rfl
  | effect effect => cases effect <;> rfl

theorem bindings_note :
    (b.note happening).bindings =
      happening.setting?.elim b.bindings fun (name, display) => b.bindings.put name display := by
  cases happening with
  | highlightEnd line =>
      rw [note]
      split <;> rfl
  | effect effect => cases effect <;> rfl
  | _ => rfl

theorem highlighted_note (line : Nat) :
    (b.note happening).highlighted = some line ↔
      happening = .highlightStart line ∨
        b.highlighted = some line ∧ happening.endsHighlight line = false := by
  cases happening with
  | highlightStart other => simp [note, Happening.endsHighlight]
  | failed other message => simp [note, Happening.endsHighlight]
  | effect effect => cases effect <;> simp [note, Happening.endsHighlight]
  | highlightEnd other =>
      by_cases hlit : b.highlighted = some other
      · simp [note, Happening.endsHighlight, hlit]
      · have hother : b.highlighted = some line → other ≠ line := by
          intro hline heq
          exact hlit (heq ▸ hline)
        simpa [note, Happening.endsHighlight, hlit] using hother

/-! All events. -/

/-- The board of a side after all that has happened there. -/
def record (side : Side) (own : List Happening) : Board :=
  own.foldl note (blank side)

theorem record_concat (side : Side) (own : List Happening) :
    record side (own ++ [happening]) = (record side own).note happening := by
  simp [record]

variable (side : Side) (own : List Happening)

theorem lights_record (pin : Pin) :
    (record side own).lights.get pin = (latest? (Happening.lightOf? pin) own).getD false := by
  induction own using List.reverseRecOn with
  | nil => simp [record, blank]
  | append_singleton own happening ih =>
      rw [record_concat, lights_note, latest?_concat, ih]
      cases happening.lightOf? pin with
      | none => rfl
      | some on => rfl

theorem error_record : (record side own).error = latest? Happening.failure? own := by
  induction own using List.reverseRecOn with
  | nil => rfl
  | append_singleton own happening ih =>
      rw [record_concat, error_note, latest?_concat, ih]

theorem nodup_names_record : (record side own).bindings.names.Nodup := by
  induction own using List.reverseRecOn with
  | nil => exact List.nodup_nil
  | append_singleton own happening ih =>
      rw [record_concat, bindings_note]
      cases happening.setting? with
      | none => exact ih
      | some setting => exact Register.nodup_names_put ih setting.1 setting.2

theorem names_record :
    (record side own).bindings.names = (own.filterMap Happening.name?).eraseDups := by
  induction own using List.reverseRecOn with
  | nil => rfl
  | append_singleton own happening ih =>
      rw [record_concat, bindings_note, List.filterMap_append]
      cases hsetting : happening.setting? with
      | none => simp [Happening.name?, hsetting, ih]
      | some setting =>
          have hname : [happening].filterMap Happening.name? = [setting.1] := by
            simp [Happening.name?, hsetting]
          simp only [Option.elim_some, Register.names_put, hname, eraseDups_concat, ih,
            List.mem_eraseDups]

theorem display_record (name : Text) :
    (record side own).bindings.get? name = latest? (Happening.displayOf? name) own := by
  induction own using List.reverseRecOn with
  | nil => rfl
  | append_singleton own happening ih =>
      rw [record_concat, bindings_note, latest?_concat, ← ih, Happening.displayOf?]
      cases happening.setting? with
      | none => rfl
      | some setting =>
          simp only [Option.elim_some, Register.get?_put, Option.bind_some]
          by_cases hname : setting.1 = name
          · simp [hname]
          · simp [hname, Ne.symm hname]

theorem highlighted_record (line : Nat) :
    (record side own).highlighted = some line ↔ StillLit own line := by
  induction own using List.reverseRecOn with
  | nil => simp [record, blank, not_stillLit_nil]
  | append_singleton own happening ih =>
      rw [record_concat, highlighted_note, stillLit_concat, ih]

/-- A board is determined by the events of its own side, whatever stands between them. A light is on
if the last event for its pin turned it on. The panel lists every variable that was set once, in the
order in which they were first set, with what was last shown of it. The error mark is that of the
last failure. And a line is highlighted if it was the last one to be highlighted, and neither its
end nor a failure came after. -/
theorem applyAll_determined (side : Side) (events : List Event) :
    let board := (blank side).applyAll events
    let own := Event.onSide side events
    board = (blank side).applyAll (events.filter (·.side = side)) ∧
    board.side = side ∧
    (∀ pin, board.lights.get pin = true ↔
      latest? (Happening.lightOf? pin) own = some true) ∧
    (board.bindings.names.Nodup ∧
      board.bindings.names = (own.filterMap Happening.name?).eraseDups ∧
      ∀ name display, (name, display) ∈ board.bindings.entries ↔
        latest? (Happening.displayOf? name) own = some display) ∧
    board.error = latest? Happening.failure? own ∧
    ∀ line, board.highlighted = some line ↔ StillLit own line := by
  intro board own
  have hboard : board = record side own := (blank side).applyAll_eq_foldl_note events
  have hnodup := nodup_names_record side own
  refine ⟨((blank side).applyAll_onSide events).symm, (blank side).side_applyAll events, ?_⟩
  rw [hboard]
  refine ⟨?_, ⟨hnodup, names_record side own, ?_⟩, error_record side own,
    highlighted_record side own⟩
  · intro pin
    rw [lights_record]
    cases latest? (Happening.lightOf? pin) own with
    | none => simp
    | some on => simp
  · intro name display
    rw [Register.mem_entries_iff hnodup, display_record]

end Board

end Breadboard
