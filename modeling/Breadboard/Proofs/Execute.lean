import Breadboard.Execute

/-!
What a statement does to the state when it succeeds, one case for each thing it can do. A statement
neither looks at the region nor changes it, and only a conditional looks at its block.
-/

namespace Breadboard

def State.inRegion (s : State) (region : Region) : State :=
  { s with region }

theorem State.switch_eq_ok {s after : State} {pin : Pin} {on : Bool}
    (h : s.switch pin on = .ok after) :
    (s.pins.get pin).declared = true ∧
      after = { s with pins := s.pins.set pin { s.pins.get pin with on } } := by
  unfold State.switch at h
  split at h
  · next hdeclared =>
    cases h
    exact ⟨hdeclared, rfl⟩
  · cases h

theorem State.switch_inRegion (s : State) (pin : Pin) (on : Bool) (region : Region) :
    (s.inRegion region).switch pin on = (s.switch pin on).map (·.inRegion region) := by
  by_cases h : (s.pins.get pin).declared = true
  · simp [State.switch, State.inRegion, h, Except.map]
  · simp [State.switch, State.inRegion, h, Except.map]

theorem execute_inRegion (statement : Statement) (block? : Option Block) (s : State)
    (region : Region) :
    execute statement block? (s.inRegion region) =
      (execute statement block? s).map fun (transition, s) => (transition, s.inRegion region) := by
  cases statement with
  | declare digits =>
      simp only [execute]
      cases findPin digits <;> rfl
  | switch digits on =>
      simp only [execute]
      cases findPin digits with
      | error fault => rfl
      | ok pin =>
          simp only [bind, Except.bind, State.switch_inRegion]
          cases s.switch pin on <;> rfl
  | conditional condition =>
      cases block? with
      | none => rfl
      | some block =>
          simp only [execute]
          change (s.evaluate condition >>= _) = Except.map _ (s.evaluate condition >>= _)
          cases s.evaluate condition <;> rfl
  | _ => rfl

theorem execute_of_not_header {statement : Statement} (h : statement.isHeader = false)
    (block? : Option Block) (s : State) :
    execute statement block? s = execute statement none s := by
  cases statement with
  | conditional condition => cases h
  | _ => rfl

/-- A statement that succeeds leaves the state alone, or declares a pin, switches one, or sets a
variable. -/
inductive Executed (s : State) : Transition → State → Prop where
  | same : Executed s .quiet s
  | declared (pin : Pin) : Executed s .quiet (s.declare pin)
  | switched (pin : Pin) (on : Bool) (hdeclared : (s.pins.get pin).declared = true) :
      Executed s (.effect (.light pin on))
        { s with pins := s.pins.set pin { s.pins.get pin with on } }
  | assigned (name : Text) (v : Variable) :
      Executed s (.effect (.variableSet name v.display)) (s.assign name v)
  | branched (taken : Bool) (block : Block) : Executed s (.branch taken block) s

private theorem exists_of_bind_eq_ok {α β : Type} {x : Except Fault α} {f : α → Except Fault β}
    {b : β} (h : x >>= f = .ok b) : ∃ a, x = .ok a ∧ f a = .ok b := by
  cases x with
  | error fault => cases h
  | ok a => exact ⟨a, rfl, h⟩

private theorem error_or_of_bind_eq_error {α β : Type} {x : Except Fault α}
    {f : α → Except Fault β} {fault : Fault} (h : x >>= f = .error fault) :
    x = .error fault ∨ ∃ a, x = .ok a ∧ f a = .error fault := by
  cases x with
  | error other =>
      cases h
      exact .inl rfl
  | ok a => exact .inr ⟨a, rfl, h⟩

/-- What has to hold of a statement that fails in this way. No statement is to blame for an empty
program, and only a header without a block for a block that never closes. -/
def Fault.BlamedOn (statement : Statement) (block? : Option Block) : Fault → Prop
  | .emptyProgram => False
  | .unclosedBlock => statement.isHeader = true ∧ block? = none
  | _ => True

theorem blamedOn_of_execute {statement : Statement} {block? : Option Block} {s : State}
    {fault : Fault} (h : execute statement block? s = .error fault) :
    fault.BlamedOn statement block? := by
  have hfind (digits : Text) (hfind : findPin digits = .error fault) :
      fault.BlamedOn statement block? := by
    unfold findPin at hfind
    split at hfind
    · cases hfind
    · cases hfind
      trivial
  cases statement with
  | declare digits =>
      rcases error_or_of_bind_eq_error h with hpin | ⟨pin, _, hrest⟩
      · exact hfind digits hpin
      · cases hrest
  | switch digits on =>
      rcases error_or_of_bind_eq_error h with hpin | ⟨pin, _, hswitched⟩
      · exact hfind digits hpin
      · rcases error_or_of_bind_eq_error hswitched with hswitch | ⟨after, _, hrest⟩
        · unfold State.switch at hswitch
          split at hswitch
          · cases hswitch
          · cases hswitch
            trivial
        · cases hrest
  | conditional condition =>
      cases block? with
      | none =>
          cases h
          exact ⟨rfl, rfl⟩
      | some block =>
          rcases error_or_of_bind_eq_error h with hcondition | ⟨taken, _, hrest⟩
          · unfold State.evaluate at hcondition
            split at hcondition
            · cases hcondition
              trivial
            · split at hcondition
              · cases hcondition
                trivial
              · cases hcondition
          · cases hrest
  | missingSemicolon => cases h; trivial
  | malformedPinCommand => cases h; trivial
  | unknownPinSyntax => cases h; trivial
  | invalid => cases h; trivial
  | _ => cases h

theorem execute_ne_emptyProgram {statement : Statement} {block? : Option Block} {s : State}
    {fault : Fault} (h : execute statement block? s = .error fault) : fault ≠ .emptyProgram := by
  intro hempty
  rw [hempty] at h
  exact blamedOn_of_execute h

theorem executed_of_execute {statement : Statement} {block? : Option Block} {s after : State}
    {transition : Transition} (h : execute statement block? s = .ok (transition, after)) :
    Executed s transition after := by
  cases statement with
  | declare digits =>
      obtain ⟨pin, _, hafter⟩ := exists_of_bind_eq_ok h
      cases hafter
      exact .declared pin
  | switch digits on =>
      obtain ⟨pin, _, hswitched⟩ := exists_of_bind_eq_ok h
      obtain ⟨switched, hswitch, hafter⟩ := exists_of_bind_eq_ok hswitched
      obtain ⟨hdeclared, rfl⟩ := State.switch_eq_ok hswitch
      cases hafter
      exact .switched pin on hdeclared
  | assign name type value =>
      cases h
      exact .assigned name ⟨value, type⟩
  | conditional condition =>
      cases block? with
      | none => cases h
      | some block =>
          obtain ⟨taken, _, hafter⟩ := exists_of_bind_eq_ok h
          cases hafter
          exact .branched taken block
  | blank => cases h; exact .same
  | comment => cases h; exact .same
  | brace brace => cases h; exact .same
  | setup => cases h; exact .same
  | loop => cases h; exact .same
  | _ => cases h

theorem Executed.region_eq {s after : State} {transition : Transition}
    (h : Executed s transition after) : after.region = s.region := by
  cases h <;> rfl

/-- Only a conditional with a block branches. -/
theorem execute_eq_branch {statement : Statement} {block? : Option Block} {s after : State}
    {taken : Bool} {block : Block}
    (h : execute statement block? s = .ok (.branch taken block, after)) :
    ∃ condition, statement = .conditional condition ∧ block? = some block ∧
      s.evaluate condition = .ok taken ∧ after = s := by
  cases statement with
  | declare digits =>
      obtain ⟨pin, _, hafter⟩ := exists_of_bind_eq_ok h
      cases hafter
  | switch digits on =>
      obtain ⟨pin, _, hswitched⟩ := exists_of_bind_eq_ok h
      obtain ⟨switched, _, hafter⟩ := exists_of_bind_eq_ok hswitched
      cases hafter
  | conditional condition =>
      cases block? with
      | none => cases h
      | some other =>
          obtain ⟨value, htaken, hafter⟩ := exists_of_bind_eq_ok h
          cases hafter
          exact ⟨condition, rfl, rfl, htaken, rfl⟩
  | _ => cases h

end Breadboard
