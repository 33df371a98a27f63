import Breadboard.Proofs.Execute.InPlace
import Breadboard.Proofs.Latest

/-!
The state as a record of what was executed. Statements are executed one after another on one state,
and a statement that fails does not stop the ones behind it. What a pin or a variable is then can be
read off the list of statements: a pin has been declared if one of them declared it, and otherwise
the last word counts. Each of these facts is about one more statement at the end of the list, so all
that has to be known is what a single statement does.
-/

namespace Breadboard

/-- What a statement asks of the state. -/
inductive Order where
  | declare (pin : Pin)
  | switch (pin : Pin) (on : Bool)
  | assign (name : Text) (v : Variable)
deriving DecidableEq, Repr

namespace Order

def pin? : Order → Option Pin
  | .declare pin | .switch pin _ => some pin
  | .assign _ _ => none

def name? : Order → Option Text
  | .assign name _ => some name
  | .declare _ | .switch _ _ => none

/-- Which way the pin is to be switched. -/
def switchOf? (pin : Pin) : Order → Option Bool
  | .switch other on => if other = pin then some on else none
  | .declare _ | .assign _ _ => none

/-- What the variable is to hold. -/
def valueOf? (name : Text) : Order → Option Variable
  | .assign other v => if other = name then some v else none
  | .declare _ | .switch _ _ => none

end Order

/-- A statement together with the block that it gets if it is a conditional. -/
structure Act where
  statement : Statement
  block? : Option Block
deriving DecidableEq, Repr

namespace Act

/-- Digits that name no pin ask for nothing. -/
def order? (act : Act) : Option Order :=
  match act.statement with
  | .declare digits => (Pin.ofDigits? digits).map .declare
  | .switch digits on => (Pin.ofDigits? digits).map (.switch · on)
  | .assign name type value => some (.assign name ⟨value, type⟩)
  | _ => none

def Declares (pin : Pin) (act : Act) : Prop :=
  act.order? = some (.declare pin)

instance (pin : Pin) (act : Act) : Decidable (act.Declares pin) :=
  inferInstanceAs (Decidable (_ = _))

def switchOf? (pin : Pin) (act : Act) : Option Bool :=
  act.order?.bind (Order.switchOf? pin)

def valueOf? (name : Text) (act : Act) : Option Variable :=
  act.order?.bind (Order.valueOf? name)

/-- The result and the state that is left, whether the statement fails or not. -/
def on (act : Act) (s : State) : Except Fault Transition × State :=
  (perform act.statement act.block?).on s

/-- Everything that a statement can do. A pin that is not declared is not switched; whatever asks
for nothing leaves the state alone, with or without a fault. -/
inductive Does (act : Act) (s : State) : Except Fault Transition × State → Prop where
  | declared (pin : Pin) (h : act.order? = some (.declare pin)) :
      Does act s (.ok .quiet, s.declare pin)
  | switched (pin : Pin) (on : Bool) (h : act.order? = some (.switch pin on))
      (hdeclared : (s.pins.get pin).declared = true) :
      Does act s (.ok (.effect (.light pin on)),
        { s with pins := s.pins.set pin { s.pins.get pin with on } })
  | refused (pin : Pin) (on : Bool) (h : act.order? = some (.switch pin on))
      (hdeclared : (s.pins.get pin).declared = false) :
      Does act s (.error (.pinNotDeclared pin), s)
  | assigned (name : Text) (v : Variable) (h : act.order? = some (.assign name v)) :
      Does act s (.ok (.effect (.variableSet name v.display)), s.assign name v)
  | nothing (result : Except Fault Transition) (h : act.order? = none) : Does act s (result, s)

theorem does_on (act : Act) (s : State) : act.Does s (act.on s) := by
  obtain ⟨statement, block?⟩ := act
  unfold on
  rw [on_perform]
  cases statement with
  | declare digits =>
      simp only [execute, findPin]
      cases hpin : Pin.ofDigits? digits with
      | none => exact .nothing _ (by simp [order?, hpin])
      | some pin => exact .declared pin (by simp [order?, hpin])
  | switch digits on =>
      simp only [execute, findPin]
      cases hpin : Pin.ofDigits? digits with
      | none => exact .nothing _ (by simp [order?, hpin])
      | some pin =>
          have horder : order? ⟨.switch digits on, block?⟩ = some (.switch pin on) := by
            simp [order?, hpin]
          cases hdeclared : (s.pins.get pin).declared with
          | true =>
              have hswitch : s.switch pin on =
                  .ok { s with pins := s.pins.set pin { s.pins.get pin with on } } :=
                if_pos hdeclared
              simp only [bind, Except.bind, hswitch]
              exact .switched pin on horder hdeclared
          | false =>
              have hswitch : s.switch pin on = .error (.pinNotDeclared pin) :=
                if_neg (by simp [hdeclared])
              simp only [bind, Except.bind, hswitch]
              exact .refused pin on horder hdeclared
  | assign name type value => exact .assigned name ⟨value, type⟩ rfl
  | conditional condition =>
      cases block? with
      | none => exact .nothing _ rfl
      | some block =>
          simp only [execute]
          cases s.evaluate condition with
          | error fault => exact .nothing _ rfl
          | ok taken => exact .nothing _ rfl
  | _ => exact .nothing _ rfl

namespace Does

variable {act : Act} {s : State} {outcome : Except Fault Transition × State}

theorem declared_iff (h : act.Does s outcome) (pin : Pin) :
    (outcome.2.pins.get pin).declared = true ↔
      (s.pins.get pin).declared = true ∨ act.Declares pin := by
  cases h with
  | declared other h =>
      by_cases hpin : pin = other
      · subst hpin
        simp [State.declare, Declares, h]
      · simp [State.declare, Declares, h, hpin, Ne.symm hpin]
  | switched other on h hdeclared =>
      by_cases hpin : pin = other
      · subst hpin
        simp [hdeclared]
      · simp [Declares, h, hpin]
  | refused other on h hdeclared => simp [Declares, h]
  | assigned name v h => simp [State.assign, Declares, h]
  | nothing result h => simp [Declares, h]

/-- Only a declared pin follows a switch. -/
theorem lit_eq (h : act.Does s outcome) (pin : Pin) :
    (outcome.2.pins.get pin).on =
      if (s.pins.get pin).declared then (act.switchOf? pin).getD (s.pins.get pin).on
      else (s.pins.get pin).on := by
  cases h with
  | declared other h =>
      by_cases hpin : pin = other
      · subst hpin
        simp [State.declare, switchOf?, Order.switchOf?, h]
      · simp [State.declare, switchOf?, Order.switchOf?, h, hpin]
  | switched other on h hdeclared =>
      by_cases hpin : pin = other
      · subst hpin
        simp [switchOf?, Order.switchOf?, h, hdeclared]
      · simp [switchOf?, Order.switchOf?, h, hpin, Ne.symm hpin]
  | refused other on h hdeclared =>
      by_cases hpin : pin = other
      · subst hpin
        simp [hdeclared]
      · simp [switchOf?, Order.switchOf?, h, Ne.symm hpin]
  | assigned name v h => simp [State.assign, switchOf?, Order.switchOf?, h]
  | nothing result h => simp [switchOf?, h]

theorem value_eq (h : act.Does s outcome) (name : Text) :
    outcome.2.bindings.get? name = (act.valueOf? name).or (s.bindings.get? name) := by
  cases h with
  | declared pin h => simp [State.declare, valueOf?, Order.valueOf?, h]
  | switched pin on h hdeclared => simp [valueOf?, Order.valueOf?, h]
  | refused pin on h hdeclared => simp [valueOf?, Order.valueOf?, h]
  | assigned other v h =>
      by_cases hname : name = other
      · subst hname
        simp [State.assign, valueOf?, Order.valueOf?, h]
      · simp [State.assign, valueOf?, Order.valueOf?, h, hname, Ne.symm hname]
  | nothing result h => simp [valueOf?, h]

end Does

/-- Nothing has changed but the pin or the variable that the statement names. -/
structure Keeps (act : Act) (s after : State) : Prop where
  pins : ∀ pin, act.order?.bind Order.pin? ≠ some pin → after.pins.get pin = s.pins.get pin
  values : ∀ name, act.order?.bind Order.name? ≠ some name →
    after.bindings.get? name = s.bindings.get? name
  bindings : act.order?.bind Order.name? = none → after.bindings = s.bindings
  region : after.region = s.region

theorem keeps_refl (act : Act) (s : State) : act.Keeps s s :=
  ⟨fun _ _ => rfl, fun _ _ => rfl, fun _ => rfl, rfl⟩

theorem Does.keeps {act : Act} {s : State} {outcome : Except Fault Transition × State}
    (h : act.Does s outcome) : act.Keeps s outcome.2 := by
  cases h with
  | declared pin h =>
      refine ⟨?_, fun _ _ => rfl, fun _ => rfl, rfl⟩
      intro other hother
      have hne : other ≠ pin := by simpa [h, Order.pin?, eq_comm] using hother
      simp [State.declare, hne]
  | switched pin on h hdeclared =>
      refine ⟨?_, fun _ _ => rfl, fun _ => rfl, rfl⟩
      intro other hother
      have hne : other ≠ pin := by simpa [h, Order.pin?, eq_comm] using hother
      simp [hne]
  | refused pin on h hdeclared => exact act.keeps_refl s
  | assigned name v h =>
      refine ⟨fun _ _ => rfl, ?_, ?_, rfl⟩
      · intro other hother
        have hne : other ≠ name := by simpa [h, Order.name?, eq_comm] using hother
        simp [State.assign, hne]
      · simp [h, Order.name?]
  | nothing result h => exact act.keeps_refl s

/-- A switch is refused for one reason only. -/
theorem Does.refused_iff {act : Act} {s : State} {outcome : Except Fault Transition × State}
    (h : act.Does s outcome) {pin : Pin} {on : Bool} (horder : act.order? = some (.switch pin on)) :
    outcome.1 = .error (.pinNotDeclared pin) ↔ (s.pins.get pin).declared = false := by
  cases h with
  | switched other on' h hdeclared =>
      cases horder.symm.trans h
      simp [hdeclared]
  | refused other on' h hdeclared =>
      cases horder.symm.trans h
      simp [hdeclared]
  | declared other h => cases horder.symm.trans h
  | assigned name v h => cases horder.symm.trans h
  | nothing result h => cases horder.symm.trans h

end Act

/-- The last switch of the pin behind some declaration of it turned it on. -/
def SwitchedOn (pin : Pin) (history : List Act) : Prop :=
  ∃ before declaration rest, history = before ++ declaration :: rest ∧
    declaration.Declares pin ∧ latest? (Act.switchOf? pin) rest = some true

section Last

variable {history : List Act} {act : Act}

theorem switchedOn_concat {pin : Pin} :
    SwitchedOn pin (history ++ [act]) ↔
      act.switchOf? pin = some true ∧ (∃ declaration ∈ history, declaration.Declares pin) ∨
        act.switchOf? pin = none ∧ SwitchedOn pin history := by
  constructor
  · rintro ⟨before, declaration, rest, h, hdeclares, hlast⟩
    rcases concat_eq_append_cons_iff.mp h with ⟨rfl, _, _⟩ | ⟨more, rfl, rfl⟩
    · cases hlast
    · rw [latest?_concat, Option.or_eq_some_iff] at hlast
      rcases hlast with hon | ⟨hsilent, hmore⟩
      · exact .inl ⟨hon, declaration, by simp, hdeclares⟩
      · exact .inr ⟨hsilent, before, declaration, more, rfl, hdeclares, hmore⟩
  · rintro (⟨hon, declaration, hmem, hdeclares⟩ |
      ⟨hsilent, before, declaration, rest, rfl, hdeclares, hlast⟩)
    · obtain ⟨before, rest, rfl⟩ := List.append_of_mem hmem
      refine ⟨before, declaration, rest ++ [act], by simp, hdeclares, ?_⟩
      rw [latest?_concat, hon, Option.some_or]
    · refine ⟨before, declaration, rest ++ [act], by simp, hdeclares, ?_⟩
      rw [latest?_concat, hsilent, Option.none_or, hlast]

theorem SwitchedOn.exists_declares {pin : Pin} (h : SwitchedOn pin history) :
    ∃ declaration ∈ history, declaration.Declares pin := by
  obtain ⟨before, declaration, rest, rfl, hdeclares, _⟩ := h
  exact ⟨declaration, by simp, hdeclares⟩

end Last

namespace State

/-- The state after these statements, each executed on what the ones before it left. -/
def afterAll (s : State) (history : List Act) : State :=
  history.foldl (fun s act => (act.on s).2) s

theorem afterAll_concat (s : State) (history : List Act) (act : Act) :
    s.afterAll (history ++ [act]) = (act.on (s.afterAll history)).2 := by
  simp [afterAll]

variable (history : List Act)

theorem declared_afterAll (pin : Pin) :
    ((fresh.afterAll history).pins.get pin).declared = true ↔
      ∃ act ∈ history, act.Declares pin := by
  induction history using List.reverseRecOn with
  | nil => simp [afterAll, fresh]
  | append_singleton history act ih =>
      rw [afterAll_concat, (act.does_on _).declared_iff, ih]
      simp only [List.mem_append, List.mem_singleton, or_and_right, exists_or, exists_eq_left]

theorem on_afterAll (pin : Pin) :
    ((fresh.afterAll history).pins.get pin).on = true ↔ SwitchedOn pin history := by
  induction history using List.reverseRecOn with
  | nil =>
      have hnone : ¬SwitchedOn pin [] := fun h => by
        obtain ⟨act, hact, _⟩ := h.exists_declares
        cases hact
      simp [afterAll, fresh, hnone]
  | append_singleton history act ih =>
      have hdeclared := declared_afterAll history pin
      rw [afterAll_concat, (act.does_on _).lit_eq, switchedOn_concat, ← hdeclared, ← ih]
      by_cases hpin : ((fresh.afterAll history).pins.get pin).declared = true
      · rw [if_pos hpin]
        cases act.switchOf? pin with
        | none => simp
        | some on => simp [hpin]
      · -- an undeclared pin is off, whatever was tried
        have hoff : ¬((fresh.afterAll history).pins.get pin).on = true := fun hon =>
          hpin (hdeclared.mpr (ih.mp hon).exists_declares)
        simp [hpin, hoff]

theorem value_afterAll (name : Text) :
    (fresh.afterAll history).bindings.get? name = latest? (Act.valueOf? name) history := by
  induction history using List.reverseRecOn with
  | nil => simp [afterAll, fresh]
  | append_singleton history act ih =>
      rw [afterAll_concat, (act.does_on _).value_eq, latest?_concat, ih]

/-- What was executed decides what the state is. The last part is about one more statement:
`execute` decides what it answers and what it leaves, and after a fault that is all it found. -/
theorem afterAll_records_history (history : List Act) :
    let s := fresh.afterAll history
    (∀ pin, (s.pins.get pin).declared = true ↔ ∃ act ∈ history, act.Declares pin) ∧
    (∀ pin, (s.pins.get pin).on = true ↔ SwitchedOn pin history) ∧
    (∀ pin, (s.pins.get pin).on = true → (s.pins.get pin).declared = true) ∧
    (∀ name, s.bindings.get? name = latest? (Act.valueOf? name) history) ∧
    (∀ name, s.bindings.get? name = none ↔ ∀ act ∈ history, act.valueOf? name = none) ∧
    ∀ act : Act,
      (∀ transition after, execute act.statement act.block? s = .ok (transition, after) →
        act.on s = (.ok transition, after)) ∧
      (∀ fault, execute act.statement act.block? s = .error fault → act.on s = (.error fault, s)) ∧
      (∀ pin on, act.order? = some (.switch pin on) →
        ((act.on s).1 = .error (.pinNotDeclared pin) ↔
          ∀ before ∈ history, ¬before.Declares pin)) ∧
      act.Keeps s (act.on s).2 := by
  intro s
  refine ⟨declared_afterAll history, on_afterAll history, ?_, value_afterAll history, ?_, ?_⟩
  · intro pin hon
    exact (declared_afterAll history pin).mpr ((on_afterAll history pin).mp hon).exists_declares
  · intro name
    rw [value_afterAll, latest?_eq_none_iff]
  · intro act
    have hdoes := act.does_on s
    refine ⟨?_, ?_, ?_, hdoes.keeps⟩
    · intro transition after hexecute
      rw [Act.on, on_perform, hexecute]
    · intro fault hexecute
      rw [Act.on, on_perform, hexecute]
    · intro pin on horder
      rw [hdoes.refused_iff horder, Bool.eq_false_iff, ne_eq, declared_afterAll]
      simp

/-- A pin that is switched too early, then declared, turned off and on; a variable that is set
twice; and lines that fail in between. -/
theorem afterAll_records_history_earlySwitch :
    let history : List Act :=
      [⟨.switch ['1'] true, none⟩, ⟨.declare ['1'], none⟩, ⟨.assign ['x'] .int ['5'], none⟩,
        ⟨.switch ['1'] false, none⟩, ⟨.invalid, none⟩, ⟨.switch ['1'] true, none⟩,
        ⟨.declare ['3'], none⟩, ⟨.assign ['x'] .untyped ['6'], none⟩]
    let s := fresh.afterAll history
    (SwitchedOn .pin1 history ∧ (s.pins.get .pin1).on = true) ∧
    s.bindings.get? ['x'] = some ⟨['6'], .untyped⟩ ∧
    (Act.on ⟨.switch ['9'] true, none⟩ s).1 = .error (.pinNotDeclared .pin9) ∧
    Act.on ⟨.missingSemicolon, none⟩ s = (.error .missingSemicolon, s) := by
  intro history s
  obtain ⟨_, hon, _, hvalue, _, hnext⟩ := afterAll_records_history history
  refine ⟨?_, ?_, ?_, ?_⟩
  · have hlast : latest? (Act.switchOf? .pin1) (history.drop 2) = some true := by decide
    have hswitched : SwitchedOn .pin1 history :=
      ⟨history.take 1, ⟨.declare ['1'], none⟩, history.drop 2, rfl, by decide, hlast⟩
    exact ⟨hswitched, (hon .pin1).mpr hswitched⟩
  · rw [hvalue]
    decide
  · exact ((hnext _).2.2.1 .pin9 true (by decide)).mpr (by decide)
  · exact (hnext _).2.1 _ rfl

end State

end Breadboard
