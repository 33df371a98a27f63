import Mathlib.Data.List.Induction

/-!
The last word on a question. A history is a list with its latest member at the end. Most members have
nothing to say about the question, and of those that have, the last one counts. A history grows by
one member at a time, so the facts here are about one more member: what the last word is then, where
the history can be cut, and which of its members come up for the first time.
-/

namespace Breadboard

section History

variable {α β : Type} {ask : α → Option β} {history : List α} {last : α}

/-- The last answer that any of these gives. -/
def latest? (ask : α → Option β) (history : List α) : Option β :=
  (history.filterMap ask).getLast?

@[simp]
theorem latest?_nil : latest? ask [] = none := rfl

/-- The last member answers, or else the question goes to the others. -/
theorem latest?_concat :
    latest? ask (history ++ [last]) = (ask last).or (latest? ask history) := by
  rw [latest?, List.filterMap_append, List.getLast?_append]
  cases hask : ask last with
  | none => simp [hask, latest?]
  | some answer => simp [hask]

theorem latest?_eq_none_iff : latest? ask history = none ↔ ∀ a ∈ history, ask a = none := by
  rw [latest?, List.getLast?_eq_none_iff, List.filterMap_eq_nil_iff]

/-- A place in a list that has grown by one is a place of the shorter list or the new one. -/
theorem concat_eq_append_cons_iff {before rest : List α} {other : α} :
    history ++ [last] = before ++ other :: rest ↔
      (rest = [] ∧ history = before ∧ last = other) ∨
        ∃ more, rest = more ++ [last] ∧ history = before ++ other :: more := by
  rcases List.eq_nil_or_concat rest with rfl | ⟨more, final, rfl⟩
  · simp
  · constructor
    · intro h
      have hsplit : history ++ [last] = (before ++ other :: more) ++ [final] := by simpa using h
      obtain ⟨hhistory, hlast⟩ := List.append_inj' hsplit rfl
      cases hlast
      exact .inr ⟨more, by simp, hhistory⟩
    · intro h
      rcases h with ⟨hnil, _⟩ | ⟨other', hmore, rfl⟩
      · simp at hnil
      · rw [hmore]
        simp

/-- A member that comes up again keeps its place. -/
theorem eraseDups_concat [BEq α] [LawfulBEq α] :
    (history ++ [last]).eraseDups =
      if last ∈ history then history.eraseDups else history.eraseDups ++ [last] := by
  rw [List.eraseDups_append]
  by_cases hlast : last ∈ history
  · simp [List.removeAll, hlast]
  · simp [List.removeAll, hlast, List.eraseDups_cons]

end History

end Breadboard
