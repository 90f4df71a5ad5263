import Mathlib.Data.List.Forall2
import PromptChart.Validation.Checked

namespace PromptChart.Checked

variable {α β : Type}

@[simp] theorem map_valid (f : α → β) (a : α) : f <$> (valid a : Checked α) = .valid (f a) :=
  rfl

@[simp] theorem map_invalid (f : α → β) (issues : List Issue) :
    f <$> (invalid issues : Checked α) = .invalid issues := rfl

@[simp] theorem seq_eq_also (f : Checked (α → β)) (x : Checked α) : f <*> x = f.also x := rfl

theorem map_eq_valid {f : α → β} {x : Checked α} {b : β} :
    f <$> x = .valid b ↔ ∃ a, x = .valid a ∧ f a = b := by
  cases x with
  | valid a => simp
  | invalid issues => simp

theorem seq_eq_valid {f : Checked (α → β)} {x : Checked α} {b : β} :
    f <*> x = .valid b ↔ ∃ g a, f = .valid g ∧ x = .valid a ∧ g a = b := by
  cases f with
  | valid g => cases x <;> simp [also]
  | invalid issues => cases x <;> simp [also]

theorem under_eq_valid {key : String} {x : Checked α} {a : α} :
    under key x = .valid a ↔ x = .valid a := by
  cases x <;> simp only [under, reduceCtorEq]

theorem record_eq_valid {check : Json → Checked α} {j : Json} {a : α} :
    record check j = .valid a ↔ (∃ members, j = .object members) ∧ check j = .valid a := by
  cases j <;> simp [record, fail]

theorem optional_eq_valid {key : String} {check : Json → Checked α} {default a : α} {j : Json}
    (h : optional key check default j = .valid a) : a = default ∨ ∃ v, check v = .valid a := by
  unfold optional at h
  split at h
  next v _ => exact .inr ⟨v, under_eq_valid.1 h⟩
  next =>
    cases h
    exact .inl rfl

theorem items_eq_valid {check : Json → Checked α} {index : Nat} {js : List Json} {as : List α} :
    items check index js = .valid as ↔ List.Forall₂ (fun j a => check j = .valid a) js as := by
  induction js generalizing index as with
  | nil => simp only [items, valid.injEq, List.forall₂_nil_left_iff, eq_comm]
  | cons j rest ih =>
    simp only [items, seq_eq_valid, map_eq_valid, under_eq_valid, ih,
      List.forall₂_cons_left_iff]
    constructor
    · rintro ⟨_, as, ⟨a, ha, rfl⟩, has, rfl⟩
      exact ⟨a, as, ha, has, rfl⟩
    · rintro ⟨a, as, ha, has, rfl⟩
      exact ⟨_, as, ⟨a, ha, rfl⟩, has, rfl⟩

theorem list_eq_valid {check : Json → Checked α} {j : Json} {as : List α} :
    list check j = .valid as ↔
      ∃ js, j = .array js ∧ List.Forall₂ (fun j a => check j = .valid a) js as := by
  cases j with
  | array js => simp only [list, items_eq_valid, Json.array.injEq, exists_eq_left']
  | _ => simp only [list, fail, reduceCtorEq, false_and, exists_false]

theorem toExcept_eq_ok {x : Checked α} {a : α} : x.toExcept = .ok a ↔ x = .valid a := by
  cases x <;> simp only [toExcept, Except.ok.injEq, valid.injEq, reduceCtorEq]

end PromptChart.Checked
