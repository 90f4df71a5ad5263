import PromptChart.Execute.Run
import PromptChart.Proofs.Binary64.Rank
import PromptChart.Proofs.Validation.Checked
import PromptChart.Validation.Query

namespace PromptChart

namespace Checked

theorem isZero_of_toInt? {x : Binary64} (h : x.toInt? = some 0) : x.isZero = true := by
  cases x with
  | finite s i =>
    rw [Binary64.toInt?] at h
    split at h
    next hwhole =>
      have hzero : Binary64.signed s (Binary64.units i / Binary64.unitsPerOne) =
          Binary64.signed false 0 :=
        Option.some.inj h
      obtain ⟨hquotient, -⟩ := Binary64.signed_injective hzero
      have hunits : Binary64.units i = 0 := by
        rw [← Nat.div_add_mod (Binary64.units i) Binary64.unitsPerOne, hquotient, hwhole,
          Nat.mul_zero]
      rw [Binary64.isZero, Binary64.rank, hunits]
      cases s <;> rfl
    · cases h
  | _ => cases h

theorem isZero_of_wholeReal {x : Binary64} (h : wholeReal x = .valid 0) : x.isZero = true := by
  rw [wholeReal] at h
  split at h
  · cases h
  · split at h
    next n hn =>
      split at h
      · cases h
        exact isZero_of_toInt? hn
      · cases h
    · cases h

end Checked

namespace PartialRow

def nameData : Option String → Json
  | none => .null
  | some name => .text name

def valueData : Option Binary64 → Json
  | none => .null
  | some x => .float x

def dump (row : PartialRow) : Json :=
  .object [("primary_group", nameData row.primary), ("secondary_group", nameData row.secondary),
    ("label", nameData row.label), ("value", valueData row.value), ("count", .int row.count)]

def rebuilt (term : String) (row : PartialRow) : Json :=
  .object [("primary_group", .text term),
    ("secondary_group", .text ((nonempty? row.secondary).getD unknownGroup)),
    ("value", valueData row.value), ("count", .int row.count)]

def counted (row : PartialRow) : PartialRow :=
  { row with count := if row.count = 0 then 1 else row.count }

variable {d : Json} {row : PartialRow} {n : Int}

theorem check_eq_valid : check d = .valid row ↔ (∃ members, d = .object members) ∧
    Checked.optional "primary_group" checkName none d = .valid row.primary ∧
    Checked.optional "secondary_group" checkName none d = .valid row.secondary ∧
    Checked.optional "label" checkName none d = .valid row.label ∧
    Checked.optional "value" (Checked.nullable Checked.real) none d = .valid row.value ∧
    Checked.optional "count" checkCount 1 d = .valid row.count := by
  rw [check, Checked.record_eq_valid]
  simp only [Checked.seq_eq_valid, Checked.map_eq_valid]
  apply and_congr_right
  intro _
  constructor
  · rintro ⟨_, _,
      ⟨_, _, ⟨_, _, ⟨_, _, ⟨_, hprimary, rfl⟩, hsecondary, rfl⟩, hlabel, rfl⟩, hvalue, rfl⟩,
      hcount, rfl⟩
    exact ⟨hprimary, hsecondary, hlabel, hvalue, hcount⟩
  · rintro ⟨hprimary, hsecondary, hlabel, hvalue, hcount⟩
    exact ⟨_, _, ⟨_, _, ⟨_, _, ⟨_, _, ⟨_, hprimary, rfl⟩, hsecondary, rfl⟩, hlabel, rfl⟩,
      hvalue, rfl⟩, hcount, rfl⟩

theorem checkName_nameData (name : Option String) :
    checkName (nameData name) = .valid name := by
  cases name <;> rfl

theorem real_valueData (value : Option Binary64) :
    Checked.nullable Checked.real (valueData value) = .valid value := by
  cases value <;> rfl

theorem checkCount_int (n : Int) : checkCount (.int n) = .valid (if n = 0 then 1 else n) := by
  rw [checkCount, Json.isVacant]
  by_cases hn : n = 0
  · rw [if_pos hn, hn]
    rfl
  · rw [if_neg hn, if_neg (by simpa using hn)]
    rfl

theorem check_dump (row : PartialRow) : check row.dump = .valid row.counted := by
  rw [check_eq_valid]
  refine ⟨⟨_, rfl⟩, ?_, ?_, ?_, ?_, ?_⟩
  · exact Checked.under_eq_valid.2 (checkName_nameData row.primary)
  · exact Checked.under_eq_valid.2 (checkName_nameData row.secondary)
  · exact Checked.under_eq_valid.2 (checkName_nameData row.label)
  · exact Checked.under_eq_valid.2 (real_valueData row.value)
  · exact Checked.under_eq_valid.2 (checkCount_int row.count)

theorem check_rebuilt (term : String) (row : PartialRow) :
    check (row.rebuilt term) = .valid (row.relabel term) := by
  rw [check_eq_valid]
  refine ⟨⟨_, rfl⟩, rfl, rfl, rfl, ?_, ?_⟩
  · exact Checked.under_eq_valid.2 (real_valueData row.value)
  · exact Checked.under_eq_valid.2 (checkCount_int row.count)

/-- Is the count of a row given as a text for zero? -/
def HasZeroText (d : Json) : Prop :=
  ∃ s : String, d.get? "count" = some (.text s) ∧ Checked.wholeText s.toList = .valid 0

theorem checkCount_eq_zero_iff {v : Json} :
    checkCount v = .valid 0 ↔ ∃ s, v = .text s ∧ Checked.wholeText s.toList = .valid 0 := by
  constructor
  · intro h
    cases v with
    | text s =>
      rw [checkCount] at h
      split at h
      · cases h
      · exact ⟨s, rfl, h⟩
    | float x =>
      rw [checkCount] at h
      split at h
      · cases h
      next hvacant => exact absurd (Checked.isZero_of_wholeReal h) hvacant
    | int n =>
      rw [checkCount_int, Checked.valid.injEq] at h
      split at h
      · cases h
      next hn => exact absurd h hn
    | bool b => cases b <;> cases h
    | array items => cases items <;> cases h
    | object members => cases members <;> cases h
    | null => cases h
  · rintro ⟨s, rfl, h⟩
    have hne : ¬ s.isEmpty = true := by
      rw [String.isEmpty_iff]
      rintro rfl
      cases h
    rw [checkCount, Json.isVacant, if_neg hne]
    exact h

theorem count_eq_zero_iff (h : check d = .valid row) : row.count = 0 ↔ HasZeroText d := by
  obtain ⟨-, -, -, -, -, hcount⟩ := check_eq_valid.1 h
  rw [Checked.optional] at hcount
  rw [HasZeroText]
  cases hget : d.get? "count" with
  | none =>
    rw [hget] at hcount
    have hone : 1 = row.count := Checked.valid.inj hcount
    rw [← hone]
    exact iff_of_false (by decide) nofun
  | some v =>
    rw [hget, Checked.under_eq_valid] at hcount
    have hzero : row.count = 0 ↔ checkCount v = .valid 0 := by rw [hcount, Checked.valid.injEq]
    rw [hzero, checkCount_eq_zero_iff]
    simp only [Option.some.injEq]

example : HasZeroText (.object [("count", .text " -00.0 ")]) := ⟨_, rfl, rfl⟩

theorem counted_eq_self_iff : row.counted = row ↔ row.count ≠ 0 := by
  constructor
  · intro h hzero
    have hcount := congrArg PartialRow.count h
    rw [counted, hzero] at hcount
    cases hcount
  · intro h
    rw [counted, if_neg h]

theorem count_counted_ne_zero (row : PartialRow) : row.counted.count ≠ 0 := by
  rw [counted]
  dsimp only
  split
  · decide
  next h => exact h

theorem count_relabel_eq_iff (term : String) :
    (row.relabel term).count = row.count ↔ row.count ≠ 0 := by
  constructor
  · intro h hzero
    rw [relabel, hzero] at h
    cases h
  · exact fun h => if_neg h

/-- A row comes back as it is from a second check exactly if its count was not given as a text
for zero. -/
theorem check_dump_iff (h : check d = .valid row) :
    check row.dump = .valid row ↔ ¬ HasZeroText d := by
  rw [check_dump, Checked.valid.injEq, counted_eq_self_iff, ne_eq, count_eq_zero_iff h]

/-- The count of a row that a payload lists as an integer; one that is null or missing is
one. -/
def listedCount? (d : Json) : Option Int :=
  match d.get "count" with
  | .null => some 1
  | .int n => some n
  | _ => none

theorem count_of_listed (h : check d = .valid row) (hlisted : listedCount? d = some n) :
    row.count = if n = 0 then 1 else n := by
  obtain ⟨-, -, -, -, -, hcount⟩ := check_eq_valid.1 h
  rw [Checked.optional] at hcount
  rw [listedCount?, Json.get] at hlisted
  cases hget : d.get? "count" with
  | none =>
    rw [hget] at hcount hlisted
    cases hlisted
    exact (Checked.valid.inj hcount).symm
  | some v =>
    rw [hget, Checked.under_eq_valid] at hcount
    rw [hget, Option.getD_some] at hlisted
    cases v with
    | null =>
      cases hlisted
      exact (Checked.valid.inj hcount).symm
    | int m =>
      cases hlisted
      rw [checkCount_int] at hcount
      exact (Checked.valid.inj hcount).symm
    | _ => cases hlisted

end PartialRow

end PromptChart
