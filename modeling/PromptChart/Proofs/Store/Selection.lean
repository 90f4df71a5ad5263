import Mathlib.Data.String.Basic
import PromptChart.Execute.Plan
import PromptChart.Proofs.Calendar.Date
import PromptChart.Proofs.Outcome
import PromptChart.Proofs.Store.Scoped
import PromptChart.Store.Memory

namespace PromptChart.Memory

open Text (lower contains)

def IsTable (records : List Json) : Prop :=
  ∀ record ∈ records, ∃ members, record = .object members

def owns (scope : Scope) (record : Json) : Bool :=
  scope.isAdmin || (record.get "customer_id").sameScalar (.int (scope.customer.getD 0))

def mentions (c : Catalog) (term : String) (record : Json) : Bool :=
  !(record.get c.textField).isNull && contains (lower (record.get c.textField).plain)
    (lower term)

def isWithin (c : Catalog) (range : Option DateRange) (record : Json) : Bool :=
  match range with
  | none => true
  | some r =>
    let day := record.get c.dateField
    !day.isNull && (r.first.text ≤ day.plain && day.plain ≤ r.last.text)

def isHuge : Json → Bool
  | .int n => !(Binary64.ofInt n).isFinite
  | _ => false

def termRecords (c : Catalog) (scope : Scope) (range : Option DateRange) (term : String)
    (records : List Json) : List Json :=
  records.filter fun r => owns scope r && mentions c term r && isWithin c range r

/-- A record of the term whose day cannot be compared with the range. -/
def hasHugeDay (c : Catalog) (scope : Scope) (range : Option DateRange) (term : String)
    (record : Json) : Bool :=
  owns scope record && mentions c term record &&
    (range.isSome && isHuge (record.get c.dateField))

/-- A record of the scope whose day cannot be compared with the range. -/
def hasHugeDate (c : Catalog) (scope : Scope) (range : Option DateRange)
    (record : Json) : Bool :=
  owns scope record && (range.isSome && isHuge (record.get c.dateField))

variable {c : Catalog} {scope : Scope} {range : Option DateRange} {term day : String}
  {record : Json} {members : List (String × Json)}

theorem field_object (name : String) :
    field name (.object members) = .ok ((Json.object members).get name) :=
  rfl

theorem visible_object :
    visible scope (.object members) = .ok (owns scope (.object members)) := by
  unfold visible owns
  cases hadmin : scope.isAdmin with
  | true => rfl
  | false =>
    simp only [Bool.false_eq_true, ↓reduceIte, field_object, ok_bind, pure_eq_ok, Bool.false_or]
    cases hcustomer : scope.customer with
    | none => simp [Scope.isAdmin, hcustomer] at hadmin
    | some id => rfl

theorem passes_object (f : Filter) : passes (.object members) f =
    if ((Json.object members).get f.field).isNull then .ok false
    else satisfies f.operator ((Json.object members).get f.field) f.value := by
  rw [passes, field_object, ok_bind]
  cases (Json.object members).get f.field <;> rfl

theorem passes_ofTerm :
    passes (.object members) (Filter.ofTerm c term) =
      .ok (mentions c term (.object members)) := by
  rw [passes_object, mentions]
  cases hnull : ((Json.object members).get c.textField).isNull with
  | true => simp only [Filter.ofTerm, hnull, ↓reduceIte, Bool.not_true, Bool.false_and]
  | false =>
    simp only [Filter.ofTerm, hnull, Bool.false_eq_true, ↓reduceIte, satisfies, Bool.not_false,
      Bool.true_and, Json.plain]

theorem numeric?_of_ok {j : Json} {x : Binary64} (h : j.number = .ok x) :
    numeric? j = .ok (some x) := by
  rw [numeric?, h]

theorem numeric?_of_tooLarge {j : Json} (h : j.number = .error .tooLarge) :
    numeric? j = .error .tooLarge := by
  rw [numeric?, h]

theorem numeric?_of_error {j : Json} {f : Failure} (h : j.number = .error f)
    (hf : f ≠ .tooLarge) :
    numeric? j = .ok none := by
  rw [numeric?, h]
  cases f with
  | tooLarge => exact absurd rfl hf
  | _ => rfl

theorem number_of_isHuge {j : Json} (h : isHuge j = true) : j.number = .error .tooLarge := by
  cases j with
  | int n =>
    have hn : (Binary64.ofInt n).isFinite = false := by simpa [isHuge] using h
    simp only [Json.number, Binary64.ofInt?, hn, Bool.false_eq_true, ↓reduceIte]
  | _ => cases h

theorem number_ne_tooLarge {j : Json} (h : isHuge j = false) : j.number ≠ .error .tooLarge := by
  cases j with
  | int n =>
    have hn : (Binary64.ofInt n).isFinite = true := by simpa [isHuge] using h
    simp only [Json.number, Binary64.ofInt?, hn, ↓reduceIte]
    exact nofun
  | text s =>
    simp only [Json.number]
    split <;> exact nofun
  | _ => exact nofun

theorem exists_numeric? {j : Json} (h : isHuge j = false) : ∃ x, numeric? j = .ok x := by
  cases hj : j.number with
  | ok x => exact ⟨some x, numeric?_of_ok hj⟩
  | error f =>
    refine ⟨none, numeric?_of_error hj ?_⟩
    rintro rfl
    exact number_ne_tooLarge h hj

theorem operands_text {j : Json} (h : Numeral.free? day = none) :
    operands j (.text day) =
      if isHuge j then .error .tooLarge else .ok (.texts j.plain day) := by
  have hday : numeric? (.text day) = .ok none := by
    apply numeric?_of_error (f := .notNumber day)
    · simp only [Json.number, h]
    · exact nofun
  cases hj : isHuge j with
  | true =>
    simp only [operands, numeric?_of_tooLarge (number_of_isHuge hj), error_bind, ↓reduceIte]
  | false =>
    obtain ⟨x, hx⟩ := exists_numeric? hj
    cases x <;> simp only [operands, hx, ok_bind, hday, pure_eq_ok, Bool.false_eq_true,
      ↓reduceIte] <;> rfl

theorem Operands.ge_texts (a b : String) : (Operands.texts a b).ge = decide (b ≤ a) := by
  rw [Bool.eq_iff_iff]
  simp only [Operands.ge, Bool.or_eq_true, decide_eq_true_eq, beq_iff_eq, le_iff_lt_or_eq]
  exact or_congr_right eq_comm

theorem Operands.le_texts (a b : String) : (Operands.texts a b).le = decide (a ≤ b) := by
  rw [Bool.eq_iff_iff]
  simp only [Operands.le, Bool.or_eq_true, decide_eq_true_eq, beq_iff_eq, le_iff_lt_or_eq]

theorem passesAll_append (record : Json) (before after : List Filter) :
    passesAll record (before ++ after) =
      passesAll record before >>=
        fun passed => if passed then passesAll record after else .ok false := by
  induction before with
  | nil => rfl
  | cons f rest ih =>
    rw [List.cons_append, passesAll, passesAll]
    cases hf : passes record f with
    | error e => rfl
    | ok passed =>
      cases passed with
      | false => rfl
      | true => exact ih

theorem passesAll_range : passesAll (.object members) (DateRange.filters c range) =
    if range.isSome && isHuge ((Json.object members).get c.dateField) then .error .tooLarge
    else .ok (isWithin c range (.object members)) := by
  cases range with
  | none => rfl
  | some r =>
    simp only [DateRange.filters, passesAll, passes_object, satisfies, isWithin,
      operands_text r.first.free?_text, operands_text r.last.free?_text, Option.isSome_some,
      Bool.true_and]
    generalize (Json.object members).get c.dateField = j
    cases hhuge : isHuge j with
    | true =>
      have hnull : j.isNull = false := by
        cases j with
        | null => cases hhuge
        | _ => rfl
      simp only [hnull, Bool.false_eq_true, ↓reduceIte]
      rfl
    | false =>
      cases hnull : j.isNull with
      | true =>
        simp only [↓reduceIte, ok_bind, Bool.false_eq_true, pure_eq_ok, Bool.not_true,
          Bool.false_and]
      | false =>
        simp only [Bool.false_eq_true, ↓reduceIte, Except.map, ok_bind, pure_eq_ok,
          Operands.ge_texts, Operands.le_texts, Bool.not_false, Bool.true_and]
        by_cases hfirst : r.first.text ≤ j.plain <;> by_cases hlast : j.plain ≤ r.last.text <;>
          simp [hfirst, hlast]

/-- Where every record can be told to pass, or not to be comparable, a selection fails only over
a record of its own scope. -/
theorem select_eq {filters : List Filter} (keeps huge : Json → Bool) {records : List Json}
    (h : IsTable records) (hpasses : ∀ record ∈ records, passesAll record filters =
      if huge record then .error .tooLarge else .ok (keeps record)) :
    select scope filters records =
      if records.any fun r => owns scope r && huge r then .error .tooLarge
      else .ok (records.filter fun r => owns scope r && keeps r) := by
  induction records with
  | nil => rfl
  | cons record rest ih =>
    obtain ⟨⟨members, rfl⟩, hrest⟩ := List.forall_mem_cons.1 h
    obtain ⟨hpass, hlater⟩ := List.forall_mem_cons.1 hpasses
    simp only [select, visible_object, ok_bind, hpass, ih hrest hlater, List.any_cons,
      List.filter_cons]
    cases howns : owns scope (.object members) with
    | false => simp only [Bool.false_eq_true, ↓reduceIte, Bool.false_and, Bool.false_or]
    | true =>
      cases hhuge : huge (.object members) with
      | true => simp only [↓reduceIte, Bool.true_and, Bool.true_or, error_bind]
      | false =>
        cases hkeeps : keeps (.object members) with
        | false =>
          simp only [Bool.false_eq_true, ↓reduceIte, Bool.true_and, Bool.false_or, ok_bind]
        | true =>
          simp only [Bool.false_eq_true, ↓reduceIte, Bool.true_and, Bool.false_or, ok_bind]
          split <;> rfl

/-- The selection comes to the records of the term, unless one of them has a day that cannot be
compared. -/
theorem select_term {records : List Json} (h : IsTable records) :
    select scope (Filter.ofTerm c term :: DateRange.filters c range) records =
      if records.any (hasHugeDay c scope range term) then .error .tooLarge
      else .ok (termRecords c scope range term records) := by
  have hhuge :
      (fun r =>
        owns scope r && (mentions c term r && (range.isSome && isHuge (r.get c.dateField)))) =
      hasHugeDay c scope range term := by
    funext r
    rw [hasHugeDay, Bool.and_assoc (owns scope r)]
  rw [select_eq (fun r => mentions c term r && isWithin c range r)
    (fun r => mentions c term r && (range.isSome && isHuge (r.get c.dateField))) h, hhuge]
  · simp only [termRecords, Bool.and_assoc]
  · intro record hrecord
    obtain ⟨members, rfl⟩ := h record hrecord
    rw [passesAll, passes_ofTerm, ok_bind, passesAll_range]
    cases mentions c term (.object members) <;> rfl

/-- With the conditions on the day before the one on the term, every record of the scope has to
have a day that can be compared. -/
theorem select_range_term {records : List Json} (h : IsTable records) :
    select scope (DateRange.filters c range ++ [Filter.ofTerm c term]) records =
      if records.any (hasHugeDate c scope range) then .error .tooLarge
      else .ok (termRecords c scope range term records) := by
  have hhuge : (fun r => owns scope r && (range.isSome && isHuge (r.get c.dateField))) =
      hasHugeDate c scope range := rfl
  rw [select_eq (fun r => isWithin c range r && mentions c term r)
    (fun r => range.isSome && isHuge (r.get c.dateField)) h, hhuge]
  · simp only [termRecords, Bool.and_assoc, Bool.and_comm (isWithin c range _)]
  · intro record hrecord
    obtain ⟨members, rfl⟩ := h record hrecord
    rw [passesAll_append, passesAll_range]
    cases range.isSome && isHuge ((Json.object members).get c.dateField) with
    | true => rfl
    | false =>
      simp only [Bool.false_eq_true, ↓reduceIte, ok_bind, passesAll, passes_ofTerm]
      cases isWithin c range (.object members) <;> cases mentions c term (.object members) <;>
        rfl

theorem scopedFilters_range (hdate : c.restrictedFields.contains (lower c.dateField) = false) :
    scopedFilters c scope (DateRange.filters c range) = DateRange.filters c range := by
  unfold scopedFilters
  split
  · rfl
  · cases range with
    | none => rfl
    | some r =>
      simp only [DateRange.filters, List.filter_cons, hdate, Bool.not_false, ↓reduceIte,
        List.filter_nil]

theorem scopedFilters_ofTerm (htext : c.restrictedFields.contains (lower c.textField) = false) :
    scopedFilters c scope [Filter.ofTerm c term] = [Filter.ofTerm c term] := by
  unfold scopedFilters
  split
  · rfl
  · simp only [Filter.ofTerm, List.filter_cons, htext, Bool.not_false, ↓reduceIte,
      List.filter_nil]

theorem isNull_of_mem_termRecords {c : Catalog} {scope : Scope} {range : Option DateRange}
    {term : String} {records : List Json} {r : Json}
    (h : r ∈ termRecords c scope range term records) :
    (r.get c.textField).isNull = false := by
  obtain ⟨-, hr⟩ := List.mem_filter.1 h
  simp only [mentions, Bool.and_eq_true, Bool.not_eq_true'] at hr
  exact hr.1.2.1

end PromptChart.Memory
