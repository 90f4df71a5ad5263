import PromptChart.Proofs.Store.Selection

namespace PromptChart

def FilterOperator.isComparison : FilterOperator → Bool
  | .like | .ilike | .within => false
  | _ => true

def Json.number? (j : Json) : Option Binary64 := j.number.toOption

namespace Memory

open Text (lower contains)

/-- Two values side by side: as numbers if both are some, otherwise as texts. -/
def sides (a b : Json) : Operands :=
  match a.number?, b.number? with
  | some x, some y => .numbers x y
  | _, _ => .texts a.plain b.plain

/-- Is an integer beyond every number met when two values are compared? The second is read only
after a number. -/
def overflows (a b : Json) : Bool := isHuge a || (a.number?.isSome && isHuge b)

def meets (operator : FilterOperator) (actual wanted : Json) : Bool :=
  match operator with
  | .like | .ilike => contains (lower actual.plain) (lower wanted.plain)
  | .within =>
    (match wanted with | .array items => items | j => [j]).any fun v => v.plain == actual.plain
  | .eq => (sides actual wanted).eq
  | .neq => !(sides actual wanted).eq
  | .gt => (sides actual wanted).gt
  | .gte => (sides actual wanted).ge
  | .lt => (sides actual wanted).lt
  | .lte => (sides actual wanted).le

def holds (f : Filter) (record : Json) : Bool :=
  !(record.get f.field).isNull && meets f.operator (record.get f.field) f.value

def trips (f : Filter) (record : Json) : Bool :=
  f.operator.isComparison && overflows (record.get f.field) f.value

def holdsAll (filters : List Filter) (record : Json) : Bool := filters.all (holds · record)

/-- Does one of the filters trip over a record that those before it hold of? -/
def tripsAny : List Filter → Json → Bool
  | [], _ => false
  | f :: rest, record => trips f record || (holds f record && tripsAny rest record)

variable {scope : Scope} {members : List (String × Json)}

theorem numeric?_eq (j : Json) :
    numeric? j = if isHuge j then .error .tooLarge else .ok j.number? := by
  cases hhuge : isHuge j with
  | true => rw [numeric?_of_tooLarge (number_of_isHuge hhuge), if_pos rfl]
  | false =>
    rw [if_neg Bool.false_ne_true]
    cases hnumber : j.number with
    | ok x =>
      rw [numeric?_of_ok hnumber, Json.number?, hnumber]
      rfl
    | error f =>
      have hf : f ≠ .tooLarge := by
        rintro rfl
        exact number_ne_tooLarge hhuge hnumber
      rw [numeric?_of_error hnumber hf, Json.number?, hnumber]
      rfl

theorem operands_eq (a b : Json) :
    operands a b = if overflows a b then .error .tooLarge else .ok (sides a b) := by
  rw [operands, numeric?_eq, numeric?_eq, overflows, sides]
  cases isHuge a with
  | true => rfl
  | false =>
    cases a.number? with
    | none => rfl
    | some x =>
      cases hb : isHuge b with
      | true => rfl
      | false => cases b.number? <;> rfl

theorem satisfies_eq (operator : FilterOperator) (actual wanted : Json) :
    satisfies operator actual wanted =
      if operator.isComparison && overflows actual wanted then .error .tooLarge
    else .ok (meets operator actual wanted) := by
  cases operator with
  | like => rfl
  | ilike => rfl
  | within => rfl
  | _ =>
    simp only [satisfies, operands_eq, meets, FilterOperator.isComparison, Bool.true_and]
    split <;> rfl

theorem trips_of_isNull {f : Filter} {record : Json} (h : (record.get f.field).isNull = true) :
    trips f record = false := by
  rw [trips]
  cases hfield : record.get f.field with
  | null => exact Bool.and_false _
  | _ =>
    rw [hfield] at h
    cases h

theorem passes_eq (f : Filter) : passes (.object members) f =
    if trips f (.object members) then .error .tooLarge
    else .ok (holds f (.object members)) := by
  rw [passes_object, holds]
  cases hnull : ((Json.object members).get f.field).isNull with
  | true =>
    rw [trips_of_isNull hnull]
    rfl
  | false => exact satisfies_eq f.operator _ f.value

theorem passesAll_eq (filters : List Filter) : passesAll (.object members) filters =
    if tripsAny filters (.object members) then .error .tooLarge
    else .ok (holdsAll filters (.object members)) := by
  induction filters with
  | nil => rfl
  | cons f rest ih =>
    rw [passesAll, passes_eq, tripsAny, holdsAll, List.all_cons]
    cases trips f (.object members) with
    | true => rfl
    | false =>
      cases holds f (.object members) with
      | false => rfl
      | true => exact ih

def matching (scope : Scope) (filters : List Filter) (records : List Json) : List Json :=
  records.filter fun r => owns scope r && holdsAll filters r

/-- The selection comes to the matching records, unless a filter trips over a record of the
scope. -/
theorem select_eq_matching (filters : List Filter) {records : List Json} (h : IsTable records) :
    select scope filters records =
      if records.any fun r => owns scope r && tripsAny filters r then .error .tooLarge
      else .ok (matching scope filters records) := by
  apply select_eq (holdsAll filters) (tripsAny filters) h
  intro record hrecord
  obtain ⟨members, rfl⟩ := h record hrecord
  exact passesAll_eq filters

end Memory

end PromptChart
