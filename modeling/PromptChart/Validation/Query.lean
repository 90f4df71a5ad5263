import PromptChart.Json.Display
import PromptChart.Query.Request
import PromptChart.Validation.Date

namespace PromptChart

open Checked

def Filter.check : Json → Checked Filter :=
  record fun j => Filter.mk
    <$> required "field" text j
    <*> optional "operator" (word .notWord FilterOperator.names) .eq j
    <*> required "value" anything j
    <*> optional "dynamic" truth false j

def Scope.check : Json → Checked Scope :=
  record fun j => Scope.mk <$> optional "customer_id" (nullable whole) none j

def DateRange.of (first last : Date) : Checked DateRange :=
  if h : first.le last = true then .valid ⟨first, last, h⟩ else fail .inconsistent

def DateRange.check : Json → Checked DateRange :=
  record fun j =>
    (Prod.mk <$> required "start" date j <*> required "end" date j).andThen fun (first, last) =>
      DateRange.of first last

def Grouping.check : Json → Checked Grouping
  | .array [] => fail .listTooShort
  | .array [a] => Grouping.single <$> under "0" (Checked.text a)
  | .array [a, b] => Grouping.pair <$> under "0" (Checked.text a) <*> under "1" (Checked.text b)
  | .array _ => fail .listTooLong
  | _ => fail .notList

def Request.checkLimit (n : Int) : Checked { n : Nat // 0 < n } :=
  if h : 0 < n.toNat then .valid ⟨n.toNat, h⟩ else fail .notPositive

def Aggregation.check : Json → Checked Aggregation := word .notMember Aggregation.names

def Request.check : Json → Checked Request :=
  record fun j =>
    (fun table grouping metric aggregation filters (limit : { n : Nat // 0 < n }) =>
      Request.mk table grouping metric aggregation filters limit.1 limit.2)
    <$> required "table" text j
    <*> required "group_by" Grouping.check j
    <*> required "metric" text j
    <*> required "aggregation" Aggregation.check j
    <*> optional "filters" (list Filter.check) [] j
    <*> optional "limit" (fun v => (whole v).andThen Request.checkLimit) ⟨100, by decide⟩ j

namespace PartialRow

def checkName : Json → Checked (Option String)
  | .null => .valid none
  | j => .valid (some j.plain)

def checkCount (j : Json) : Checked Int := if j.isVacant then .valid 1 else whole j

def check : Json → Checked PartialRow :=
  record fun j => PartialRow.mk
    <$> optional "primary_group" checkName none j
    <*> optional "secondary_group" checkName none j
    <*> optional "label" checkName none j
    <*> optional "value" (nullable real) none j
    <*> optional "count" checkCount 1 j

end PartialRow

end PromptChart
