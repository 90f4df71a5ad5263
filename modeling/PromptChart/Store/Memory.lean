import PromptChart.Arithmetic
import PromptChart.Entries
import PromptChart.Json.Display
import PromptChart.Order.Insertion
import PromptChart.Query.Request

namespace PromptChart

abbrev Tables := Entries String (List Json)

namespace Memory

open Text (lower contains)

def field (name : String) : Json → Except Failure Json
  | .object members => .ok ((members.lookup name).getD .null)
  | _ => .error .noMember

/-- Two values made comparable: as numbers if both are, otherwise as texts. -/
inductive Operands where
  | numbers (a b : Binary64)
  | texts (a b : String)

/-- The number of a value, if it can be read as one. An integer beyond all numbers is a
failure. -/
def numeric? (j : Json) : Except Failure (Option Binary64) :=
  match j.number with
  | .ok x => .ok (some x)
  | .error .tooLarge => .error .tooLarge
  | .error _ => .ok none

def operands (a b : Json) : Except Failure Operands := do
  match ← numeric? a with
  | none => return .texts a.plain b.plain
  | some x =>
    match ← numeric? b with
    | none => return .texts a.plain b.plain
    | some y => return .numbers x y

namespace Operands

def eq : Operands → Bool
  | .numbers a b => a.eq b
  | .texts a b => a == b

def lt : Operands → Bool
  | .numbers a b => a.lt b
  | .texts a b => a < b

def le : Operands → Bool
  | .numbers a b => a.le b
  | .texts a b => a < b || a == b

def gt : Operands → Bool
  | .numbers a b => b.lt a
  | .texts a b => b < a

def ge : Operands → Bool
  | .numbers a b => b.le a
  | .texts a b => b < a || a == b

end Operands

def satisfies (operator : FilterOperator) (actual wanted : Json) : Except Failure Bool :=
  match operator with
  | .like | .ilike => .ok (contains (lower actual.plain) (lower wanted.plain))
  | .within =>
    let values := match wanted with
      | .array items => items
      | j => [j]
    .ok (values.any fun v => v.plain == actual.plain)
  | .eq => (operands actual wanted).map (·.eq)
  | .neq => (operands actual wanted).map (!·.eq)
  | .gt => (operands actual wanted).map (·.gt)
  | .gte => (operands actual wanted).map (·.ge)
  | .lt => (operands actual wanted).map (·.lt)
  | .lte => (operands actual wanted).map (·.le)

def passes (record : Json) (f : Filter) : Except Failure Bool := do
  match ← field f.field record with
  | .null => return false
  | actual => satisfies f.operator actual f.value

/-- Does a record pass all filters? Those after the first that it does not pass are not looked
at. -/
def passesAll (record : Json) : List Filter → Except Failure Bool
  | [] => .ok true
  | f :: rest => do if ← passes record f then passesAll record rest else return false

def visible (scope : Scope) (record : Json) : Except Failure Bool :=
  if scope.isAdmin then .ok true
  else do
    let owner ← field "customer_id" record
    return match scope.customer with
      | some id => owner.sameScalar (.int id)
      | none => owner.isNull

def select (scope : Scope) (filters : List Filter) : List Json → Except Failure (List Json)
  | [] => .ok []
  | record :: rest => do
    if ← visible scope record then
      if ← passesAll record filters then return record :: (← select scope filters rest)
      else select scope filters rest
    else select scope filters rest

/-- The part of a group's key that a field gives; null is the empty text. -/
def keyPart (record : Json) (name : String) : Except Failure String := do
  match ← field name record with
  | .null => return ""
  | v => return v.plain

/-- The records by the values of the fields that they are grouped by, in the order in which the
groups first come. -/
def groups (fields : List String) (records : List Json) :
    Except Failure (Entries (List String) (List Json)) :=
  records.foldlM (fun acc record => do
    let key ← fields.mapM (keyPart record)
    return acc.put key ((acc.get? key).getD [] ++ [record])) []

variable {ν : Type} [Arithmetic ν]

def values (name : String) : List Json → Except Failure (List ν)
  | [] => .ok []
  | record :: rest => do
    match ← field name record with
    | .null => values name rest
    | v => return (← Arithmetic.read v) :: (← values name rest)

def total (values : List ν) : ν := values.foldl (· + ·) (Arithmetic.ofInt 0)

/-- The values of a group summed up; `records` is how many records there are. -/
def reduce (kind : Aggregation) (records : Nat) (values : List ν) : Option ν :=
  match kind, values with
  | .count, _ => some (Arithmetic.ofInt records)
  | _, [] => none
  | .sum, values => some (total values)
  | .avg, values => some (total values / Arithmetic.ofInt values.length)
  | .min, x :: rest => some (rest.foldl Arithmetic.min x)
  | .max, x :: rest => some (rest.foldl Arithmetic.max x)

def name? (part : String) : Option String := if part.isEmpty then none else some part

def row (request : Request) (key : List String) (members : List Json) :
    Except Failure (PartialRow ν) := do
  let value := reduce request.aggregation members.length (← values request.metric members)
  let count : Int := members.length
  match key with
  | [primary, secondary] => return ⟨name? primary, name? secondary, none, value, count⟩
  | key => return ⟨none, none, name? (key.headD ""), value, count⟩

/-- Is the value of the first row less than that of the second? No value is less than any
value. -/
def rowLess (a b : PartialRow ν) : Bool :=
  match a.value, b.value with
  | none, some _ => true
  | some x, some y => Arithmetic.lt x y
  | _, none => false

/-- The rows with the greatest value first; among equals the first to come is first. -/
def ordered (rows : List (PartialRow ν)) : List (PartialRow ν) :=
  (Order.sort rowLess rows.reverse).reverse

def allRows (c : Catalog) (records : List Json) (request : Request) (scope : Scope) :
    Except Failure (List (PartialRow ν)) := do
  let records ← select scope (scopedFilters c scope request.filters) records
  let grouped ← groups request.grouping.fields records
  return ordered (← grouped.mapM fun (key, members) => row request key members)

/-- A store that holds its tables itself. Records that the scope may see and that pass the
filters are grouped; every group becomes a row, the greatest value first. -/
def store (c : Catalog) (tables : Tables) : Store ν := fun request scope =>
  match tables.get? request.table with
  | none => .error (.query request.table "unknown table")
  | some records => do return (← allRows c records request scope).take request.limit

end Memory

end PromptChart
