import PromptChart.Catalog.Basic
import PromptChart.Query.Aggregation
import PromptChart.Query.Scope
import PromptChart.Text.Case
import PromptChart.Text.Search

namespace PromptChart

inductive FilterOperator where
  | eq
  | neq
  | gt
  | gte
  | lt
  | lte
  | like
  | ilike
  | within
  deriving DecidableEq, Repr

namespace FilterOperator

def all : List FilterOperator := [.eq, .neq, .gt, .gte, .lt, .lte, .like, .ilike, .within]

def name : FilterOperator → String
  | .eq => "eq"
  | .neq => "neq"
  | .gt => "gt"
  | .gte => "gte"
  | .lt => "lt"
  | .lte => "lte"
  | .like => "like"
  | .ilike => "ilike"
  | .within => "in"

def names : List (String × FilterOperator) := all.map fun op => (op.name, op)

end FilterOperator

/-- A condition on a field; a dynamic one comes from the dashboard's date picker. -/
structure Filter where
  field : String
  operator : FilterOperator
  value : Json
  dynamic : Bool
  deriving Repr

def Filter.toJson (f : Filter) : Json :=
  .object [("field", .text f.field), ("operator", .text f.operator.name), ("value", f.value)]

/-- The fields that records are grouped by: one, or two at once. -/
inductive Grouping where
  | single (field : String)
  | pair (primary secondary : String)
  deriving DecidableEq, Repr

namespace Grouping

def fields : Grouping → List String
  | .single field => [field]
  | .pair primary secondary => [primary, secondary]

def text (g : Grouping) : String := Text.join "," g.fields

def isPair : Grouping → Bool
  | .single _ => false
  | .pair .. => true

end Grouping

/-- One round trip to a store: a metric of the records of a table that pass the filters, summed
up per group; at most `limit` groups are wanted. -/
structure Request where
  table : String
  grouping : Grouping
  metric : String
  aggregation : Aggregation
  filters : List Filter
  limit : Nat
  limit_pos : 0 < limit
  deriving Repr

/-- A group of records, summed up in the store: its label, or its two groups, the value, and how
many records it stands for. -/
structure PartialRow (ν : Type := Binary64) where
  primary : Option String
  secondary : Option String
  label : Option String
  value : Option ν
  count : Int
  deriving DecidableEq, Repr

/-- A store answers a request under a scope with rows, or fails. -/
abbrev Store (ν : Type := Binary64) := Request → Scope → Except Failure (List (PartialRow ν))

def scopedFilters (c : Catalog) (scope : Scope) (filters : List Filter) : List Filter :=
  if scope.isAdmin then filters
  else filters.filter fun f => !c.restrictedFields.contains (Text.lower f.field)

end PromptChart
