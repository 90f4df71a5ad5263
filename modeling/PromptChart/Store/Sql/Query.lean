import PromptChart.Json.Display
import PromptChart.Query.Request
import PromptChart.Text.Search

namespace PromptChart.Sql

/-- A condition on a column, with the name of its parameter. -/
inductive Condition where
  | compare (column operator parameter : String)
  | matching (column parameter : String)
  | anyOf (column parameter : String)
  deriving DecidableEq, Repr

/-- The query for a request, before it is written. -/
structure Query where
  grouping : Grouping
  aggregation : Aggregation
  metric : String
  table : String
  conditions : List Condition
  deriving DecidableEq, Repr

def quote (name : String) : String := "\"" ++ name ++ "\""

namespace Condition

def text : Condition → String
  | .compare column operator parameter => quote column ++ " " ++ operator ++ " :" ++ parameter
  | .matching column parameter => quote column ++ " ILIKE :" ++ parameter
  | .anyOf column parameter => quote column ++ "::text = ANY(:" ++ parameter ++ ")"

end Condition

namespace Query

def selection : Grouping → String
  | .single field => quote field ++ " AS label"
  | .pair primary secondary =>
    quote primary ++ " AS primary_group, " ++ quote secondary ++ " AS secondary_group"

def condition (q : Query) : String :=
  if q.conditions.isEmpty then ""
  else " WHERE " ++ Text.join " AND " (q.conditions.map (·.text))

def text (q : Query) : String :=
  "SELECT " ++ selection q.grouping ++ ", " ++ q.aggregation.keyword ++ "(" ++ quote q.metric ++
    ") AS value, COUNT(*) AS count FROM " ++ quote q.table ++ q.condition ++ " GROUP BY " ++
    Text.join ", " (q.grouping.fields.map quote) ++
    " ORDER BY value DESC NULLS LAST LIMIT :limit"

end Query

/-- A lower-case letter or underscore, then also digits; one line break may follow. -/
def isIdentifier (name : String) : Bool :=
  let letter (c : Char) : Bool := ('a' ≤ c && c ≤ 'z') || c = '_'
  match name.toList with
  | [] => false
  | c :: rest =>
    let tail := rest.dropWhile fun c => letter c || ('0' ≤ c && c ≤ '9')
    letter c && (tail = [] || tail = ['\n'])

def identifier (table : String) (allowed : List String) (name : String) :
    Except Failure String :=
  if isIdentifier name && allowed.contains name then .ok name
  else .error (.query table ("field '" ++ name ++ "' is not in the catalog"))

/-- The sign for a comparison; `none` for the operators that are not comparisons. -/
def sign? : FilterOperator → Option String
  | .eq => some "="
  | .neq => some "!="
  | .gt => some ">"
  | .gte => some ">="
  | .lt => some "<"
  | .lte => some "<="
  | .like | .ilike | .within => none

def Condition.ofFilter (parameter : String) (f : Filter) : Condition × Json :=
  match sign? f.operator with
  | some sign => (.compare f.field sign parameter, f.value)
  | none =>
    match f.operator with
    | .within =>
      let values := match f.value with
        | .array items => items
        | j => [j]
      (.anyOf f.field parameter, .array (values.map fun v => .text v.plain))
    | _ => (.matching f.field parameter, .text ("%" ++ f.value.plain ++ "%"))

/-- The conditions for filters, counted from `index`, with their parameters. -/
def conditions (table : String) (allowed : List String) (index : Nat) :
    List Filter → Except Failure (List (Condition × String × Json))
  | [] => .ok []
  | f :: rest => do
    let _ ← identifier table allowed f.field
    let parameter := "f" ++ toString index
    let (condition, value) := Condition.ofFilter parameter f
    return (condition, parameter, value) :: (← conditions table allowed (index + 1) rest)

/-- One query for a request. Identifiers come from the catalog and are quoted, and every value
is a bound parameter. -/
def compile (c : Catalog) (request : Request) (scope : Scope) :
    Except Failure (Query × List (String × Json)) := do
  let table := request.table
  if !(c.tables.map (·.2)).contains table then
    throw (.query table "table is not in the catalog")
  let _ ← identifier table [table] table
  for field in request.grouping.fields do
    let _ ← identifier table c.columnIds field
  let _ ← identifier table c.columnIds request.metric
  let filtered ← conditions table c.columnIds 0 (scopedFilters c scope request.filters)
  let owner : List (Condition × String × Json) :=
    if scope.isAdmin then []
    else [(.compare "customer_id" "=" "customer_id", "customer_id",
      .int (scope.customer.getD 0))]
  let all := owner ++ filtered
  return (⟨request.grouping, request.aggregation, request.metric, table, all.map (·.1)⟩,
    ("limit", .int request.limit) :: all.map (·.2))

end PromptChart.Sql
