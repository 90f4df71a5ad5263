import PromptChart.Catalog.Basic
import PromptChart.Prompt.Intent
import PromptChart.Settings
import PromptChart.Validation.Query

namespace PromptChart

def DateRange.filters (c : Catalog) : Option DateRange → List Filter
  | none => []
  | some r =>
    [⟨c.dateField, .gte, .text r.first.text, true⟩,
      ⟨c.dateField, .lte, .text r.last.text, true⟩]

def Filter.ofTerm (c : Catalog) (term : String) : Filter :=
  ⟨c.textField, .ilike, .text term, false⟩

def Request.make (table : String) (grouping : Grouping) (metric : String)
    (aggregation : Aggregation) (filters : List Filter) (limit : Int) :
    Except Failure Request := do
  let ⟨limit, limit_pos⟩ ← (Checked.under "limit" (checkLimit limit)).toExcept
  return { table, grouping, metric, aggregation, filters, limit, limit_pos }

/-- The requests of a run: one for every distinct term, in the order of the terms, or a single
one. -/
inductive Plan where
  | perTerm (requests : Entries String Request)
  | single (request : Request)
  deriving Repr

namespace Plan

def requests : Plan → List Request
  | perTerm requests => requests.map (·.2)
  | single request => [request]

def forTerms (terms : List String) (request : String → Except Failure Request) :
    Except Failure (Entries String Request) :=
  (Text.distinct terms).mapM fun term => (request term).map (term, ·)

end Plan

def Comparison.requests (c : Catalog) (s : Settings) (range : Option DateRange)
    (metric : String) (x : Comparison) : Except Failure (Entries String Request) :=
  Plan.forTerms x.terms fun term => do
    Request.make (← c.table "item") (.single c.textField) metric x.aggregation
      (Filter.ofTerm c term :: DateRange.filters c range) s.categoryLimit

namespace Breakdown

/-- The table with the records of a breakdown: line items have the text that terms are looked up
in. -/
def table (c : Catalog) (b : Breakdown) : Except Failure String :=
  c.table (if b.primary = c.textField || !b.terms.isEmpty then "item" else "shipment")

def isPerTerm (c : Catalog) (b : Breakdown) : Bool :=
  !b.terms.isEmpty && b.primary = c.textField

/-- A breakdown asks once, or once for every term if its primary field is the one that terms
are looked up in. -/
def plan (c : Catalog) (s : Settings) (range : Option DateRange) (b : Breakdown) :
    Except Failure Plan := do
  let table ← b.table c
  let request (filters : List Filter) (limit : Int) : Except Failure Request :=
    Request.make table (.pair b.primary b.secondary) b.metric b.aggregation filters limit
  if b.isPerTerm c then
    .perTerm <$> Plan.forTerms b.terms fun term =>
      request (DateRange.filters c range ++ [Filter.ofTerm c term]) s.categoryLimit
  else .single <$> request (DateRange.filters c range) s.breakdownLimit

end Breakdown

end PromptChart
