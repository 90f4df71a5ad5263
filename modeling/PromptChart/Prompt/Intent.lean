import PromptChart.Query.Aggregation

namespace PromptChart

/-- Several product terms, compared side by side. -/
structure Comparison where
  terms : List String
  aggregation : Aggregation
  deriving DecidableEq, Repr

/-- One metric, split by two fields at once; terms may narrow it down to products. -/
structure Breakdown where
  primary : String
  secondary : String
  metric : String
  aggregation : Aggregation
  terms : List String
  deriving DecidableEq, Repr

inductive Intent where
  | comparison (c : Comparison)
  | breakdown (b : Breakdown)
  deriving DecidableEq, Repr

end PromptChart
