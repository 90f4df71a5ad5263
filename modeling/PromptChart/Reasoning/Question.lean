import PromptChart.Chart.Describe
import PromptChart.Prompt.Keywords

namespace PromptChart.Question

open Text (lower join)

def metricHint (c : Catalog) (admin : Bool) (prompt : String) : String :=
  if Prompt.hasMetricKeyword c (lower prompt) then ""
  else
    "\n\nNOTE: The user didn't specify a metric. Default to " ++
      (if admin then "average cost per shipment"
        else "average retail (your charge) per shipment") ++ "."

/-- The products whose patterns match the prompt, in the order of the catalog. -/
def mentioned (c : Catalog) (prompt : String) : List String :=
  (c.products.filter fun p => (p.position? (lower prompt)).isSome).map (·.label)

def steps (c : Catalog) (index : Nat) : List String → List String
  | [] => []
  | label :: rest =>
    (toString index ++ ". Filter: " ++ termClause c.textField label ++ " -> Return as \"" ++
      label ++ "\" category") :: steps c (index + 1) rest

/-- How to compare the products of a prompt that names at least two. -/
def productHint (c : Catalog) (prompt : String) : String :=
  let labels := mentioned c prompt
  let count := toString labels.length
  if labels.length < 2 then ""
  else
    "\n\nIMPORTANT - PRODUCT COMPARISON DETECTED:\n" ++
      "The user wants to compare these " ++ count ++ " product categories: " ++
      join ", " labels ++ "\n" ++ "You MUST return " ++ count ++
      " SEPARATE data points, one for each category.\n" ++
      "DO NOT combine them into a single value.\n\n" ++
      "For each product term, run a separate query:\n" ++ join "\n" (steps c 1 labels)

def security (c : Catalog) (admin : Bool) : String :=
  if admin then ""
  else
    "\nSECURITY: This user is a CUSTOMER. Never include: " ++
      join ", " ((Text.distinct c.adminOnlyIds).mergeSort (· ≤ ·)) ++
      ". Use 'retail' for financial data."

def ofPrompt (c : Catalog) (admin : Bool) (prompt : String) : String :=
  "Create a dashboard widget visualization.\n\n" ++
    "User request: \"" ++ prompt ++ "\"\n" ++
    metricHint c admin prompt ++ productHint c prompt ++ "\n\n" ++
    "Instructions:\n" ++
    "1. If specific products are mentioned, return SEPARATE data points for EACH " ++
    "product category\n" ++
    "2. Use the appropriate aggregation:\n" ++
    "   - \"average\" or \"avg\" = use AVG aggregation\n" ++
    "   - \"total\" or \"sum\" = use SUM aggregation\n" ++
    "   - \"how many\" or \"count\" = use COUNT aggregation\n" ++
    "3. Search the " ++ c.textField ++ " field for product terms\n" ++
    "4. Limit results to top 15 groups maximum\n" ++
    security c admin ++ "\n\n" ++
    "Return a clear visualization with properly grouped data."

end PromptChart.Question
