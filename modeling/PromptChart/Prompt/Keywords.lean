import PromptChart.Catalog.Resolve
import PromptChart.Prompt.Intent
import PromptChart.Regex.Search

namespace PromptChart.Prompt

open Text (lower contains)
open Regex (exactly inOrder firstOf)

def aggregationPhrases : List (Aggregation × Regex) :=
  [(.sum, phrase [.seq (exactly "total") (.opt (exactly "s")), exactly "sum"]),
   (.count, phrase [.seq (exactly "count") (.opt (exactly "s")),
      inOrder [exactly "how", .space, exactly "many"],
      inOrder [exactly "number", .space, exactly "of"]]),
   (.min, phrase [exactly "min", exactly "minimum", exactly "lowest"]),
   (.max, phrase [exactly "max", exactly "maximum", exactly "highest"])]
where
  phrase (rs : List Regex) : Regex := inOrder [.boundary, firstOf rs, .boundary]

/-- The aggregation that a prompt asks for, the average if it names none. -/
def aggregation (prompt : String) : Aggregation :=
  match aggregationPhrases.find? fun p => p.2.isIn (lower prompt) with
  | some (kind, _) => kind
  | none => .avg

def metricHints : List (List String × String) :=
  [(["weight"], "weight"), (["miles", "mileage"], "miles"), (["count", "how many"], "load_id")]

/-- The metric that the last hint in the text gives, the default metric if there is no hint. -/
def hintedMetric (c : Catalog) (lowered : String) : String :=
  metricHints.foldl
    (fun metric hint => if hint.1.any (contains lowered) then hint.2 else metric)
    c.defaultMetric

def hasMetricKeyword (c : Catalog) (prompt : String) : Bool :=
  c.promptKeywords.any (contains (lower prompt))

/-- The products found so far with their places, and the next one, unless a product found so far
shadows it. -/
def addProduct (text : String) (found : List (Nat × String)) (p : Product) :
    List (Nat × String) :=
  if p.shadowedBy.any fun label => found.any (·.2 = label) then found
  else
    match p.position? text with
    | some place => found ++ [(place, p.label)]
    | none => found

/-- The labels of the products that a prompt names, in the order of their first appearance. -/
def terms (c : Catalog) (prompt : String) : List String :=
  let found := c.products.foldl (addProduct (lower prompt)) []
  Text.distinct ((found.mergeSort fun a b => a.1 ≤ b.1).map (·.2))

end PromptChart.Prompt
