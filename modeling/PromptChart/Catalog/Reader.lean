import PromptChart.Catalog.Basic
import PromptChart.Json.Access
import PromptChart.Text.Case

namespace PromptChart

open Text (lower)

def Json.lowerText : Json → Except Failure String
  | .text s => .ok (lower s)
  | _ => .error .noMember

namespace Catalog

def readColumn (j : Json) : Except Failure Column := do
  let id := (← j.entry "id").plain
  return ⟨id, j.plainOr id "label", j.plainOr "" "category", j.plainOr "string" "type",
    !(j.get "admin_only").isVacant⟩

def readProduct (compile : String → Except Failure TermPattern) (j : Json) :
    Except Failure Product := do
  let label := (← j.entry "label").plain
  let patterns ← (← j.elementsAt "patterns").mapM fun
    | .text s => compile s
    | _ => .error .wrongKind
  let shadows ← (j.get "shadowed_by").elementsOrNone
  return ⟨label, patterns, shadows.map Json.plain⟩

/-- An alias table. Of two keys that differ in case only, the later one gives the value. -/
def readAliases (j : Json) : Except Failure (List (String × String)) := do
  return (← j.membersOrNone).foldl (fun acc m => Entries.put (lower m.1) m.2.plain acc) []

def readMapping (m : String × Json) : Except Failure (String × List String) := do
  return (m.1, (← m.2.elements).map fun a => lower a.plain)

def readTables (j : Json) : Except Failure (List (String × String)) :=
  match j.present? with
  | none => .ok []
  | some (.object members) => .ok (members.map fun m => (m.1, m.2.plain))
  | some _ => .error .wrongKind

/-- Two vocabularies: the fields that customers cannot filter on, and the words that they do not
see. -/
def readSecurity (j : Json) : Except Failure (List String × List String) :=
  match j.present? with
  | none => .ok ([], [])
  | some (.object members) => do
    let restricted ← (← (Json.object members).elementsAt "restricted_filter_fields").mapM
      Json.lowerText
    let terms ← (← (Json.object members).elementsAt "admin_terms").mapM Json.lowerText
    return (restricted, terms)
  | some _ => .error .noMember

/-- A catalog, whose patterns may be any that `compile` reads. Keys and vocabulary are kept in
lower case; what is left out has a default. -/
def readWith (compile : String → Except Failure TermPattern) : Json → Except Failure Catalog
  | .object members => do
    let j := Json.object members
    let fieldMappings ← (← (j.get "field_mappings").membersOrNone).mapM readMapping
    let tables ← readTables (j.get "tables")
    let dimensionAliases ← readAliases (j.get "dimension_aliases")
    let metricAliases ← readAliases (j.get "metric_aliases")
    let metricKeywords ← (← j.elementsAt "metric_keywords").mapM Json.lowerText
    let promptKeywords ← (← j.elementsAt "prompt_metric_keywords").mapM Json.lowerText
    let breakdownDimensions ← (← j.elementsAt "breakdown_dimensions").mapM Json.lowerText
    let products ← (← j.elementsAt "product_vocabulary").mapM (readProduct compile)
    let (restrictedFields, adminTerms) ← readSecurity (j.get "security")
    let columns ← (← j.elementsAt "columns").mapM readColumn
    return {
      version := (j.get? "version").getD (.int 1)
      defaultMetric := j.plainOr "retail" "default_metric"
      defaultDimension := j.plainOr "description" "default_dimension"
      textField := j.plainOr "description" "text_search_field"
      dateField := j.plainOr "pickup_date" "date_field"
      tables, dimensionAliases, metricAliases, metricKeywords, promptKeywords,
      breakdownDimensions, products, fieldMappings, restrictedFields, adminTerms, columns }
  | _ => .error .noMember

def read : Json → Except Failure Catalog := readWith TermPattern.read

end Catalog

end PromptChart
