import PromptChart.Catalog.Basic
import PromptChart.Text.Case
import PromptChart.Text.Search

namespace PromptChart

open Text (lower contains stripped)

def cleanToken (token : String) : String :=
  String.ofList ((lower token).toList.filter fun c => 'a' ≤ c && c ≤ 'z')

def overlap (a b : String) : Bool := contains b a || contains a b

def Column.withId? (columns : List Column) (lowered : String) : Option Column :=
  columns.find? fun c => lower c.id = lowered

/-- The first column whose label contains the text or is contained in it. -/
def Column.withLabel? (columns : List Column) (lowered : String) : Option Column :=
  columns.find? fun c => overlap (lower c.label) lowered

/-- The id of the column that a token means; tokens of one or two characters are not searched in
labels. -/
def Column.match? (columns : List Column) (token : String) : Option String :=
  let lowered := stripped (lower token)
  if lowered.isEmpty then none
  else
    match Column.withId? columns lowered with
    | some c => some c.id
    | none =>
      if lowered.length < 3 then none else (Column.withLabel? columns lowered).map (·.id)

namespace Catalog

def isDimensionAlias (c : Catalog) (token : String) : Bool :=
  (c.dimensionAliases.lookup (cleanToken token)).isSome

def isMetricKeyword (c : Catalog) (token : String) : Bool :=
  c.metricKeywords.contains (cleanToken token)

def dimensionIn? (c : Catalog) (columns : List Column) (token : String) : Option String :=
  match c.dimensionAliases.lookup (cleanToken token) with
  | some field => some field
  | none => Column.match? columns token

/-- The field that a metric token means, the default metric if it means none. -/
def metricIn (c : Catalog) (columns : List Column) (token : String) : String :=
  match c.metricAliases.lookup (cleanToken token) with
  | some field => field
  | none => (Column.match? columns token).getD c.defaultMetric

def dimension? (c : Catalog) (token : String) : Option String := c.dimensionIn? c.columns token

def metric (c : Catalog) (token : String) : String := c.metricIn c.columns token

/-- The column among the given ones that an outside field name means: by its id, by the names
that outside services use, or by its label. -/
def mapToColumn? (c : Catalog) (columns : List Column) (field : String) : Option String :=
  if field.isEmpty then none
  else
    let lowered := lower field
    match Column.withId? columns lowered with
    | some column => some column.id
    | none =>
      let plain := String.ofList (lowered.toList.filter fun c =>
        ('a' ≤ c && c ≤ 'z') || ('0' ≤ c && c ≤ '9'))
      let mapped :=
        if plain.isEmpty then none
        else c.fieldMappings.find? fun (id, aliases) =>
          columns.any (·.id = id) && aliases.any (overlap plain)
      match mapped with
      | some (id, _) => some id
      | none => (Column.withLabel? columns lowered).map (·.id)

/-- Customers get the default metric in place of one that only an admin may see. -/
def scopedMetric (c : Catalog) (admin : Bool) (metric : String) : String :=
  if !admin && c.adminOnlyIds.contains metric then c.defaultMetric else metric

end Catalog

end PromptChart
