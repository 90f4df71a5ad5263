import PromptChart.Analyst
import PromptChart.Proofs.Entries
import PromptChart.Proofs.Store.Sql.Compile

namespace PromptChart

/-- All fields that prompts can lead to are columns, and columns and tables can be named in a
query. -/
structure Catalog.IsWellNamed (c : Catalog) : Prop where
  columns : ∀ id ∈ c.columnIds, Sql.isIdentifier id = true
  tables : ∀ name ∈ c.tables.map (·.2), Sql.isIdentifier name = true
  dimensionAliases : ∀ e ∈ c.dimensionAliases, e.2 ∈ c.columnIds
  metricAliases : ∀ e ∈ c.metricAliases, e.2 ∈ c.columnIds
  hints : ∀ hint ∈ Prompt.metricHints, hint.2 ∈ c.columnIds
  comparedMetric : Analyst.comparedMetric ∈ c.columnIds
  defaultMetric : c.defaultMetric ∈ c.columnIds
  defaultDimension : c.defaultDimension ∈ c.columnIds
  textField : c.textField ∈ c.columnIds
  dateField : c.dateField ∈ c.columnIds

theorem Catalog.freight_isWellNamed : Catalog.freight.IsWellNamed where
  columns := by decide +kernel
  tables := by decide +kernel
  dimensionAliases := by decide +kernel
  metricAliases := by decide +kernel
  hints := by decide +kernel
  comparedMetric := by decide +kernel
  defaultMetric := by decide +kernel
  defaultDimension := by decide +kernel
  textField := by decide +kernel
  dateField := by decide +kernel

theorem Column.match?_mem {columns : List Column} {token id : String}
    (h : Column.match? columns token = some id) :
    id ∈ columns.map (·.id) := by
  simp only [Column.match?] at h
  split at h
  · cases h
  · split at h
    next column hid =>
      cases h
      exact List.mem_map_of_mem (List.mem_of_find?_eq_some hid)
    next =>
      split at h
      · cases h
      · obtain ⟨column, hlabel, rfl⟩ := Option.map_eq_some_iff.1 h
        exact List.mem_map_of_mem (List.mem_of_find?_eq_some hlabel)

namespace Catalog

variable {c : Catalog} {token field : String}

theorem table_mem {kind table : String} (h : c.table kind = .ok table) :
    table ∈ c.tables.map (·.2) := by
  unfold Catalog.table at h
  split at h
  next name hname =>
    cases h
    exact List.mem_map_of_mem (Entries.mem_of_lookup hname)
  next => cases h

namespace IsWellNamed

theorem isUsable (h : c.IsWellNamed) (hfield : field ∈ c.columnIds) :
    Sql.IsUsable c.columnIds field :=
  ⟨h.columns field hfield, hfield⟩

theorem dimension?_mem (h : c.IsWellNamed) (hfield : c.dimension? token = some field) :
    field ∈ c.columnIds := by
  unfold dimension? dimensionIn? at hfield
  split at hfield
  next target halias =>
    cases hfield
    exact h.dimensionAliases _ (Entries.mem_of_lookup halias)
  next => exact Column.match?_mem hfield

theorem metric_mem (h : c.IsWellNamed) (token : String) : c.metric token ∈ c.columnIds := by
  unfold metric metricIn
  split
  next target halias => exact h.metricAliases _ (Entries.mem_of_lookup halias)
  next =>
    cases hmatch : Column.match? c.columns token with
    | none => exact h.defaultMetric
    | some id => exact Column.match?_mem hmatch

theorem hintedMetric_mem (h : c.IsWellNamed) (lowered : String) :
    Prompt.hintedMetric c lowered ∈ c.columnIds := by
  apply List.foldlRecOn (motive := (· ∈ c.columnIds)) _ _ h.defaultMetric
  intro metric hmetric hint hhint
  split
  · exact h.hints hint hhint
  · exact hmetric

theorem scopedMetric_mem (h : c.IsWellNamed) (admin : Bool) {metric : String}
    (hmetric : metric ∈ c.columnIds) :
    c.scopedMetric admin metric ∈ c.columnIds := by
  unfold scopedMetric
  split
  · exact h.defaultMetric
  · exact hmetric

end IsWellNamed

end Catalog

end PromptChart
