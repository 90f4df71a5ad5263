import Mathlib.Data.List.Nodup
import PromptChart.Catalog.Freight
import PromptChart.Catalog.Resolve
import PromptChart.Proofs.Text.Words
import PromptChart.Query.Scope

namespace PromptChart

open Text (lower)

/-- Columns with ids that can be told apart in any case, none of them empty. -/
structure Column.AreApart (columns : List Column) : Prop where
  named : ∀ column ∈ columns, column.id ≠ ""
  distinct : (columns.map fun column => lower column.id).Nodup

theorem Column.AreApart.withId?_eq {columns : List Column} {column : Column}
    (h : AreApart columns) (hcolumn : column ∈ columns) :
    withId? columns (lower column.id) = some column := by
  unfold withId?
  cases hfound : columns.find? fun other => lower other.id = lower column.id with
  | none => exact absurd (decide_eq_true rfl) (List.find?_eq_none.1 hfound column hcolumn)
  | some found =>
    have hid : lower found.id = lower column.id := by simpa using List.find?_some hfound
    rw [List.inj_on_of_nodup_map h.distinct (List.mem_of_find?_eq_some hfound) hcolumn hid]

namespace Catalog

variable {c : Catalog} {columns : List Column} {column : Column} {id name : String}

/-- No id stands for both a column that customers see and one that they do not. -/
def SeparatesIds (c : Catalog) : Prop :=
  ∀ id ∈ (c.visibleColumns false).map (·.id), id ∉ c.adminOnlyIds

theorem mapToColumn?_mem {columns : List Column} {id : String}
    (h : c.mapToColumn? columns name = some id) :
    id ∈ columns.map (·.id) := by
  unfold mapToColumn? at h
  split at h
  · cases h
  dsimp only at h
  split at h
  next column hid =>
    cases h
    exact List.mem_map_of_mem (List.mem_of_find?_eq_some hid)
  next =>
    split at h
    next aliases hmapped =>
      cases h
      split at hmapped
      · cases hmapped
      have hthere := List.find?_some hmapped
      simp only [Bool.and_eq_true, List.any_eq_true, decide_eq_true_eq] at hthere
      obtain ⟨⟨column, hcolumn, rfl⟩, -⟩ := hthere
      exact List.mem_map_of_mem hcolumn
    next =>
      obtain ⟨column, hlabel, rfl⟩ := Option.map_eq_some_iff.1 h
      exact List.mem_map_of_mem (List.mem_of_find?_eq_some hlabel)

theorem mapToColumn?_of_lower_eq (h : Column.AreApart columns) (hcolumn : column ∈ columns)
    (hname : lower name = lower column.id) : c.mapToColumn? columns name = some column.id := by
  have hne : name.isEmpty = false := by
    rw [String.isEmpty_eq_false_iff]
    rintro rfl
    exact h.named column hcolumn (Text.lower_eq_empty hname.symm)
  rw [mapToColumn?, hne]
  simp only [Bool.false_eq_true, ↓reduceIte, hname, h.withId?_eq hcolumn]

theorem separatesIds_of_nodup (h : c.columnIds.Nodup) : c.SeparatesIds := by
  intro id hid hadmin
  obtain ⟨column, hcolumn, rfl⟩ := List.mem_map.1 hid
  obtain ⟨other, hother, hsame⟩ := List.mem_map.1 hadmin
  obtain ⟨hcolumn, hopen⟩ := List.mem_filter.1 hcolumn
  obtain ⟨hother, hclosed⟩ := List.mem_filter.1 hother
  obtain rfl := List.inj_on_of_nodup_map h hother hcolumn hsame
  rw [hclosed] at hopen
  exact absurd hopen (by decide)

theorem freight_columnIds_nodup : Catalog.freight.columnIds.Nodup := by decide +kernel

theorem freight_separatesIds : Catalog.freight.SeparatesIds :=
  separatesIds_of_nodup freight_columnIds_nodup

/-- A name means none or one of the columns that it is looked up in, and the id of that column
means the same again, as does every spelling of an id. So if ids are unique, a customer's
columns lead to none that only an admin may see. -/
theorem mapToColumn?_within (c : Catalog) (name : String) :
    (∀ columns, Column.AreApart columns →
      (∀ id ∈ c.mapToColumn? columns name,
        id ∈ columns.map (·.id) ∧ c.mapToColumn? columns id = some id) ∧
      ∀ column ∈ columns,
        lower name = lower column.id → c.mapToColumn? columns name = some column.id) ∧
    (c.columnIds.Nodup → ∀ scope : Scope, scope.isAdmin = false →
      ∀ id ∈ c.mapToColumn? (c.visibleColumns scope.isAdmin) name, id ∉ c.adminOnlyIds) := by
  constructor
  · intro columns h
    refine ⟨fun id hid => ?_,
      fun column hcolumn hname => mapToColumn?_of_lower_eq h hcolumn hname⟩
    have hmem := mapToColumn?_mem hid
    obtain ⟨column, hcolumn, rfl⟩ := List.mem_map.1 hmem
    exact ⟨hmem, mapToColumn?_of_lower_eq h hcolumn rfl⟩
  · intro h scope hscope id hid
    rw [hscope] at hid
    exact separatesIds_of_nodup h id (mapToColumn?_mem hid)

theorem mapToColumn?_within_carrierTotal :
    Column.AreApart (Catalog.freight.visibleColumns false) ∧ Catalog.freight.columnIds.Nodup ∧
      Scope.isAdmin ⟨some 7⟩ = false ∧
      Catalog.freight.mapToColumn? (Catalog.freight.visibleColumns false) "Carrier_Total" =
        some "carrier_name" ∧
      "carrier_name" ∈ (Catalog.freight.visibleColumns false).map (·.id) ∧
      Catalog.freight.mapToColumn? (Catalog.freight.visibleColumns false) "carrier_name" =
        some "carrier_name" ∧
      "carrier_name" ∉ Catalog.freight.adminOnlyIds := by
  have hapart : Column.AreApart (Catalog.freight.visibleColumns false) :=
    ⟨by decide +kernel, by decide +kernel⟩
  have hmeant :
      Catalog.freight.mapToColumn? (Catalog.freight.visibleColumns false) "Carrier_Total" =
      some "carrier_name" := by decide +kernel
  obtain ⟨hwithin, hopen⟩ := mapToColumn?_within .freight "Carrier_Total"
  obtain ⟨hmem, hsame⟩ := (hwithin _ hapart).1 _ hmeant
  exact ⟨hapart, freight_columnIds_nodup, rfl, hmeant, hmem, hsame,
    hopen freight_columnIds_nodup ⟨some 7⟩ rfl _ hmeant⟩

end Catalog

end PromptChart
