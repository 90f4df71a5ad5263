import PromptChart.Catalog.Freight
import PromptChart.Proofs.Store.Sql.Binding
import PromptChart.Store.Remote

namespace PromptChart

open Text (lower)

def Filter.names (ids : List String) (f : Filter) : Bool :=
  ids.any fun id => lower f.field = lower id

def Catalog.unrestricted (c : Catalog) (ids : List String) : List String :=
  ids.filter fun id => !c.restrictedFields.contains (lower id)

variable {c : Catalog} {scope : Scope} {request : Request}

theorem scopedFilters_subset (c : Catalog) (scope : Scope) (filters : List Filter) :
    scopedFilters c scope filters ⊆ filters := by
  unfold scopedFilters
  split
  · exact List.Subset.refl _
  · exact List.filter_sublist.subset

theorem scopedFilters_append (c : Catalog) (scope : Scope) (before after : List Filter) :
    scopedFilters c scope (before ++ after) = scopedFilters c scope before ++
      scopedFilters c scope after := by
  unfold scopedFilters
  split
  · rfl
  · exact List.filter_append before after

theorem filter_names_scopedFilters (hscope : scope.isAdmin = false) (ids : List String)
    (filters : List Filter) :
    (scopedFilters c scope filters).filter (·.names ids) =
      filters.filter (·.names (c.unrestricted ids)) := by
  rw [scopedFilters, hscope, if_neg Bool.false_ne_true, List.filter_filter]
  refine List.filter_congr fun f _ => ?_
  rw [Bool.eq_iff_iff, Bool.and_eq_true, Filter.names, Filter.names, List.any_eq_true,
    List.any_eq_true]
  constructor
  · rintro ⟨⟨id, hid, hnames⟩, hkept⟩
    rw [of_decide_eq_true hnames] at hkept
    exact ⟨id, List.mem_filter.2 ⟨hid, hkept⟩, hnames⟩
  · rintro ⟨id, hid, hnames⟩
    obtain ⟨hid, hkept⟩ := List.mem_filter.1 hid
    rw [← of_decide_eq_true hnames] at hkept
    exact ⟨⟨id, hid, hnames⟩, hkept⟩

theorem exists_names_scopedFilters_iff (hscope : scope.isAdmin = false) (ids : List String)
    (filters : List Filter) :
    (∃ f ∈ scopedFilters c scope filters, f.names ids = true) ↔
      ∃ f ∈ filters, f.names (c.unrestricted ids) = true := by
  have hnames (f : Filter) :=
    congrArg (f ∈ ·) (filter_names_scopedFilters (c := c) hscope ids filters)
  simpa only [List.mem_filter, eq_iff_iff] using exists_congr fun f => (hnames f).to_iff

namespace Sql

theorem columns_bindings (index : Nat) (filters : List Filter) :
    (bindings index filters).map (·.1.column) = filters.map (·.field) := by
  induction filters generalizing index with
  | nil => rfl
  | cons f rest ih => rw [bindings, List.map_cons, List.map_cons, column_ofFilter, ih]

theorem columns_of_compile {query : Query} {parameters : List (String × Json)}
    (hscope : scope.isAdmin = false) (h : compile c request scope = .ok (query, parameters)) :
    query.conditions.map (·.column) =
      "customer_id" :: (scopedFilters c scope request.filters).map (·.field) := by
  obtain ⟨-, hquery⟩ := compile_eq_ok.1 h
  obtain ⟨rfl, -⟩ := Prod.mk.inj hquery
  rw [queryOf, boundConditions, hscope, if_neg Bool.false_ne_true, List.map_map,
    List.singleton_append, List.map_cons, ← columns_bindings 0]
  rfl

end Sql

namespace Catalog

theorem unrestricted_adminOnly_freight :
    Catalog.freight.unrestricted Catalog.freight.adminOnlyIds =
    ["cost_without_tax", "margin_percent", "linehaul", "carrier_total", "target_rate"] := by
  decide +kernel

theorem unrestricted_visible_freight :
    Catalog.freight.unrestricted ((Catalog.freight.visibleColumns false).map (·.id)) =
      (Catalog.freight.visibleColumns false).map (·.id) := by decide +kernel

end Catalog

/-- A customer can filter on an admin-only column of the freight catalog exactly if it is one of
five, and no filter on another column is lost. What is kept is what a remote call and a query
are given. -/
theorem kept_adminOnly_iff (request : Request) {scope : Scope}
    (hscope : scope.isAdmin = false) :
    let kept := scopedFilters .freight scope request.filters
    let others := (Catalog.freight.visibleColumns false).map (·.id)
    ((∃ f ∈ kept, f.names Catalog.freight.adminOnlyIds = true) ↔
      ∃ f ∈ request.filters,
        f.names ["cost_without_tax", "margin_percent", "linehaul", "carrier_total",
          "target_rate"] = true) ∧
    kept.filter (·.names others) = request.filters.filter (·.names others) ∧
    (RemoteStore.body .freight request scope).get "p_filters" = .array (kept.map (·.toJson)) ∧
    ∀ query parameters, Sql.compile .freight request scope = .ok (query, parameters) →
      query.conditions.map (·.column) = "customer_id" :: kept.map (·.field) := by
  intro kept others
  refine ⟨?_, ?_, rfl, fun query parameters h => Sql.columns_of_compile hscope h⟩
  · rw [← Catalog.unrestricted_adminOnly_freight]
    exact exists_names_scopedFilters_iff hscope _ request.filters
  · rw [filter_names_scopedFilters hscope, Catalog.unrestricted_visible_freight]

def costlyLinehauls : Request where
  table := "shipment"
  grouping := .single "carrier_name"
  metric := "retail"
  aggregation := .count
  filters := [⟨"linehaul", .gt, .int 1000, false⟩, ⟨"Cost", .lt, .int 900, false⟩,
    ⟨"dest_state", .eq, .text "TX", false⟩]
  limit := 25
  limit_pos := by decide

theorem kept_adminOnly_costlyLinehauls :
    Scope.isAdmin ⟨some 7⟩ = false ∧
      (∃ f ∈ scopedFilters .freight ⟨some 7⟩ costlyLinehauls.filters,
        f.names Catalog.freight.adminOnlyIds = true) ∧
      ∃ query parameters,
        Sql.compile .freight costlyLinehauls ⟨some 7⟩ = .ok (query, parameters) ∧
        query.conditions.map (·.column) = ["customer_id", "linehaul", "dest_state"] := by
  have hscope : Scope.isAdmin ⟨some 7⟩ = false := rfl
  obtain ⟨hiff, -, -, hcolumns⟩ := kept_adminOnly_iff costlyLinehauls hscope
  have hcompiles :
      ∃ query parameters,
        Sql.compile .freight costlyLinehauls ⟨some 7⟩ = .ok (query, parameters) :=
    ⟨_, _, rfl⟩
  obtain ⟨query, parameters, hquery⟩ := hcompiles
  have hkept : (scopedFilters .freight ⟨some 7⟩ costlyLinehauls.filters).map (·.field) =
      ["linehaul", "dest_state"] := by
    decide +kernel
  refine ⟨hscope, hiff.2 ⟨_, .head _, by decide +kernel⟩, query, parameters, hquery, ?_⟩
  rw [hcolumns query parameters hquery, hkept]

/-- A customer can narrow down what the linehaul of a shipment is. -/
theorem not_forall_kept_open :
    ¬ ∀ (filters : List Filter) (scope : Scope), scope.isAdmin = false →
      ∀ f ∈ scopedFilters .freight scope filters, f.field ∉ Catalog.freight.adminOnlyIds := by
  intro h
  have hkept : (⟨"linehaul", .gt, .int 100, false⟩ : Filter) ∈
      scopedFilters .freight ⟨some 7⟩ [⟨"linehaul", .gt, .int 100, false⟩] := .head _
  exact h _ ⟨some 7⟩ rfl _ hkept (by decide +kernel)

end PromptChart
