import PromptChart.Proofs.Analyst.Requests
import PromptChart.Proofs.Catalog.Names
import PromptChart.Proofs.Prompt.Rules
import PromptChart.Proofs.Store.Scoped

namespace PromptChart

variable {c : Catalog} {s : Settings} {scope : Scope} {range : Option DateRange} {r : Request}

/-- All names of a request are names of the catalog. -/
structure Request.IsNamed (c : Catalog) (r : Request) : Prop where
  table : r.table ∈ c.tables.map (·.2)
  grouping : ∀ field ∈ r.grouping.fields, field ∈ c.columnIds
  metric : r.metric ∈ c.columnIds
  filters : ∀ f ∈ r.filters, f.field ∈ c.columnIds

theorem Request.IsNamed.isCompilable (h : r.IsNamed c) (hc : c.IsWellNamed) (scope : Scope) :
    Sql.IsCompilable c r scope where
  table_mem := h.table
  table := hc.tables _ h.table
  fields field hfield := hc.isUsable (h.grouping field hfield)
  metric := hc.isUsable h.metric
  filters f hf := hc.isUsable (h.filters f (scopedFilters_subset c scope _ hf))

theorem Catalog.IsWellNamed.dateFilters_mem (hc : c.IsWellNamed) :
    ∀ f ∈ DateRange.filters c range, f.field ∈ c.columnIds := by
  cases range with
  | none => nofun
  | some range => simp [DateRange.filters, hc.dateField]

theorem Comparison.Asks.isNamed {x : Comparison} {metric : String}
    (h : x.Asks c s range metric r) (hc : c.IsWellNamed) (hmetric : metric ∈ c.columnIds) :
    r.IsNamed c where
  table := Catalog.table_mem h.table
  grouping := by
    rw [h.grouping, Grouping.fields, List.forall_mem_singleton]
    exact hc.textField
  metric := h.metric ▸ hmetric
  filters := by
    obtain ⟨term, -, hfilters⟩ := h.filters
    rw [hfilters, List.forall_mem_cons]
    exact ⟨hc.textField, hc.dateFilters_mem⟩

/-- The fields and the metric of a breakdown are columns. -/
structure Breakdown.IsNamed (c : Catalog) (b : Breakdown) : Prop where
  primary : b.primary ∈ c.columnIds
  secondary : b.secondary ∈ c.columnIds
  metric : b.metric ∈ c.columnIds

namespace Breakdown

variable {b : Breakdown}

theorem Filtered.field_mem {filters : List Filter} (h : b.Filtered c range filters)
    (hc : c.IsWellNamed) :
    ∀ f ∈ filters, f.field ∈ c.columnIds := by
  cases h with
  | perTerm =>
    rw [List.forall_mem_append, List.forall_mem_singleton]
    exact ⟨hc.dateFilters_mem, hc.textField⟩
  | single => exact hc.dateFilters_mem

theorem IsNamed.request (h : b.IsNamed c) (hc : c.IsWellNamed) {store : Store}
    (hr : r ∈ (b.run c s store scope range).requests) : r.IsNamed c := by
  obtain ⟨plan, hplan, hr⟩ := plan_of_mem_run hr
  have hasks := asks_of_mem_plan hplan hr
  refine ⟨Catalog.table_mem hasks.table, ?_, hasks.metric ▸ h.metric,
    (filtered_of_mem_plan hplan hr).field_mem hc⟩
  rw [hasks.grouping, Grouping.fields, List.forall_mem_cons, List.forall_mem_singleton]
  exact ⟨h.primary, h.secondary⟩

end Breakdown

theorem Prompt.IsRead.isNamed {lowered : String} {b : Breakdown} (h : Prompt.IsRead c lowered b)
    (hc : c.IsWellNamed) : b.IsNamed c where
  primary := by
    obtain hdefault | ⟨token, htoken⟩ := h.primary
    · exact hdefault ▸ hc.defaultDimension
    · exact hc.dimension?_mem htoken
  secondary := by
    obtain ⟨token, htoken⟩ := h.secondary
    exact hc.dimension?_mem htoken
  metric := by
    obtain ⟨token, hmetric⟩ | hmetric := h.metric
    · exact hmetric ▸ hc.metric_mem token
    · exact hmetric ▸ hc.hintedMetric_mem lowered

namespace Analyst

variable {a : Analyst} {user : Option String} {prompt : String}

theorem isNamed_of_mem_ask (hc : a.catalog.IsWellNamed)
    (hr : r ∈ (a.ask scope range user prompt).requests) :
    r.IsNamed a.catalog := by
  obtain ⟨intent, hintent, hr⟩ := exists_intent_of_mem_ask hr
  cases intent with
  | comparison x => exact (compare_asks hr).isNamed hc (hc.scopedMetric_mem _ hc.comparedMetric)
  | breakdown b =>
    obtain ⟨hprimary, hsecondary, hmetric⟩ := (Prompt.classify_isRead hintent).isNamed hc
    have hrescoped : (a.rescope scope b).IsNamed a.catalog :=
      ⟨hprimary, hsecondary, hc.scopedMetric_mem _ hmetric⟩
    exact hrescoped.request hc hr

/-- Whatever is asked of the store on behalf of a prompt has a query under the scope of the
prompt, and all of its filters, those that a customer's query leaves out among them, are on
columns. -/
theorem ask_compiles (settings : Settings) (store : Store) (reasoner : Reasoner) (scope : Scope)
    (range : Option DateRange) (user : Option String) (prompt : String) :
    ∀ r ∈ (Analyst.ask ⟨.freight, settings, store, reasoner⟩ scope range user prompt).requests,
      (∀ f ∈ r.filters, Sql.IsUsable Catalog.freight.columnIds f.field) ∧
        Sql.IsCompilable .freight r scope ∧
        ∃ result, Sql.compile .freight r scope = .ok result := by
  intro r hr
  have hnamed : r.IsNamed .freight := isNamed_of_mem_ask Catalog.freight_isWellNamed hr
  have hcompilable := hnamed.isCompilable Catalog.freight_isWellNamed scope
  exact ⟨fun f hf => Catalog.freight_isWellNamed.isUsable (hnamed.filters f hf), hcompilable, _,
    Sql.compile_eq_ok.2 ⟨hcompilable, rfl⟩⟩

theorem ask_compiles_drawers :
    let day : Date :=
      ⟨2025, 1, 31, by decide, by decide, by decide, by decide, by decide, by decide⟩
    let range : DateRange := ⟨day, day, by decide⟩
    let a : Analyst := ⟨.freight, .usual, fun _ _ => .ok [],
      fun _ => .ok Reasoning.mockResponse⟩
    let requests :=
      (a.ask ⟨some 7⟩ range none "average retail by product and state for drawer").requests
    requests.map (fun r => r.filters.map (·.field)) =
      [["pickup_date", "pickup_date", "description"]] ∧
      ∀ r ∈ requests, ∃ result, Sql.compile .freight r ⟨some 7⟩ = .ok result := by
  intro day range a requests
  have hc : Prompt.classify a.catalog "average retail by product and state for drawer" =
      some (.breakdown ⟨"description", "origin_state", "retail", .avg, ["Drawer"]⟩) := by
    decide +kernel
  have hrequests : requests.map (fun r => r.filters.map (·.field)) =
      [["pickup_date", "pickup_date", "description"]] := by
    simp only [requests, ask_requests_of_some hc]
    rfl
  exact ⟨hrequests, fun r hr => (ask_compiles .usual _ _ ⟨some 7⟩ range none _ r hr).2.2⟩

end Analyst

end PromptChart
