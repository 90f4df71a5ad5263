import PromptChart.Proofs.Catalog.Mapped
import PromptChart.Proofs.Chart.Visualized

namespace PromptChart

namespace Catalog

variable {c : Catalog} {name : String}

/-- Is this the id of a column that only an admin may see, and does it mean no column that
customers see? -/
def IsLetThrough (c : Catalog) (name : String) : Prop :=
  name ∈ c.adminOnlyIds ∧ (c.mapToColumn? (c.visibleColumns false) name).all (·.isEmpty) = true

instance (c : Catalog) (name : String) : Decidable (c.IsLetThrough name) :=
  inferInstanceAs (Decidable (_ ∧ _))

/-- In the freight catalog, the carrier total is the only such id that means a column that
customers see. -/
theorem isLetThrough_freight_iff : Catalog.freight.IsLetThrough name ↔
    name ∈ ["cost", "cost_without_tax", "margin", "margin_percent", "linehaul",
      "target_rate"] := by
  have hall : ∀ id ∈ Catalog.freight.adminOnlyIds, Catalog.freight.IsLetThrough id ↔
      id ∈ ["cost", "cost_without_tax", "margin", "margin_percent", "linehaul",
        "target_rate"] := by
    decide +kernel
  have hids :
      ∀ id ∈ ["cost", "cost_without_tax", "margin", "margin_percent", "linehaul",
        "target_rate"],
      id ∈ Catalog.freight.adminOnlyIds := by
    decide +kernel
  constructor
  · intro h
    exact (hall name h.1).1 h
  · intro h
    exact (hall name (hids name h)).2 h

end Catalog

namespace Trace

variable {c : Catalog} {visualization trace prompt : Json}

theorem foldl_addTerm_axes (c : Catalog) (terms : List String) (config : ChartConfig) :
    (terms.foldl (addTerm c) config).xAxis = config.xAxis ∧
      (terms.foldl (addTerm c) config).yAxis = config.yAxis := by
  induction terms generalizing config with
  | nil => exact ⟨rfl, rfl⟩
  | cons term terms ih => exact ih (addTerm c config term)

theorem addStep_eq (c : Catalog) (config : ChartConfig) (step : Json) :
    ∃ found : ChartConfig, found.xAxis = config.xAxis ∧ found.yAxis = config.yAxis ∧
      addStep c config step =
        if found.xAxis.isEmpty then
          { found with xAxis := (firstField? (stepText step)).getD "" }
        else found := by
  simp only [addStep]
  cases aggregation? (Text.lower (stepText step)) with
  | none =>
    obtain ⟨hx, hy⟩ := foldl_addTerm_axes c (lookedUp (stepText step)) config
    exact ⟨_, hx, hy, rfl⟩
  | some a =>
    obtain ⟨hx, hy⟩ := foldl_addTerm_axes c (lookedUp (stepText step))
      { config with aggregation := a.keyword }
    exact ⟨_, hx, hy, rfl⟩

theorem addStep_axes (c : Catalog) (config : ChartConfig) (step : Json) :
    ((addStep c config step).xAxis = config.xAxis ∨
      config.xAxis = "" ∧ firstField? (stepText step) = some (addStep c config step).xAxis) ∧
      (addStep c config step).yAxis = config.yAxis := by
  obtain ⟨found, hx, hy, hstep⟩ := addStep_eq c config step
  rw [hstep]
  split
  next hempty =>
    have hnone : config.xAxis = "" := hx.symm.trans (String.isEmpty_iff.1 hempty)
    refine ⟨?_, hy⟩
    cases firstField? (stepText step) with
    | none => exact .inl hnone.symm
    | some field => exact .inr ⟨hnone, rfl⟩
  next => exact ⟨.inl hx, hy⟩

theorem foldl_addStep_axes (c : Catalog) (steps : List Json) (config : ChartConfig) :
    ((steps.foldl (addStep c) config).xAxis = config.xAxis ∨
      config.xAxis = "" ∧
        ∃ step ∈ steps,
          firstField? (stepText step) = some (steps.foldl (addStep c) config).xAxis) ∧
      (steps.foldl (addStep c) config).yAxis = config.yAxis := by
  induction steps generalizing config with
  | nil => exact ⟨.inl rfl, rfl⟩
  | cons step steps ih =>
    obtain ⟨hrest, hresty⟩ := ih (addStep c config step)
    obtain ⟨hstep, hstepy⟩ := addStep_axes c config step
    rw [List.foldl_cons]
    refine ⟨?_, hresty.trans hstepy⟩
    obtain hkept | ⟨hnone, later, hlater, hfield⟩ := hrest
    · rw [hkept]
      obtain hsame | ⟨hnone, hfield⟩ := hstep
      · exact .inl hsame
      · exact .inr ⟨hnone, step, List.mem_cons_self, hfield⟩
    · refine .inr ⟨?_, later, List.mem_cons_of_mem step hlater, hfield⟩
      obtain hsame | ⟨hnone', -⟩ := hstep
      · exact hsame.symm.trans hnone
      · exact hnone'

/-- The y axis is the metric that a visualization names. The x axis is what it groups by, or
else what a step of the trace does. -/
theorem axes_of_read {read : ChartConfig}
    (h : Trace.read c trace visualization prompt = .ok read) :
    ∃ config, drawn visualization = .ok config ∧ read.yAxis = config.yAxis ∧
      (read.xAxis = config.xAxis ∨
        config.xAxis = "" ∧ ∃ steps, trace.elementsOrNone = .ok steps ∧
        ∃ step ∈ steps, firstField? (stepText step) = some read.xAxis) := by
  obtain ⟨config, hconfig, h⟩ := bind_eq_ok.1 h
  refine ⟨config, hconfig, ?_⟩
  split at h
  next text steps htext hsteps =>
    cases h
    obtain ⟨hx, hy⟩ := foldl_addStep_axes c steps { config with terms := promptTerms c text }
    refine ⟨hy, ?_⟩
    obtain hkept | ⟨hnone, step, hstep, hfield⟩ := hx
    · exact .inl hkept
    · exact .inr ⟨hnone, steps, hsteps, step, hstep, hfield⟩
  next =>
    cases h
    exact ⟨rfl, .inl rfl⟩

end Trace

namespace Visualized

variable {c : Catalog} {visualization trace prompt : Json} {scope : Scope} {made : Chart}

theorem axis_adminOnly_iff (h : c.SeparatesIds) (name : String) :
    axis c false name ∈ c.adminOnlyIds ↔ c.IsLetThrough name := by
  unfold axis Catalog.IsLetThrough
  cases hmeant : c.mapToColumn? (c.visibleColumns false) name with
  | none => simp
  | some id =>
    have hid : id ∉ c.adminOnlyIds := h id (Catalog.mapToColumn?_mem hmeant)
    cases hempty : id.isEmpty with
    | true => simp [hempty]
    | false => simp [hempty, hid]

/-- A customer gets an admin-only column for an axis exactly if the name that was read for the
axis is let through. -/
theorem chart_axes_adminOnly_iff (hids : c.SeparatesIds) (hscope : scope.isAdmin = false)
    (h : chart c visualization trace prompt scope = .ok made) :
    ∃ read, Trace.read c trace visualization prompt = .ok read ∧
      (made.config.xAxis ∈ c.adminOnlyIds ↔ c.IsLetThrough read.xAxis) ∧
      (made.config.yAxis ∈ c.adminOnlyIds ↔ c.IsLetThrough read.yAxis) := by
  obtain ⟨data, read, kind, steps, -, hread, -, -, rfl⟩ := chart_eq_ok.1 h
  refine ⟨read, hread, ?_⟩
  simp only [settle, hscope]
  exact ⟨axis_adminOnly_iff hids read.xAxis, axis_adminOnly_iff hids read.yAxis⟩

def margins : Visualization where
  type := "bar"
  title := "Margins"
  groupBy := none
  metric := some "margin"
  data := [("data", .array [.object [("label", .text "Saia"), ("value", .int 5)]])]

/-- A step that groups by an id that only an admin may see. -/
def byCarrierTotal : Json := .object [("content", .text "group_by: carrier_total")]

theorem chart_axes_of_margins :
    Catalog.freight.SeparatesIds ∧ Scope.isAdmin ⟨some 7⟩ = false ∧
      ∃ made, chart .freight margins.toJson (.array [byCarrierTotal]) (.text "hello") ⟨some 7⟩ =
        .ok made ∧ made.config.xAxis ∉ Catalog.freight.adminOnlyIds ∧
        made.config.yAxis ∈ Catalog.freight.adminOnlyIds := by
  obtain ⟨made, hmade⟩ :
      ∃ made, chart .freight margins.toJson (.array [byCarrierTotal]) (.text "hello") ⟨some 7⟩ =
        .ok made :=
    (exists_chart_iff (List.forall_mem_singleton.2 rfl)).2 rfl
  obtain ⟨read, hread, hx, hy⟩ :=
    chart_axes_adminOnly_iff Catalog.freight_separatesIds rfl hmade
  have haxes :
      (Trace.read .freight (.array [byCarrierTotal]) margins.toJson
        (.text "hello")).toOption.map
      (fun read => (read.xAxis, read.yAxis)) = some ("carrier_total", "margin") := by
    decide +kernel
  rw [hread] at haxes
  obtain ⟨hxread, hyread⟩ := Prod.mk.inj (Option.some.inj haxes)
  rw [hxread, Catalog.isLetThrough_freight_iff] at hx
  rw [hyread, Catalog.isLetThrough_freight_iff] at hy
  exact ⟨Catalog.freight_separatesIds, rfl, made, hmade, mt hx.1 (by decide), hy.2 (by decide)⟩

theorem not_forall_chart_axes_open :
    ¬ ∀ (visualization trace prompt : Json) (scope : Scope) (made : Chart),
      scope.isAdmin = false → chart .freight visualization trace prompt scope = .ok made →
        made.config.xAxis ∉ Catalog.freight.adminOnlyIds ∧
          made.config.yAxis ∉ Catalog.freight.adminOnlyIds := by
  intro h
  obtain ⟨made, hmade⟩ : ∃ made,
    chart .freight margins.toJson (.array []) (.text "hello") ⟨some 7⟩ = .ok made :=
    (exists_chart_iff (List.forall_mem_nil _)).2 rfl
  refine (h _ _ _ _ made rfl hmade).2 ?_
  obtain ⟨data, read, kind, steps, -, hread, -, -, rfl⟩ := chart_eq_ok.1 hmade
  obtain ⟨config, hconfig, hy, -⟩ := Trace.axes_of_read hread
  cases hconfig
  refine (axis_adminOnly_iff Catalog.freight_separatesIds read.yAxis).2 ?_
  rw [hy, Catalog.isLetThrough_freight_iff]
  decide

end Visualized

end PromptChart
