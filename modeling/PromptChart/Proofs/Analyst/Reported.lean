import PromptChart.Proofs.Analyst.Charts
import PromptChart.Proofs.Analyst.Requests

namespace PromptChart

/-- Is a breakdown what has been run for a chart? Its metric is the one of the chart and of all
requests, which group by its two fields. -/
structure Inquiry.HasRun (i : Inquiry) (chart : Chart) (b : Breakdown) : Prop where
  asks : i.requests ≠ []
  metric : chart.config.yAxis = b.metric
  asked : ∀ r ∈ i.requests, r.metric = b.metric ∧ r.grouping = .pair b.primary b.secondary

theorem Catalog.scopedMetric_eq_self_iff {c : Catalog} {admin : Bool} {metric : String} :
    c.scopedMetric admin metric = metric ↔
      admin = true ∨ metric ∉ c.adminOnlyIds ∨ metric = c.defaultMetric := by
  unfold Catalog.scopedMetric
  cases admin with
  | true => simp
  | false =>
    by_cases hmetric : metric ∈ c.adminOnlyIds
    · simp [hmetric, eq_comm]
    · simp [hmetric]

namespace Analyst

variable {a : Analyst} {scope : Scope} {range : Option DateRange} {user : Option String}
  {prompt : String} {b : Breakdown} {chart : Chart}

theorem breakDown_drawn (h : (a.breakDown scope range b).result = .ok chart)
    (hstatus : chart.status ≠ .error) :
    (a.breakDown scope range b).requests ≠ [] ∧
      chart.config = (a.rescope scope b).config a.catalog := by
  obtain ⟨data, hdata, rfl⟩ | ⟨table, detail, -, rfl⟩ := breakDown_eq_ok h
  · obtain ⟨plan, hplan, hrequests⟩ := Breakdown.exists_plan_of_run hdata
    constructor
    · rw [breakDown, hrequests]
      exact Breakdown.plan_requests_ne_nil hplan
    · split <;> rfl
  · exact absurd rfl hstatus

theorem ask_hasRun_rescope (hc : Prompt.classify a.catalog prompt = some (.breakdown b))
    (h : (a.ask scope range user prompt).chart = .ok chart) (hstatus : chart.status ≠ .error) :
    (a.ask scope range user prompt).HasRun chart (a.rescope scope b) := by
  rw [ask_chart_of_some hc] at h
  obtain ⟨made, hmade, rfl⟩ := map_eq_ok.1 h
  obtain ⟨hne, hconfig⟩ := breakDown_drawn hmade hstatus
  constructor
  · rwa [ask_requests_of_some hc]
  · exact congrArg ChartConfig.yAxis hconfig
  · intro r hr
    rw [ask_requests_of_some hc] at hr
    obtain ⟨-, hgrouping, hmetric, -, -⟩ := breakDown_asks hr
    exact ⟨hmetric, hgrouping⟩

/-- Only the metric can tell the breakdown that has been run from the one that was read. -/
theorem hasRun_iff {i : Inquiry} (h : i.HasRun chart (a.rescope scope b)) :
    i.HasRun chart b ↔ a.catalog.scopedMetric scope.isAdmin b.metric = b.metric := by
  constructor
  · intro hb
    exact h.metric.symm.trans hb.metric
  · intro hmetric
    refine ⟨h.asks, h.metric.trans hmetric, fun r hr => ?_⟩
    obtain ⟨hr, hgrouping⟩ := h.asked r hr
    exact ⟨hr.trans hmetric, hgrouping⟩

/-- A chart of a breakdown reports the breakdown that was read. What has been run is the same
with a metric in scope: the breakdown itself, unless a customer has named an admin-only metric
other than the default one. -/
theorem reported_breakdown_run (hc : Prompt.classify a.catalog prompt = some (.breakdown b))
    (h : (a.ask scope range user prompt).chart = .ok chart)
    (hstatus : chart.status = .ok ∨ chart.status = .empty) :
    chart.intent = some (.breakdown b) ∧
      (a.ask scope range user prompt).HasRun chart (a.rescope scope b) ∧
      ((a.ask scope range user prompt).HasRun chart b ↔ scope.isAdmin = true ∨
        b.metric ∉ a.catalog.adminOnlyIds ∨ b.metric = a.catalog.defaultMetric) := by
  have hintent : chart.intent = some (.breakdown b) := by
    rw [ask_chart_of_some hc] at h
    obtain ⟨made, -, rfl⟩ := map_eq_ok.1 h
    rfl
  have hfine : chart.status ≠ .error := by
    intro herror
    obtain hok | hempty := hstatus
    · cases hok.symm.trans herror
    · cases hempty.symm.trans herror
  have hrun := ask_hasRun_rescope hc h hfine
  exact ⟨hintent, hrun, (hasRun_iff hrun).trans Catalog.scopedMetric_eq_self_iff⟩

def texan : Analyst :=
  ⟨.freight, .usual, fun _ _ => .ok [⟨some "Saia", some "TX", none, some 100, 1⟩],
    fun _ => .ok Reasoning.mockResponse⟩

def marginByCarrier : Breakdown := ⟨"carrier_name", "origin_state", "margin", .avg, []⟩

theorem classify_marginByCarrier :
    Prompt.classify texan.catalog "average margin by carrier and state" =
      some (.breakdown marginByCarrier) := by
  decide +kernel

theorem exists_chart_marginByCarrier : ∃ chart,
    (texan.ask ⟨some 7⟩ none none "average margin by carrier and state").chart = .ok chart ∧
      (chart.status, chart.intent, chart.config.yAxis) =
        (.ok, some (.breakdown marginByCarrier), "retail") := by
  rw [ask_chart_of_some classify_marginByCarrier]
  exact exists_of_toOption_map (by decide +kernel)

theorem reported_breakdown_run_margin :
    let inquiry := texan.ask ⟨some 7⟩ none none "average margin by carrier and state"
    Prompt.classify texan.catalog "average margin by carrier and state" =
      some (.breakdown marginByCarrier) ∧
      ∃ chart, inquiry.chart = .ok chart ∧
        chart.status = .ok ∧ chart.intent = some (.breakdown marginByCarrier) ∧
        inquiry.HasRun chart { marginByCarrier with metric := "retail" } ∧
        ¬ inquiry.HasRun chart marginByCarrier := by
  intro inquiry
  obtain ⟨chart, hchart, hfacts⟩ := exists_chart_marginByCarrier
  have hstatus : chart.status = .ok := congrArg (·.1) hfacts
  obtain ⟨hintent, hrun, hsame⟩ := reported_breakdown_run classify_marginByCarrier hchart
    (.inl hstatus)
  exact ⟨classify_marginByCarrier, chart, hchart, hstatus, hintent, hrun,
    fun hb => absurd (hsame.1 hb) (by decide)⟩

/-- The breakdown that a chart reports need not be the one that has been run. -/
theorem not_forall_reported_run :
    ¬ ∀ (a : Analyst) (scope : Scope) (range : Option DateRange) (user : Option String)
      (prompt : String) (b : Breakdown) (chart : Chart),
      Prompt.classify a.catalog prompt = some (.breakdown b) →
        (a.ask scope range user prompt).chart = .ok chart →
          chart.status = .ok ∨ chart.status = .empty →
          ∃ reported, chart.intent = some (.breakdown reported) ∧
            (a.ask scope range user prompt).HasRun chart reported := by
  intro h
  obtain ⟨chart, hchart, hfacts⟩ := exists_chart_marginByCarrier
  obtain ⟨hstatus, hread⟩ := Prod.mk.inj hfacts
  obtain ⟨hintent, haxis⟩ := Prod.mk.inj hread
  obtain ⟨reported, hreported, hrun⟩ :=
    h texan ⟨some 7⟩ none none _ _ chart classify_marginByCarrier hchart (.inl hstatus)
  cases hintent.symm.trans hreported
  exact absurd (haxis.symm.trans hrun.metric) (by decide)

end Analyst

end PromptChart
