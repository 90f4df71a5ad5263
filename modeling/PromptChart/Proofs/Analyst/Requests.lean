import PromptChart.Analyst
import PromptChart.Proofs.Execute.Plan

namespace PromptChart

/-- The metric that an intent names; products are always compared by the same one. -/
def Intent.metric : Intent → String
  | .comparison _ => Analyst.comparedMetric
  | .breakdown b => b.metric

theorem Catalog.scopedMetric_not_adminOnly {c : Catalog} (h : c.defaultMetric ∉ c.adminOnlyIds)
    (metric : String) : c.scopedMetric false metric ∉ c.adminOnlyIds := by
  unfold Catalog.scopedMetric
  split
  · exact h
  next hopen => simpa using hopen

namespace Analyst

variable {a : Analyst} {scope : Scope} {range : Option DateRange} {user : Option String}
  {prompt : String}

theorem ask_requests_of_none (h : Prompt.classify a.catalog prompt = none) :
    (a.ask scope range user prompt).requests = [] := by
  simp only [ask, h, passOn]

theorem ask_requests_of_some {intent : Intent}
    (h : Prompt.classify a.catalog prompt = some intent) :
    (a.ask scope range user prompt).requests = (a.follow scope range intent).requests := by
  simp only [ask, h, Inquiry.ofRun]

theorem exists_intent_of_mem_ask {r : Request}
    (hr : r ∈ (a.ask scope range user prompt).requests) :
    ∃ intent, Prompt.classify a.catalog prompt = some intent ∧
      r ∈ (a.follow scope range intent).requests := by
  cases hc : Prompt.classify a.catalog prompt with
  | none =>
    rw [ask_requests_of_none hc] at hr
    cases hr
  | some intent =>
    rw [ask_requests_of_some hc] at hr
    exact ⟨intent, rfl, hr⟩

theorem compare_asks {x : Comparison} {r : Request}
    (hr : r ∈ (a.compare scope range x).requests) :
    x.Asks a.catalog a.settings range (a.catalog.scopedMetric scope.isAdmin comparedMetric) r :=
  Comparison.asks_of_mem_run hr

theorem breakDown_asks {b : Breakdown} {r : Request}
    (hr : r ∈ (a.breakDown scope range b).requests) :
    (a.rescope scope b).Asks a.catalog a.settings r := by
  obtain ⟨plan, hplan, hr⟩ := Breakdown.plan_of_mem_run hr
  exact Breakdown.asks_of_mem_plan hplan hr

theorem breakDown_requests_ne_nil {b : Breakdown} {table : String}
    (htable : b.table a.catalog = .ok table) (hpos : 0 < b.limit a.catalog a.settings) :
    (a.breakDown scope range b).requests ≠ [] := by
  obtain ⟨plan, hplan, hne⟩ : ∃ plan,
    (a.rescope scope b).plan a.catalog a.settings range = .ok plan ∧
      plan.requests ≠ [] := Breakdown.exists_plan htable hpos
  simpa only [breakDown, Breakdown.run, hplan] using hne

theorem metric_of_mem_follow {intent : Intent} {r : Request}
    (hr : r ∈ (a.follow scope range intent).requests) :
    r.metric = a.catalog.scopedMetric scope.isAdmin intent.metric := by
  cases intent with
  | comparison x => exact (compare_asks hr).metric
  | breakdown b => exact (breakDown_asks hr).metric

/-- Every request of a prompt asks for the metric that the prompt was read to name, as far as
the scope may see it. -/
theorem exists_intent_of_mem_requests {r : Request}
    (hr : r ∈ (a.ask scope range user prompt).requests) :
    ∃ intent, Prompt.classify a.catalog prompt = some intent ∧
      r.metric = a.catalog.scopedMetric scope.isAdmin intent.metric := by
  obtain ⟨intent, hc, hr⟩ := exists_intent_of_mem_ask hr
  exact ⟨intent, hc, metric_of_mem_follow hr⟩

/-- No request that a customer's prompt leads to asks for an admin-only metric. -/
theorem ask_metric_not_adminOnly (a : Analyst)
    (h : a.catalog.defaultMetric ∉ a.catalog.adminOnlyIds) (scope : Scope)
    (hs : scope.isAdmin = false) (range : Option DateRange) (user : Option String)
    (prompt : String) :
    ∀ r ∈ (a.ask scope range user prompt).requests, r.metric ∉ a.catalog.adminOnlyIds := by
  intro r hr
  obtain ⟨intent, -, hmetric⟩ := exists_intent_of_mem_requests hr
  rw [hmetric, hs]
  exact Catalog.scopedMetric_not_adminOnly h intent.metric

theorem ask_margin_as_customer :
    let a : Analyst := ⟨.freight, .usual, fun _ _ => .ok [],
      fun _ => .ok Reasoning.mockResponse⟩
    let requests := (a.ask ⟨some 7⟩ none none "average margin by carrier and state").requests
    a.catalog.defaultMetric ∉ a.catalog.adminOnlyIds ∧ (⟨some 7⟩ : Scope).isAdmin = false ∧
      requests.map (·.metric) = ["retail"] ∧
      ∀ r ∈ requests, r.metric ∉ a.catalog.adminOnlyIds := by
  intro a requests
  have hdefault : a.catalog.defaultMetric ∉ a.catalog.adminOnlyIds := by decide
  have hc : Prompt.classify a.catalog "average margin by carrier and state" =
      some (.breakdown ⟨"carrier_name", "origin_state", "margin", .avg, []⟩) := by
    decide +kernel
  have hrequests : requests.map (·.metric) = ["retail"] := by
    simp only [requests, ask_requests_of_some hc]
    rfl
  exact ⟨hdefault, rfl, hrequests, ask_metric_not_adminOnly a hdefault ⟨some 7⟩ rfl none none _⟩

end Analyst

end PromptChart
