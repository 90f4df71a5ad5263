import PromptChart.Analyst
import PromptChart.Proofs.Chart.Visualized

namespace PromptChart

def Visualized.emptyMessage : String :=
  "No data found for this request. Try rephrasing or widening the date range."

def ReasoningResponse.refusal (response : ReasoningResponse) : String :=
  (response.error.filter (!·.isEmpty)).getD "AI could not generate visualization"

theorem Material.chart_visualization (c : Catalog) (scope : Scope) (steps : List Json)
    (v : Visualization) (prompt : Json) :
    Material.chart c scope (.array steps) (.visualization v.toJson prompt) =
      Visualized.chart c v.toJson (.array steps) prompt scope := by
  cases steps <;> rfl

namespace Analyst

variable {a : Analyst} {scope : Scope} {range : Option DateRange} {user : Option String}
  {prompt : String} {chart : Chart}

theorem ask_chart_of_some {intent : Intent}
    (h : Prompt.classify a.catalog prompt = some intent) :
    (a.ask scope range user prompt).chart =
      (fun chart => { chart with intent := some intent }) <$>
        (a.follow scope range intent).result := by
  simp only [ask, h, Inquiry.ofRun]

theorem ask_chart_of_none (h : Prompt.classify a.catalog prompt = none) :
    (a.ask scope range user prompt).chart =
      (fun chart => { chart with intent := none }) <$> (a.passOn scope user prompt).chart := by
  simp only [ask, h]

/-- The chart of a prompt is the one that its reading leads to, or else the one that comes of
passing it on. -/
theorem ask_eq_ok (h : (a.ask scope range user prompt).chart = .ok chart) :
    (Prompt.classify a.catalog prompt = none ∧
      ∃ made, (a.passOn scope user prompt).chart = .ok made ∧
      { made with intent := none } = chart) ∨
    ∃ intent, Prompt.classify a.catalog prompt = some intent ∧
      ∃ made, (a.follow scope range intent).result = .ok made ∧
      { made with intent := some intent } = chart := by
  cases hc : Prompt.classify a.catalog prompt with
  | none =>
    rw [ask_chart_of_none hc] at h
    exact .inl ⟨rfl, map_eq_ok.1 h⟩
  | some intent =>
    rw [ask_chart_of_some hc] at h
    exact .inr ⟨intent, rfl, map_eq_ok.1 h⟩

theorem compare_eq_ok {x : Comparison} (h : (a.compare scope range x).result = .ok chart) :
    let metric := a.catalog.scopedMetric scope.isAdmin comparedMetric
    ∃ points, (x.run a.catalog a.settings a.store scope range metric).result = .ok points ∧
      (if points.isEmpty then
        (x.chart a.catalog metric points).emptied (emptyMessage x.terms range productData)
        else x.chart a.catalog metric points) = chart := by
  exact map_eq_ok.1 h

theorem breakDown_eq_ok {b : Breakdown} (h : (a.breakDown scope range b).result = .ok chart) :
    let b := a.rescope scope b
    let run := b.run a.catalog a.settings a.store scope range
    (∃ data, run.result = .ok data ∧
      (if data.rows.isEmpty then
        (b.chart a.catalog data).emptied (emptyMessage b.terms range (breakdownData b))
        else b.chart a.catalog data) = chart) ∨
    ∃ table detail, run.result = .error (.query table detail) ∧
      .failed .own (Failure.query table detail).message [] = chart := by
  simp only [breakDown] at h
  split at h
  next data hdata =>
    cases h
    exact .inl ⟨data, hdata, rfl⟩
  next table detail hquery =>
    cases h
    exact .inr ⟨table, detail, hquery, rfl⟩
  next => cases h

theorem drawn_eq_ok {response : ReasoningResponse} : a.drawn scope prompt response = .ok chart ↔
    (∃ v rest made, response.success = true ∧ response.visualizations = v :: rest ∧
      Visualized.chart a.catalog v.toJson (.array response.reasoning) (.text prompt) scope =
        .ok made ∧
      (if made.points.isEmpty then made.emptied Visualized.emptyMessage else made) = chart) ∨
    ((response.success = false ∨ response.visualizations = []) ∧
      .failed .service response.refusal response.reasoning = chart) := by
  obtain ⟨success, visualizations, steps, error⟩ := response
  cases success with
  | false => simp [drawn, ReasoningResponse.refusal]
  | true =>
    cases visualizations with
    | nil => simp [drawn, ReasoningResponse.refusal]
    | cons v rest =>
      simp [drawn, Material.chart_visualization, bind_eq_ok, Visualized.emptyMessage]

theorem passOn_eq_ok : (a.passOn scope user prompt).chart = .ok chart ↔
    (∃ response, a.reasoner (reasoningRequest scope user prompt) = .ok response ∧
      a.drawn scope prompt response = .ok chart) ∨
    ∃ fault detail,
      a.reasoner (reasoningRequest scope user prompt) = .error (.reasoning fault detail) ∧
      .failed .service (fault.userMessage detail) [] = chart := by
  simp only [passOn]
  split
  next response hresponse => simp [hresponse]
  next fault detail hfault => simp [hfault]
  next f hother hf =>
    simp only [hf, reduceCtorEq, false_and, exists_false, Except.error.injEq, false_or,
      false_iff]
    rintro ⟨fault, detail, rfl, -⟩
    exact hother fault detail rfl

end Analyst

end PromptChart
