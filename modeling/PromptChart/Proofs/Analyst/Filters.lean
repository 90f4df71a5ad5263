import PromptChart.Proofs.Analyst.Charts
import PromptChart.Proofs.Analyst.Requests
import PromptChart.Proofs.Execute.Failure

namespace PromptChart

variable {c : Catalog} {s : Settings} {range : Option DateRange}

/-- Is a clause one of the conditions of a request? -/
def Request.Carries (r : Request) (clause : String) : Prop :=
  ∃ f ∈ r.filters,
    f.operator = .ilike ∧ ∃ term, f.value = .text term ∧ clause = termClause f.field term

/-- Clauses that requests apply: each is carried by a request and, if there are any, every
request carries one. -/
structure AreApplied (requests : List Request) (clauses : List String) : Prop where
  each : ∀ clause ∈ clauses, ∃ r ∈ requests, r.Carries clause
  every : clauses ≠ [] → ∀ r ∈ requests, ∃ clause ∈ clauses, r.Carries clause

theorem areApplied_nil (requests : List Request) : AreApplied requests [] where
  each := nofun
  every h := absurd rfl h

theorem Request.carries_of_mem {r : Request} {term : String}
    (h : Filter.ofTerm c term ∈ r.filters) :
    r.Carries (termClause c.textField term) :=
  ⟨_, h, rfl, term, rfl, rfl⟩

theorem Request.not_carries_of_filters_eq {r : Request} {clause : String}
    (h : r.filters = DateRange.filters c range) : ¬ r.Carries clause := by
  rintro ⟨f, hf, hoperator, -⟩
  rw [h] at hf
  cases range with
  | none => cases hf
  | some range =>
    simp only [DateRange.filters, List.mem_cons, List.not_mem_nil, or_false] at hf
    obtain rfl | rfl := hf <;> cases hoperator

theorem areApplied_forTerms {terms : List String} {request : String → Except Failure Request}
    {es : Entries String Request} (h : Plan.forTerms terms request = .ok es)
    (hrequest : ∀ term r, request term = .ok r → Filter.ofTerm c term ∈ r.filters) :
    AreApplied (es.map (·.2)) (terms.map (termClause c.textField)) where
  each := by
    intro clause hclause
    obtain ⟨term, hterm, rfl⟩ := List.mem_map.1 hclause
    obtain ⟨e, he, -, hmake⟩ := Plan.exists_mem_of_forTerms h hterm
    exact ⟨e.2, List.mem_map_of_mem he, Request.carries_of_mem (hrequest _ _ hmake)⟩
  every := by
    intro _ r hr
    obtain ⟨e, he, rfl⟩ := List.mem_map.1 hr
    obtain ⟨hterm, hmake⟩ := Plan.mem_forTerms h he
    exact ⟨_, List.mem_map_of_mem hterm, Request.carries_of_mem (hrequest _ _ hmake)⟩

theorem Comparison.areApplied {x : Comparison} {metric : String} {es : Entries String Request}
    (h : x.requests c s range metric = .ok es) :
    AreApplied (es.map (·.2)) (x.terms.map (termClause c.textField)) := by
  apply areApplied_forTerms h
  intro term r hr
  obtain ⟨table, -, hmake⟩ := bind_eq_ok.1 hr
  obtain ⟨-, -, -, -, -, hfilters⟩ := Request.make_eq_ok hmake
  rw [hfilters]
  exact .head _

theorem Breakdown.areApplied_iff {b : Breakdown} {plan : Plan}
    (h : b.plan c s range = .ok plan) :
    AreApplied plan.requests (b.terms.map (termClause c.textField)) ↔
      b.terms = [] ∨ b.primary = c.textField := by
  obtain ⟨table, -, ⟨hper, es, rfl, hes⟩ | ⟨hper, request, rfl, hmake⟩⟩ := plan_cases h
  · have hprimary : b.primary = c.textField := by
      simp only [isPerTerm, Bool.and_eq_true, decide_eq_true_eq] at hper
      exact hper.2
    refine iff_of_true ?_ (.inr hprimary)
    apply areApplied_forTerms hes
    intro term r hmake
    obtain ⟨-, -, -, -, -, hfilters⟩ := Request.make_eq_ok hmake
    rw [hfilters]
    exact List.mem_append_right _ (.head _)
  · obtain ⟨-, -, -, -, -, hfilters⟩ := Request.make_eq_ok hmake
    constructor
    · intro happlied
      by_contra hscoped
      obtain ⟨hterms, -⟩ := not_or.1 hscoped
      obtain ⟨term, rest, hterms⟩ := List.exists_cons_of_ne_nil hterms
      obtain ⟨r, hr, hcarries⟩ := happlied.each (termClause c.textField term) (by simp [hterms])
      obtain rfl := List.mem_singleton.1 hr
      exact Request.not_carries_of_filters_eq hfilters hcarries
    · rintro (hterms | hprimary)
      · rw [hterms]
        exact areApplied_nil _
      · have hterms : b.terms = [] := by simpa [isPerTerm, hprimary] using hper
        rw [hterms]
        exact areApplied_nil _

/-- Can the terms of an intent be conditions of its requests? -/
def Intent.IsScopable (c : Catalog) : Intent → Prop
  | .comparison _ => True
  | .breakdown b => b.terms = [] ∨ b.primary = c.textField

namespace Analyst

variable {a : Analyst} {scope : Scope} {user : Option String} {prompt : String} {chart : Chart}

theorem compare_areApplied {x : Comparison} (h : (a.compare scope range x).result = .ok chart) :
    AreApplied (a.compare scope range x).requests chart.config.filters := by
  obtain ⟨points, hrun, hchart⟩ := map_eq_ok.1 h
  have hfilters : chart.config.filters = x.terms.map (termClause a.catalog.textField) := by
    rw [← hchart]
    dsimp only
    split <;> rfl
  obtain ⟨es, hes, hrequests⟩ := Comparison.exists_requests_of_run hrun
  rw [hfilters, compare, Run.map, hrequests]
  exact Comparison.areApplied hes

theorem breakDown_areApplied_iff {b : Breakdown}
    (h : (a.breakDown scope range b).result = .ok chart)
    (hanswers : ∀ r ∈ (a.breakDown scope range b).requests,
      ∃ rows, a.store r scope = .ok rows) :
    AreApplied (a.breakDown scope range b).requests chart.config.filters ↔
      b.terms = [] ∨ b.primary = a.catalog.textField := by
  have hfatal := (a.rescope scope b).failsOnly_run hanswers
  simp only [breakDown] at h
  split at h
  next data hdata =>
    have hfilters : chart.config.filters = b.terms.map (termClause a.catalog.textField) := by
      cases h
      split <;> rfl
    obtain ⟨plan, hplan, hrequests⟩ := Breakdown.exists_plan_of_run hdata
    rw [hfilters, breakDown, hrequests]
    exact Breakdown.areApplied_iff (b := a.rescope scope b) hplan
  next table detail hquery => cases hfatal _ hquery
  next => cases h

theorem follow_areApplied_iff {intent : Intent}
    (h : (a.follow scope range intent).result = .ok chart)
    (hanswers : ∀ r ∈ (a.follow scope range intent).requests,
      ∃ rows, a.store r scope = .ok rows) :
    AreApplied (a.follow scope range intent).requests chart.config.filters ↔
      intent.IsScopable a.catalog := by
  cases intent with
  | comparison x => exact iff_of_true (compare_areApplied h) trivial
  | breakdown b => exact breakDown_areApplied_iff h hanswers

/-- The filters that the chart of a prompt reports are applied unless the prompt is read as a
breakdown with terms whose primary field is not the one that they are looked up in. -/
theorem reported_filters_iff (a : Analyst) (scope : Scope) (range : Option DateRange)
    (user : Option String) (prompt : String) {intent : Intent}
    (hc : Prompt.classify a.catalog prompt = some intent) {chart : Chart}
    (hchart : (a.ask scope range user prompt).chart = .ok chart)
    (hanswers : ∀ r ∈ (a.ask scope range user prompt).requests,
      ∃ rows, a.store r scope = .ok rows) :
    AreApplied (a.ask scope range user prompt).requests chart.config.filters ↔
      intent.IsScopable a.catalog := by
  rw [ask_requests_of_some hc] at hanswers ⊢
  rw [ask_chart_of_some hc] at hchart
  obtain ⟨followed, hfollow, rfl⟩ := map_eq_ok.1 hchart
  have hiff : AreApplied (a.follow scope range intent).requests followed.config.filters ↔
      intent.IsScopable a.catalog := follow_areApplied_iff hfollow hanswers
  exact hiff

theorem reported_filters_of_drawers :
    let a : Analyst := ⟨.freight, .usual, fun _ _ => .ok [],
      fun _ => .ok Reasoning.mockResponse⟩
    let prompt := "average retail by product and state for drawer"
    let inquiry := a.ask .admin none none prompt
    ∃ intent chart, Prompt.classify a.catalog prompt = some intent ∧ inquiry.chart = .ok chart ∧
      (∀ r ∈ inquiry.requests, ∃ rows, a.store r .admin = .ok rows) ∧
      chart.config.filters = ["description ILIKE '%Drawer%'"] ∧
      AreApplied inquiry.requests chart.config.filters := by
  intro a prompt inquiry
  have hc : Prompt.classify a.catalog prompt =
      some (.breakdown ⟨"description", "origin_state", "retail", .avg, ["Drawer"]⟩) := by
    decide +kernel
  have hanswers : ∀ r ∈ inquiry.requests, ∃ rows, a.store r .admin = .ok rows :=
    fun _ _ => ⟨[], rfl⟩
  obtain ⟨chart, hchart, hfilters⟩ : ∃ chart, inquiry.chart = .ok chart ∧
      chart.config.filters = ["description ILIKE '%Drawer%'"] := by
    simp only [inquiry, ask_chart_of_some hc]
    exact ⟨_, rfl, rfl⟩
  exact ⟨_, chart, hc, hchart, hanswers, hfilters,
    (reported_filters_iff a .admin none none prompt hc hchart hanswers).2 (.inr rfl)⟩

/-- A chart that says it is about drawers, with the data of all shipments. -/
theorem not_forall_reported_filters_applied :
    ¬ ∀ (settings : Settings) (store : Store) (reasoner : Reasoner) (scope : Scope)
      (range : Option DateRange) (user : Option String) (prompt : String) (intent : Intent)
      (chart : Chart),
      let inquiry := Analyst.ask ⟨.freight, settings, store, reasoner⟩ scope range user prompt
      Prompt.classify .freight prompt = some intent → inquiry.chart = .ok chart →
        (∀ r ∈ inquiry.requests, ∃ rows, store r scope = .ok rows) →
        AreApplied inquiry.requests chart.config.filters := by
  intro h
  let a : Analyst := ⟨.freight, .usual, fun _ _ => .ok [], fun _ => .ok Reasoning.mockResponse⟩
  let b : Breakdown := ⟨"carrier_name", "origin_state", "retail", .avg, ["Drawer"]⟩
  have hc : Prompt.classify a.catalog "average retail by carrier and state for drawer" =
      some (.breakdown b) := by
    decide +kernel
  obtain ⟨chart, hchart⟩ : ∃ chart, (a.breakDown .admin none b).result = .ok chart := ⟨_, rfl⟩
  have hask : (a.ask .admin none none "average retail by carrier and state for drawer").chart =
      .ok { chart with intent := some (.breakdown b) } := by
    rw [ask_chart_of_some hc, follow, hchart, map_ok]
  have happlied := h _ _ _ _ _ _ _ _ _ hc hask fun _ _ => ⟨[], rfl⟩
  rw [ask_requests_of_some hc] at happlied
  have hscopable := (breakDown_areApplied_iff hchart fun _ _ => ⟨[], rfl⟩).1 happlied
  exact absurd hscopable (by decide)

end Analyst

end PromptChart
