import PromptChart.Execute.Run
import PromptChart.Proofs.Entries
import PromptChart.Proofs.Outcome

namespace PromptChart

variable {ν : Type} [Arithmetic ν] {c : Catalog} {s : Settings} {scope : Scope}
  {range : Option DateRange}

theorem Request.checkLimit_pos {limit : Int} (h : 0 < limit) :
    Request.checkLimit limit = .valid ⟨limit.toNat, by omega⟩ := by
  have hn : 0 < limit.toNat := by omega
  simp only [Request.checkLimit, hn, ↓reduceDIte]

theorem Request.make_of_pos {table metric : String} {grouping : Grouping}
    {aggregation : Aggregation} {filters : List Filter} {limit : Int} (h : 0 < limit) :
    Request.make table grouping metric aggregation filters limit =
      .ok ⟨table, grouping, metric, aggregation, filters, limit.toNat, by omega⟩ := by
  simp only [Request.make, Request.checkLimit_pos h, Checked.under, Checked.toExcept, ok_bind,
    pure_eq_ok]

theorem Request.make_eq_ok {table metric : String} {grouping : Grouping}
    {aggregation : Aggregation} {filters : List Filter} {limit : Int} {r : Request}
    (h : Request.make table grouping metric aggregation filters limit = .ok r) :
    0 < limit ∧ r.table = table ∧ r.grouping = grouping ∧ r.metric = metric ∧
      r.aggregation = aggregation ∧ r.filters = filters := by
  by_cases hl : 0 < limit
  · rw [Request.make_of_pos hl] at h
    cases h
    exact ⟨hl, rfl, rfl, rfl, rfl, rfl⟩
  · have hn : ¬ 0 < limit.toNat := by omega
    simp only [Request.make, Request.checkLimit, hn, ↓reduceDIte, Checked.fail, Checked.under,
      Checked.toExcept, error_bind] at h
    cases h

theorem Plan.mem_forTerms {terms : List String} {request : String → Except Failure Request}
    {es : Entries String Request} (h : Plan.forTerms terms request = .ok es)
    {e : String × Request} (he : e ∈ es) : e.1 ∈ terms ∧ request e.1 = .ok e.2 := by
  obtain ⟨term, hterm, hmap⟩ := exists_of_mem_mapM h he
  obtain ⟨r, hr, rfl⟩ := map_eq_ok.1 hmap
  exact ⟨Text.mem_distinct.1 hterm, hr⟩

theorem Plan.exists_mem_of_forTerms {terms : List String}
    {request : String → Except Failure Request} {es : Entries String Request}
    (h : Plan.forTerms terms request = .ok es) {term : String}
    (hterm : term ∈ terms) : ∃ e ∈ es, e.1 = term ∧ request term = .ok e.2 := by
  obtain ⟨e, he, hmap⟩ := exists_mem_of_mapM h (Text.mem_distinct.2 hterm)
  obtain ⟨r, hr, rfl⟩ := map_eq_ok.1 hmap
  exact ⟨_, he, rfl, hr⟩

theorem Plan.map_fst_of_forTerms {terms : List String}
    {request : String → Except Failure Request} {es : Entries String Request}
    (h : Plan.forTerms terms request = .ok es) :
    es.map (·.1) = Text.distinct terms := by
  have hterms := mapM_eq_ok.1 h
  rw [← List.forall₂_eq_eq_eq, List.forall₂_map_left_iff]
  apply hterms.flip.imp
  intro e term hmap
  obtain ⟨r, -, rfl⟩ := map_eq_ok.1 hmap
  rfl

theorem Plan.forTerms_of_forall {terms : List String}
    {request : String → Except Failure Request} {r : String → Request}
    (h : ∀ term ∈ terms, request term = .ok (r term)) :
    Plan.forTerms terms request =
      .ok ((Text.distinct terms).map fun term => (term, r term)) := by
  apply mapM_eq_ok_map
  intro term hterm
  rw [h term (Text.mem_distinct.1 hterm)]
  rfl

/-- What all requests of a comparison have in common with it; each has a term of its own among
its filters. -/
structure Comparison.Asks (c : Catalog) (s : Settings) (range : Option DateRange)
    (metric : String) (x : Comparison) (r : Request) : Prop where
  table : c.table "item" = .ok r.table
  grouping : r.grouping = .single c.textField
  metric : r.metric = metric
  aggregation : r.aggregation = x.aggregation
  filters : ∃ term ∈ x.terms, r.filters = Filter.ofTerm c term :: DateRange.filters c range
  limit_pos : 0 < s.categoryLimit

theorem Comparison.asks_of_mem {x : Comparison} {metric : String} {es : Entries String Request}
    (h : x.requests c s range metric = .ok es) {e : String × Request} (he : e ∈ es) :
    x.Asks c s range metric e.2 := by
  obtain ⟨hterm, hrequest⟩ := Plan.mem_forTerms h he
  obtain ⟨table, htable, hmake⟩ := bind_eq_ok.1 hrequest
  obtain ⟨hpos, rfl, hgrouping, hmetric, haggregation, hfilters⟩ := Request.make_eq_ok hmake
  exact ⟨htable, hgrouping, hmetric, haggregation, ⟨e.1, hterm, hfilters⟩, hpos⟩

theorem Comparison.exists_requests_of_run {x : Comparison} {metric : String} {store : Store ν}
    {points : List (Point ν)} (h : (x.run c s store scope range metric).result = .ok points) :
    ∃ es, x.requests c s range metric = .ok es ∧
      (x.run c s store scope range metric).requests = es.map (·.2) := by
  cases hes : x.requests c s range metric with
  | error f =>
    simp only [run, hes, Run.quiet] at h
    cases h
  | ok es => exact ⟨es, rfl, by simp only [run, hes]⟩

theorem Comparison.requests_of_mem_run {x : Comparison} {metric : String} {store : Store ν}
    {r : Request} (hr : r ∈ (x.run c s store scope range metric).requests) :
    ∃ es, x.requests c s range metric = .ok es ∧ ∃ e ∈ es, e.2 = r := by
  unfold Comparison.run at hr
  split at hr
  · cases hr
  next es hes => exact ⟨es, hes, List.mem_map.1 hr⟩

theorem Comparison.asks_of_mem_run {x : Comparison} {metric : String} {store : Store ν}
    {r : Request} (hr : r ∈ (x.run c s store scope range metric).requests) :
    x.Asks c s range metric r := by
  obtain ⟨es, hes, e, he, rfl⟩ := requests_of_mem_run hr
  exact asks_of_mem hes he

namespace Breakdown

def limit (c : Catalog) (s : Settings) (b : Breakdown) : Int :=
  if b.isPerTerm c then s.categoryLimit else s.breakdownLimit

/-- What all requests of a breakdown have in common with it. -/
structure Asks (c : Catalog) (s : Settings) (b : Breakdown) (r : Request) : Prop where
  table : b.table c = .ok r.table
  grouping : r.grouping = .pair b.primary b.secondary
  metric : r.metric = b.metric
  aggregation : r.aggregation = b.aggregation
  limit_pos : 0 < b.limit c s

/-- The conditions of a request of a breakdown: those on the date, and one on its own term if
there is a request for every term. -/
inductive Filtered (c : Catalog) (range : Option DateRange) (b : Breakdown) : List Filter → Prop
  | perTerm {term} (hper : b.isPerTerm c = true) (hterm : term ∈ b.terms) :
    Filtered c range b (DateRange.filters c range ++ [Filter.ofTerm c term])
  | single (hper : b.isPerTerm c = false) : Filtered c range b (DateRange.filters c range)

theorem Filtered.eq_of_single {b : Breakdown} {filters : List Filter}
    (h : b.Filtered c range filters) (hper : b.isPerTerm c = false) :
    filters = DateRange.filters c range := by
  cases h with
  | perTerm htrue => cases hper.symm.trans htrue
  | single => rfl

theorem plan_cases {b : Breakdown} {plan : Plan} (h : b.plan c s range = .ok plan) :
    ∃ table, b.table c = .ok table ∧
      ((b.isPerTerm c = true ∧ ∃ es, plan = .perTerm es ∧ Plan.forTerms b.terms (fun term =>
          Request.make table (.pair b.primary b.secondary) b.metric b.aggregation
            (DateRange.filters c range ++ [Filter.ofTerm c term]) s.categoryLimit) = .ok es) ∨
        (b.isPerTerm c = false ∧ ∃ r, plan = .single r ∧
          Request.make table (.pair b.primary b.secondary) b.metric b.aggregation
            (DateRange.filters c range) s.breakdownLimit = .ok r)) := by
  obtain ⟨table, htable, hplan⟩ := bind_eq_ok.1 h
  refine ⟨table, htable, ?_⟩
  cases hper : b.isPerTerm c with
  | true =>
    simp only [hper, ↓reduceIte] at hplan
    obtain ⟨es, hes, rfl⟩ := map_eq_ok.1 hplan
    exact .inl ⟨rfl, es, rfl, hes⟩
  | false =>
    simp only [hper, Bool.false_eq_true, ↓reduceIte] at hplan
    obtain ⟨r, hmake, rfl⟩ := map_eq_ok.1 hplan
    exact .inr ⟨rfl, r, rfl, hmake⟩

theorem made_of_mem_plan {b : Breakdown} {plan : Plan} (h : b.plan c s range = .ok plan)
    {r : Request} (hr : r ∈ plan.requests) :
    ∃ table filters, b.table c = .ok table ∧ b.Filtered c range filters ∧
      Request.make table (.pair b.primary b.secondary) b.metric b.aggregation filters
        (b.limit c s) = .ok r := by
  obtain ⟨table, htable, ⟨hper, es, rfl, hes⟩ | ⟨hper, request, rfl, hmake⟩⟩ := plan_cases h
  · obtain ⟨e, he, rfl⟩ := List.mem_map.1 hr
    obtain ⟨hterm, hmake⟩ := Plan.mem_forTerms hes he
    refine ⟨table, _, htable, .perTerm hper hterm, ?_⟩
    rw [limit, if_pos hper]
    exact hmake
  · obtain rfl := List.mem_singleton.1 hr
    refine ⟨table, _, htable, .single hper, ?_⟩
    rw [limit, hper]
    exact hmake

theorem asks_of_mem_plan {b : Breakdown} {plan : Plan} (h : b.plan c s range = .ok plan)
    {r : Request} (hr : r ∈ plan.requests) : b.Asks c s r := by
  obtain ⟨table, filters, htable, -, hmake⟩ := made_of_mem_plan h hr
  obtain ⟨hpos, rfl, hgrouping, hmetric, haggregation, -⟩ := Request.make_eq_ok hmake
  exact ⟨htable, hgrouping, hmetric, haggregation, hpos⟩

theorem filtered_of_mem_plan {b : Breakdown} {plan : Plan} (h : b.plan c s range = .ok plan)
    {r : Request} (hr : r ∈ plan.requests) : b.Filtered c range r.filters := by
  obtain ⟨table, filters, -, hfiltered, hmake⟩ := made_of_mem_plan h hr
  obtain ⟨-, -, -, -, -, rfl⟩ := Request.make_eq_ok hmake
  exact hfiltered

theorem exists_plan_of_run {b : Breakdown} {store : Store} {data : Grouped}
    (h : (b.run c s store scope range).result = .ok data) :
    ∃ plan, b.plan c s range = .ok plan ∧
      (b.run c s store scope range).requests = plan.requests := by
  cases hplan : b.plan c s range with
  | error f =>
    simp only [run, hplan, Run.quiet] at h
    cases h
  | ok plan => exact ⟨plan, rfl, by simp only [run, hplan]⟩

theorem plan_of_mem_run {b : Breakdown} {store : Store} {r : Request}
    (hr : r ∈ (b.run c s store scope range).requests) :
    ∃ plan, b.plan c s range = .ok plan ∧ r ∈ plan.requests := by
  unfold run at hr
  split at hr
  · cases hr
  next plan hplan => exact ⟨plan, hplan, hr⟩

theorem plan_requests_ne_nil {b : Breakdown} {plan : Plan} (h : b.plan c s range = .ok plan) :
    plan.requests ≠ [] := by
  obtain ⟨table, -, ⟨hper, es, rfl, hes⟩ | ⟨-, r, rfl, -⟩⟩ := plan_cases h
  · have hterms : b.terms ≠ [] := by
      intro hnil
      simp [isPerTerm, hnil] at hper
    obtain ⟨term, hterm⟩ := List.exists_mem_of_ne_nil _ hterms
    obtain ⟨e, he, -⟩ := Plan.exists_mem_of_forTerms hes hterm
    exact List.ne_nil_of_mem (List.mem_map_of_mem he)
  · exact List.cons_ne_nil _ _

theorem exists_plan {b : Breakdown} {table : String} (htable : b.table c = .ok table)
    (hpos : 0 < b.limit c s) : ∃ plan, b.plan c s range = .ok plan ∧ plan.requests ≠ [] := by
  by_cases hper : b.isPerTerm c = true
  · have hlimit : 0 < s.categoryLimit := by simpa only [limit, hper, ↓reduceIte] using hpos
    simp only [plan, htable, ok_bind, hper, ↓reduceIte, Request.make_of_pos hlimit]
    rw [Plan.forTerms_of_forall (fun term _ => rfl)]
    refine ⟨_, rfl, ?_⟩
    have hterms : b.terms ≠ [] := by
      intro he
      simp [isPerTerm, he] at hper
    obtain ⟨term, rest, he⟩ := List.exists_cons_of_ne_nil hterms
    simp [Plan.requests, he, Text.distinct]
  · have hlimit : 0 < s.breakdownLimit := by simpa [limit, hper] using hpos
    simp only [plan, htable, ok_bind, hper, Bool.false_eq_true, ↓reduceIte,
      Request.make_of_pos hlimit]
    exact ⟨_, rfl, List.cons_ne_nil _ _⟩

end Breakdown

end PromptChart
