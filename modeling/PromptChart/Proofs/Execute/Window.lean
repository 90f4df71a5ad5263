import PromptChart.Proofs.Execute.Plan
import PromptChart.Proofs.Store.Window

namespace PromptChart

variable {c : Catalog} {s : Settings} {scope : Scope} {r : DateRange} {tables : Tables}

theorem Request.make_undated (table : String) (grouping : Grouping) (metric : String)
    (aggregation : Aggregation) (filters : List Filter) (limit : Int) :
    Request.make table grouping metric aggregation (filters.filter (!·.dynamic)) limit =
      Request.undated <$> Request.make table grouping metric aggregation filters limit := by
  unfold Request.make
  cases (Checked.under "limit" (Request.checkLimit limit)).toExcept with
  | error f => rfl
  | ok limit => rfl

theorem Plan.forTerms_map (terms : List String) {one other : String → Except Failure Request}
    (f : Request → Request) (h : ∀ term, other term = f <$> one term) :
    Plan.forTerms terms other = List.map (fun e => (e.1, f e.2)) <$>
      Plan.forTerms terms one := by
  unfold Plan.forTerms
  induction Text.distinct terms with
  | nil => rfl
  | cons term rest ih =>
    rw [List.mapM_cons, List.mapM_cons, ih, h term]
    cases one term with
    | error f => rfl
    | ok request =>
      cases rest.mapM fun term => (one term).map (term, ·) with
      | error f => rfl
      | ok es => rfl

section Collect

variable {α : Type} {answer answer' : String → Request → Except Failure α}
  {requests : Entries String Request}

theorem collect_congr (h : ∀ e ∈ requests, answer e.1 e.2 = answer' e.1 e.2) :
    collect answer requests = collect answer' requests := by
  induction requests with
  | nil => rfl
  | cons e rest ih =>
    obtain ⟨he, hrest⟩ := List.forall_mem_cons.1 h
    simp only [collect, he, ih hrest]

theorem collect_map_snd (f : Request → Request) (requests : Entries String Request) :
    collect answer (requests.map fun e => (e.1, f e.2)) =
      collect (fun term request => answer term (f request)) requests := by
  induction requests with
  | nil => rfl
  | cons e rest ih => simp only [List.map_cons, collect, ih]

end Collect

theorem Comparison.requests_none (x : Comparison) (r : DateRange) (metric : String) :
    x.requests c s none metric = List.map (fun e => (e.1, e.2.undated)) <$>
      x.requests c s (some r) metric := by
  apply Plan.forTerms_map
  intro term
  cases c.table "item" with
  | error f => rfl
  | ok table =>
    exact Request.make_undated _ _ _ _ (Filter.ofTerm c term :: DateRange.filters c (some r)) _

theorem Comparison.run_during {ν : Type} [Arithmetic ν] (x : Comparison) (metric : String)
    (hdate : c.restrictedFields.contains (Text.lower c.dateField) = false)
    (htables : ∀ t ∈ tables, Memory.IsDated c t.2) :
    (x.run (ν := ν) c s (Memory.store c tables) scope (some r) metric).result =
      (x.run c s (Memory.store c (tables.during c r)) scope none metric).result := by
  simp only [run, x.requests_none r]
  cases hes : x.requests c s (some r) metric with
  | error f => rfl
  | ok es =>
    have hcollect : collect (fun _ request => Memory.store (ν := ν) c tables request scope) es =
        collect (fun _ request => Memory.store c (tables.during c r) request.undated scope)
          es := by
      apply collect_congr
      intro e he
      obtain ⟨term, -, hfilters⟩ := (Comparison.asks_of_mem hes he).filters
      apply Memory.store_during [Filter.ofTerm c term] [] hdate htables
      · rw [hfilters, List.append_nil]
        rfl
      · intro f hf
        exact ⟨term, List.mem_singleton.1 hf⟩
    simp only [map_ok, collect_map_snd, hcollect]

namespace Plan

def undated : Plan → Plan
  | perTerm requests => .perTerm (requests.map fun e => (e.1, e.2.undated))
  | single request => .single request.undated

end Plan

namespace Breakdown

theorem plan_none (b : Breakdown) (r : DateRange) :
    b.plan c s none = Plan.undated <$> b.plan c s (some r) := by
  have hperTerm (table : String) := Plan.forTerms_map b.terms Request.undated fun term =>
    Request.make_undated table (.pair b.primary b.secondary) b.metric b.aggregation
      (DateRange.filters c (some r) ++ [Filter.ofTerm c term]) s.categoryLimit
  have hsingle (table : String) := Request.make_undated table (.pair b.primary b.secondary)
    b.metric b.aggregation (DateRange.filters c (some r)) s.breakdownLimit
  unfold plan
  cases b.table c with
  | error f => rfl
  | ok table =>
    rw [ok_bind, ok_bind]
    split
    · apply (congrArg (Plan.perTerm <$> ·) (hperTerm table)).trans
      simp only [Functor.map_map]
      rfl
    · apply (congrArg (Plan.single <$> ·) (hsingle table)).trans
      simp only [Functor.map_map]
      rfl

theorem Filtered.exists_append {range : Option DateRange} {b : Breakdown}
    {filters : List Filter} (h : b.Filtered c range filters) :
    ∃ after, filters = [] ++ DateRange.filters c range ++ after ∧
      ∀ f ∈ [] ++ after, ∃ term, f = Filter.ofTerm c term := by
  cases h with
  | @perTerm term _ _ =>
    refine ⟨[Filter.ofTerm c term], rfl, ?_⟩
    intro f hf
    exact ⟨term, List.mem_singleton.1 hf⟩
  | single => exact ⟨[], (List.append_nil _).symm, nofun⟩

theorem run_during (b : Breakdown)
    (hdate : c.restrictedFields.contains (Text.lower c.dateField) = false)
    (htables : ∀ t ∈ tables, Memory.IsDated c t.2) :
    (b.run c s (Memory.store c tables) scope (some r)).result =
      (b.run c s (Memory.store c (tables.during c r)) scope none).result := by
  simp only [run, b.plan_none r]
  cases hplan : b.plan c s (some r) with
  | error f => rfl
  | ok plan =>
    have hstore {request : Request} (hrequest : request ∈ plan.requests) :
        Memory.store (ν := Binary64) c tables request scope =
          Memory.store c (tables.during c r) request.undated scope := by
      obtain ⟨after, hfilters, hterms⟩ := (filtered_of_mem_plan hplan hrequest).exists_append
      exact Memory.store_during [] after hdate htables hfilters hterms
    rw [map_ok]
    cases plan with
    | perTerm requests =>
      have hcollect : collect (fun _ request => Memory.store c tables request scope) requests =
          collect (fun _ request => Memory.store c (tables.during c r) request.undated scope)
            requests :=
        collect_congr fun e he => hstore (List.mem_map.2 ⟨e, he, rfl⟩)
      simp only [answer, Plan.undated, collect_map_snd, hcollect]
    | single request => simp only [answer, Plan.undated, hstore (.head _)]

end Breakdown

end PromptChart
