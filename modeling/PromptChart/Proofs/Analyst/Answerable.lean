import PromptChart.Proofs.Analyst.Charts
import PromptChart.Proofs.Analyst.Requests
import PromptChart.Proofs.Execute.FanOut
import PromptChart.Proofs.Store.Payload
import PromptChart.Proofs.Store.Reading

namespace PromptChart

/-- Does a store fail on a request in a way that is not that of a query? -/
def Store.IsFatalOn (store : Store) (r : Request) (scope : Scope) : Prop :=
  ∃ f, store r scope = .error f ∧ f.isFatal = true

variable {c : Catalog} {s : Settings} {store : Store} {scope : Scope} {range : Option DateRange}
  {metric : String}

section Collect

variable {α : Type} {answer : String → Request → Except Failure α}
  {first trip : String × Request} {rest es : Entries String Request} {f : Failure}

theorem collect_cons_of_fatal (hfirst : answer first.1 first.2 = .error f)
    (hf : f.isFatal = true) :
    collect answer (first :: rest) = .error f := by
  cases f with
  | query => cases hf
  | _ => simp only [collect, hfirst]

theorem collect_cons_of_query (hfirst : answer first.1 first.2 = .error f)
    (hf : f.isFatal = false) :
    collect answer (first :: rest) = collect answer rest := by
  cases f with
  | query => simp only [collect, hfirst]
  | _ => cases hf

theorem exists_collect_of_fatal (answer : String → Request → Except Failure α)
    (htrip : trip ∈ es) (hanswer : answer trip.1 trip.2 = .error f) (hf : f.isFatal = true) :
    ∃ g, collect answer es = .error g ∧ g.isFatal = true := by
  induction es with
  | nil => cases htrip
  | cons first rest ih =>
    rcases List.mem_cons.1 htrip with rfl | hlater
    · exact ⟨f, collect_cons_of_fatal hanswer hf, hf⟩
    · obtain ⟨g, hg, hfatal⟩ := ih hlater
      cases hfirst : answer first.1 first.2 with
      | ok rows => exact ⟨g, by simp only [collect, hfirst, hg, map_error], hfatal⟩
      | error e =>
        cases he : e.isFatal with
        | true => exact ⟨e, collect_cons_of_fatal hfirst he, he⟩
        | false => exact ⟨g, (collect_cons_of_query hfirst he).trans hg, hfatal⟩

end Collect

theorem exists_collect_of_not_fatal {es : Entries String Request}
    (h : ∀ trip ∈ es, ¬ store.IsFatalOn trip.2 scope) :
    ∃ batches, collect (fun _ r => store r scope) es = .ok batches := by
  refine ⟨_, collect_of_not_fatal _ ?_⟩
  intro trip htrip f hf
  apply Bool.eq_false_iff.2
  intro hfatal
  exact h trip htrip ⟨f, hf, hfatal⟩

namespace Comparison

variable {x : Comparison}

theorem run_of_fatal {r : Request} (hr : r ∈ (x.run c s store scope range metric).requests)
    (hfatal : store.IsFatalOn r scope) :
    ∃ f, (x.run c s store scope range metric).result = .error f ∧ f.isFatal = true := by
  obtain ⟨es, hes, trip, htrip, rfl⟩ := requests_of_mem_run hr
  obtain ⟨f, hf, hfatal⟩ := hfatal
  obtain ⟨g, hg, hgfatal⟩ := exists_collect_of_fatal (fun _ r => store r scope) htrip hf hfatal
  exact ⟨g, by simp only [run, hes, hg, error_bind], hgfatal⟩

theorem failsOnly_run_of_not_fatal (hne : (x.run c s store scope range metric).requests ≠ [])
    (h : ∀ r ∈ (x.run c s store scope range metric).requests, ¬ store.IsFatalOn r scope) :
    FailsOnly Failure.IsNumeric (x.run c s store scope range metric).result := by
  obtain ⟨r, hr⟩ := List.exists_mem_of_ne_nil _ hne
  obtain ⟨es, hes, -⟩ := requests_of_mem_run hr
  simp only [run, hes] at h ⊢
  obtain ⟨batches, hbatches⟩ :=
    exists_collect_of_not_fatal fun trip htrip => h trip.2 (List.mem_map_of_mem htrip)
  rw [hbatches]
  exact x.failsOnly_points batches

end Comparison

namespace Breakdown

variable {b : Breakdown}

theorem run_of_fatal {r : Request} (hr : r ∈ (b.run c s store scope range).requests)
    (hfatal : store.IsFatalOn r scope) :
    ∃ f, (b.run c s store scope range).result = .error f ∧ f.isFatal = true := by
  obtain ⟨plan, hplan, hr⟩ := plan_of_mem_run hr
  obtain ⟨f, hf, hfatal⟩ := hfatal
  simp only [run, hplan]
  cases plan with
  | perTerm es =>
    obtain ⟨trip, htrip, rfl⟩ := List.mem_map.1 hr
    obtain ⟨g, hg, hgfatal⟩ := exists_collect_of_fatal (fun _ r => store r scope)
      htrip hf hfatal
    exact ⟨g, by simp only [answer, hg, error_bind], hgfatal⟩
  | single request =>
    obtain rfl := List.mem_singleton.1 hr
    exact ⟨f, by simp only [answer, hf, error_bind], hfatal⟩

theorem failsOnly_run_of_not_fatal (hne : (b.run c s store scope range).requests ≠ [])
    (h : ∀ r ∈ (b.run c s store scope range).requests, ¬ store.IsFatalOn r scope) :
    FailsOnly (fun f => f.IsNumeric ∨ f.isFatal = false)
      (b.run c s store scope range).result := by
  have hmerge (batches : List (List PartialRow)) :
      FailsOnly (fun f => f.IsNumeric ∨ f.isFatal = false) (b.merge batches) :=
    ((failsOnly_mergeRows _ _ batches).map _).mono fun _ => .inl
  obtain ⟨r, hr⟩ := List.exists_mem_of_ne_nil _ hne
  obtain ⟨plan, hplan, -⟩ := plan_of_mem_run hr
  simp only [run, hplan] at h ⊢
  cases plan with
  | perTerm es =>
    obtain ⟨batches, hbatches⟩ :=
      exists_collect_of_not_fatal fun trip htrip => h trip.2 (List.mem_map_of_mem htrip)
    rw [answer, hbatches]
    exact hmerge _
  | single request =>
    refine FailsOnly.bind ?_ fun rows _ => hmerge _
    intro f hf
    exact .inr (Bool.eq_false_iff.2 fun hfatal => h request (.head _) ⟨f, hf, hfatal⟩)

end Breakdown

namespace Analyst

variable {a : Analyst} {user : Option String} {prompt : String} {intent : Intent}

theorem breakDown_result_of_fatal {b : Breakdown} {f : Failure}
    (hrun : ((a.rescope scope b).run a.catalog a.settings a.store scope range).result =
      .error f)
    (hf : f.isFatal = true) : (a.breakDown scope range b).result = .error f := by
  cases f with
  | query => cases hf
  | _ => simp only [breakDown, hrun]

theorem follow_of_fatal {r : Request} (hr : r ∈ (a.follow scope range intent).requests)
    (hfatal : a.store.IsFatalOn r scope) :
    ∃ f, (a.follow scope range intent).result = .error f ∧ f.isFatal = true := by
  cases intent with
  | comparison x =>
    obtain ⟨f, hf, hfatal⟩ := Comparison.run_of_fatal (x := x) hr hfatal
    exact ⟨f, by simp only [follow, compare, Run.map, hf, map_error], hfatal⟩
  | breakdown b =>
    obtain ⟨f, hf, hfatal⟩ := Breakdown.run_of_fatal (b := a.rescope scope b) hr hfatal
    exact ⟨f, breakDown_result_of_fatal hf hfatal, hfatal⟩

theorem failsOnly_follow_of_not_fatal (hne : (a.follow scope range intent).requests ≠ [])
    (h : ∀ r ∈ (a.follow scope range intent).requests, ¬ a.store.IsFatalOn r scope) :
    FailsOnly Failure.IsNumeric (a.follow scope range intent).result := by
  cases intent with
  | comparison x => exact (Comparison.failsOnly_run_of_not_fatal (x := x) hne h).map _
  | breakdown b =>
    have hrun := Breakdown.failsOnly_run_of_not_fatal (b := a.rescope scope b) hne h
    intro f hf
    simp only [follow, breakDown] at hf
    split at hf
    · cases hf
    · cases hf
    next g hquery hg =>
      -- A failed query has got its own chart above, so a failure that gets here is numeric.
      cases hf
      rcases hrun f hg with hnumeric | hfine
      · exact hnumeric
      · cases f with
        | query table detail => exact absurd rfl (hquery table detail)
        | _ => cases hfine

theorem ask_of_fatal {r : Request} (hr : r ∈ (a.ask scope range user prompt).requests)
    (hfatal : a.store.IsFatalOn r scope) :
    ∃ f, (a.ask scope range user prompt).chart = .error f ∧ f.isFatal = true := by
  obtain ⟨intent, hc, hr⟩ := exists_intent_of_mem_ask hr
  obtain ⟨f, hf, hfatal⟩ := follow_of_fatal hr hfatal
  exact ⟨f, by rw [ask_chart_of_some hc, hf, map_error], hfatal⟩

theorem failsOnly_ask_of_not_fatal (hne : (a.ask scope range user prompt).requests ≠ [])
    (h : ∀ r ∈ (a.ask scope range user prompt).requests, ¬ a.store.IsFatalOn r scope) :
    FailsOnly Failure.IsNumeric (a.ask scope range user prompt).chart := by
  obtain ⟨r, hr⟩ := List.exists_mem_of_ne_nil _ hne
  obtain ⟨intent, hc, -⟩ := exists_intent_of_mem_ask hr
  rw [ask_requests_of_some hc] at hne h
  rw [ask_chart_of_some hc]
  exact (failsOnly_follow_of_not_fatal hne h).map _

end Analyst

namespace Memory

variable {tables : Tables} {request : Request}

/-- Tables in memory fail other than as a query exactly on the requests that are blocked. -/
theorem isFatalOn_store_iff (htables : ∀ e ∈ tables, IsTable e.2) :
    Store.IsFatalOn (Memory.store c tables) request scope ↔
      IsBlocked c tables request scope := by
  constructor
  · rintro ⟨f, hf, hfatal⟩
    by_contra h
    obtain rfl := failsOnly_store htables h f hf
    cases hfatal
  · exact store_of_isBlocked htables

/-- Tables in memory fail only as a query exactly on the requests that are not blocked: no
record of the scope leads a filter to an integer beyond every number, and none of those that
count has a metric other than null that stands for no number. A prompt with a blocked request
has no chart; one without fails at most in merging. -/
theorem failsOnly_store_iff (c : Catalog) (tables : Tables)
    (htables : ∀ e ∈ tables, IsTable e.2) (scope : Scope) :
    (∀ request,
      FailsOnly (·.IsQueryOn request.table) (Memory.store c tables request scope : Answer) ↔
      ¬ IsBlocked c tables request scope) ∧
    ∀ (a : Analyst) (range : Option DateRange) (user : Option String) (prompt : String),
      a.store = Memory.store c tables →
      let inquiry := a.ask scope range user prompt
      ((∃ r ∈ inquiry.requests, IsBlocked c tables r scope) →
        ∃ f, inquiry.chart = .error f ∧ f.isFatal = true) ∧
      (inquiry.requests ≠ [] → (∀ r ∈ inquiry.requests, ¬ IsBlocked c tables r scope) →
        FailsOnly Failure.IsNumeric inquiry.chart) := by
  constructor
  · intro request
    constructor
    · intro honly hblocked
      obtain ⟨f, hf, hfatal⟩ := store_of_isBlocked htables hblocked
      obtain ⟨detail, rfl⟩ := honly f hf
      cases hfatal
    · intro h
      exact (failsOnly_store htables h).mono fun f hf => ⟨_, hf⟩
  · intro a range user prompt hstore inquiry
    constructor
    · rintro ⟨r, hr, hblocked⟩
      apply Analyst.ask_of_fatal hr
      rw [hstore]
      exact (isFatalOn_store_iff htables).2 hblocked
    · intro hne hfree
      apply Analyst.failsOnly_ask_of_not_fatal hne
      intro r hr
      rw [hstore, isFatalOn_store_iff htables]
      exact hfree r hr

def ltlShipment : Json :=
  .object [("carrier_name", .text "Saia"), ("origin_state", .text "TX"),
    ("mode_name", .text "LTL"), ("retail", .int 5)]

def ltlTables : Tables := [("shipment", [ltlShipment])]

def ltlAnalyst : Analyst :=
  ⟨.freight, .usual, Memory.store .freight ltlTables, fun _ => .ok Reasoning.mockResponse⟩

def countRequest (metric : String) : Request where
  table := "shipment"
  grouping := .pair "carrier_name" "origin_state"
  metric := metric
  aggregation := .count
  filters := []
  limit := 200
  limit_pos := by decide

theorem isTable_ltlTables : ∀ e ∈ ltlTables, IsTable e.2 := by
  intro e he r hr
  obtain rfl := List.mem_singleton.1 he
  obtain rfl := List.mem_singleton.1 hr
  exact ⟨_, rfl⟩

theorem isObstacle_countRequest (metric : String) (r : Json) :
    isObstacle .freight (countRequest metric) .admin r = isUnread metric r := rfl

theorem isBlocked_countRequest_iff (metric : String) :
    IsBlocked .freight ltlTables (countRequest metric) .admin ↔
    isUnread metric ltlShipment = true := by
  constructor
  · rintro ⟨records, htable, r, hr, hobstacle⟩
    cases htable
    obtain rfl := List.mem_singleton.1 hr
    rwa [isObstacle_countRequest] at hobstacle
  · intro hunread
    exact ⟨[ltlShipment], rfl, ltlShipment, .head _, hunread⟩

theorem ask_countRequest (prompt metric : String)
    (hc : Prompt.classify ltlAnalyst.catalog prompt =
      some (.breakdown ⟨"carrier_name", "origin_state", metric, .count, []⟩)) :
    (ltlAnalyst.ask .admin none none prompt).requests = [countRequest metric] := by
  rw [Analyst.ask_requests_of_some hc]
  rfl

theorem failsOnly_store_ltlTables :
    (∀ e ∈ ltlTables, IsTable e.2) ∧ ltlAnalyst.store = Memory.store .freight ltlTables ∧
      ¬ FailsOnly (·.IsQueryOn "shipment")
        (Memory.store .freight ltlTables (countRequest "mode_name") .admin : Answer) ∧
      FailsOnly (·.IsQueryOn "shipment")
        (Memory.store .freight ltlTables (countRequest "retail") .admin : Answer) ∧
      (∃ f, (ltlAnalyst.ask .admin none none "count mode by carrier and state").chart =
        .error f ∧ f.isFatal = true) ∧
      FailsOnly Failure.IsNumeric
        (ltlAnalyst.ask .admin none none "count retail by carrier and state").chart := by
  obtain ⟨hstore, hask⟩ := failsOnly_store_iff .freight ltlTables isTable_ltlTables .admin
  have hmode : IsBlocked .freight ltlTables (countRequest "mode_name") .admin :=
    (isBlocked_countRequest_iff _).2 (by decide)
  have hretail : ¬ IsBlocked .freight ltlTables (countRequest "retail") .admin := by
    rw [isBlocked_countRequest_iff]
    decide +kernel
  have hasksMode := ask_countRequest "count mode by carrier and state" "mode_name"
    (by decide +kernel)
  have hasksRetail := ask_countRequest "count retail by carrier and state" "retail"
    (by decide +kernel)
  refine ⟨isTable_ltlTables, rfl, fun h => (hstore _).1 h hmode, (hstore _).2 hretail, ?_, ?_⟩
  · exact (hask ltlAnalyst none none _ rfl).1 ⟨_, by rw [hasksMode]; exact .head _, hmode⟩
  · apply (hask ltlAnalyst none none _ rfl).2
    · rw [hasksRetail]
      exact List.cons_ne_nil _ _
    · intro r hr
      rw [hasksRetail] at hr
      obtain rfl := List.mem_singleton.1 hr
      exact hretail

/-- A text in the place of a metric is no failure of a query, even where records are only
counted. -/
theorem not_forall_failsOnly_store :
    ¬ ∀ (tables : Tables) (request : Request) (scope : Scope), (∀ e ∈ tables, IsTable e.2) →
      FailsOnly (·.IsQueryOn request.table)
        (Memory.store .freight tables request scope : Answer) := by
  intro h
  obtain ⟨detail, hquery⟩ :=
    h ltlTables (countRequest "mode_name") .admin isTable_ltlTables (.notNumber "LTL")
      (by decide +kernel)
  cases hquery

end Memory

end PromptChart
