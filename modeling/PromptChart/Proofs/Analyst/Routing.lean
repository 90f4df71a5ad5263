import PromptChart.Proofs.Analyst.Charts
import PromptChart.Proofs.Analyst.Requests
import PromptChart.Proofs.Execute.FanOut
import PromptChart.Proofs.Execute.Failure
import PromptChart.Web.Service

namespace PromptChart

variable {c : Catalog} {s : Settings} {range : Option DateRange}

def Filter.lookedUp? (c : Catalog) (f : Filter) : Option String :=
  if f.operator = .ilike ∧ f.field = c.textField then f.value.text? else none

def Request.lookedUp (c : Catalog) (r : Request) : List String :=
  r.filters.filterMap (·.lookedUp? c)

/-- What is looked up for an intent, round trip by round trip: its terms one by one, or nothing
in a single one. -/
def Intent.lookUps (c : Catalog) : Intent → List (List String)
  | .comparison x => (Text.distinct x.terms).map ([·])
  | .breakdown b =>
    if b.terms ≠ [] ∧ b.primary = c.textField then (Text.distinct b.terms).map ([·]) else [[]]

theorem Filter.lookedUp?_ofTerm (c : Catalog) (term : String) :
    (ofTerm c term).lookedUp? c = some term := by
  rw [lookedUp?, if_pos ⟨rfl, rfl⟩]
  rfl

theorem DateRange.filterMap_lookedUp? (c : Catalog) (range : Option DateRange) :
    (DateRange.filters c range).filterMap (·.lookedUp? c) = [] := by
  cases range with
  | none => rfl
  | some range => rfl

theorem Plan.lookedUp_of_forTerms {terms : List String}
    {request : String → Except Failure Request} {es : Entries String Request}
    (h : Plan.forTerms terms request = .ok es)
    (hrequest : ∀ term r, request term = .ok r → r.lookedUp c = [term]) :
    (es.map (·.2)).map (·.lookedUp c) = (Text.distinct terms).map ([·]) := by
  calc (es.map (·.2)).map (·.lookedUp c)
      = es.map fun e => e.2.lookedUp c := List.map_map
    _ = es.map fun e => [e.1] :=
      List.map_congr_left fun e he => hrequest e.1 e.2 (Plan.mem_forTerms h he).2
    _ = (es.map (·.1)).map ([·]) := by rw [List.map_map, Function.comp_def]
    _ = (Text.distinct terms).map ([·]) := by rw [Plan.map_fst_of_forTerms h]

theorem Comparison.lookedUp_requests {x : Comparison} {metric : String}
    {es : Entries String Request} (h : x.requests c s range metric = .ok es) :
    (es.map (·.2)).map (·.lookedUp c) = (Intent.comparison x).lookUps c := by
  apply Plan.lookedUp_of_forTerms h
  intro term r hr
  obtain ⟨table, -, hmake⟩ := bind_eq_ok.1 hr
  obtain ⟨-, -, -, -, -, hfilters⟩ := Request.make_eq_ok hmake
  rw [Request.lookedUp, hfilters, List.filterMap_cons_some (Filter.lookedUp?_ofTerm c term),
    DateRange.filterMap_lookedUp?]

namespace Breakdown

variable {b : Breakdown} {plan : Plan}

theorem isPerTerm_iff : b.isPerTerm c = true ↔ b.terms ≠ [] ∧ b.primary = c.textField := by
  simp [isPerTerm]

theorem lookedUp_plan (h : b.plan c s range = .ok plan) :
    plan.requests.map (·.lookedUp c) = (Intent.breakdown b).lookUps c := by
  obtain ⟨table, -, ⟨hper, es, rfl, hes⟩ | ⟨hper, request, rfl, hmake⟩⟩ := plan_cases h
  · rw [Intent.lookUps, if_pos (isPerTerm_iff.1 hper)]
    apply Plan.lookedUp_of_forTerms hes
    intro term r hmake
    obtain ⟨-, -, -, -, -, hfilters⟩ := Request.make_eq_ok hmake
    rw [Request.lookedUp, hfilters, List.filterMap_append, DateRange.filterMap_lookedUp?,
      List.filterMap_cons_some (Filter.lookedUp?_ofTerm c term), List.filterMap_nil,
      List.nil_append]
  · have hsingle : ¬ (b.terms ≠ [] ∧ b.primary = c.textField) := by
      rw [← isPerTerm_iff, hper]
      decide
    obtain ⟨-, -, -, -, -, hfilters⟩ := Request.make_eq_ok hmake
    rw [Intent.lookUps, if_neg hsingle, Plan.requests, List.map_singleton, Request.lookedUp,
      hfilters, DateRange.filterMap_lookedUp?]

end Breakdown

namespace Web

def dryRun (prompt : String) : Call :=
  ⟨"POST", "/ask/classify", [], some (.object [("prompt", .text prompt)])⟩

/-- Is a prompt neither empty nor too long for a call? -/
def IsCallable (prompt : String) : Prop := 1 ≤ prompt.length ∧ prompt.length ≤ 500

theorem answer_dryRun (a : Analyst) {prompt : String} (h : IsCallable prompt) :
    answer a (dryRun prompt) =
      .ok (.ok (.reading prompt (Prompt.classify a.catalog prompt))) := by
  have hcheck : promptText (.text prompt) = .valid prompt := by
    have hshort : ¬ prompt.length < 1 := Nat.not_lt.2 h.1
    have hlong : ¬ 500 < prompt.length := Nat.not_lt.2 h.2
    simp only [promptText, Checked.textBetween, Checked.text, Checked.andThen, hshort, hlong,
      ↓reduceIte]
  have hcarried : (dryRun prompt).carried checkPrompt = .valid prompt := by
    have hmember : (Json.object [("prompt", .text prompt)]).get? "prompt" =
        some (.text prompt) := rfl
    simp only [Call.carried, dryRun, checkPrompt, Checked.required, hmember, hcheck,
      Checked.under]
  have hroute : answer a (dryRun prompt) = classify a (dryRun prompt) := rfl
  rw [hroute, classify, hcarried, fitting]

end Web

namespace Analyst

variable {a : Analyst} {scope : Scope} {user : Option String} {prompt : String} {chart : Chart}

/-- The requests that a store gets when several of them run side by side, in one of the orders
in which all of them can come to an answer. -/
def Sends (a : Analyst) (scope : Scope) (requests sent : List Request) : Prop :=
  ∃ es events ended,
    es.map (·.2) = requests ∧ ended.isOver = true ∧ (FanOut.sent events).map (·.2) = sent ∧
    FanOut.Steps (FanOut.bound a.settings.concurrency) (a.store · scope) (FanOut.start es)
      events ended

theorem Sends.perm {requests sent : List Request} (h : a.Sends scope requests sent) :
    sent.Perm requests := by
  obtain ⟨es, events, ended, rfl, hover, rfl, hsteps⟩ := h
  exact (((FanOut.accounts_start _ _ es).steps hsteps).of_isOver hover).1.map (·.2)

theorem exists_sends (a : Analyst) (scope : Scope) (requests : List Request) :
    ∃ sent, a.Sends scope requests sent := by
  obtain ⟨events, ended, hsteps, hover⟩ :=
    FanOut.exists_steps_isOver (FanOut.bound_pos a.settings.concurrency)
    (a.store · scope) (FanOut.start (requests.map ("", ·)))
  have hrequests : (requests.map ("", ·)).map (·.2) = requests := by
    rw [List.map_map, Function.comp_def, List.map_id']
  exact ⟨_, _, events, ended, hrequests, hover, rfl, hsteps⟩

/-- What was asked for a prompt, and what its chart says of that, are as the prompt was read. -/
structure IsRouted (a : Analyst) (scope : Scope) (user : Option String) (prompt : String)
    (inquiry : Inquiry) (chart : Chart) : Prop where
  passedOn : Prompt.classify a.catalog prompt = none →
    inquiry.questions = [reasoningRequest scope user prompt] ∧ inquiry.requests = []
  followed : ∀ intent, Prompt.classify a.catalog prompt = some intent →
    inquiry.questions = [] ∧
      inquiry.requests.map (·.lookedUp a.catalog) = intent.lookUps a.catalog
  sent : (∃ sent, a.Sends scope inquiry.requests sent) ∧
    ∀ sent, a.Sends scope inquiry.requests sent → sent.Perm inquiry.requests
  intent : chart.intent = Prompt.classify a.catalog prompt
  source : chart.source = Web.route chart.intent
  announced :
      Web.IsCallable prompt →
        Web.answer a (Web.dryRun prompt) = .ok (.ok (.reading prompt chart.intent))

theorem compare_routed {x : Comparison} (h : (a.compare scope range x).result = .ok chart) :
    (a.compare scope range x).requests.map (·.lookedUp a.catalog) =
      (Intent.comparison x).lookUps a.catalog ∧ chart.source = .own := by
  obtain ⟨points, hrun, hchart⟩ := compare_eq_ok h
  obtain ⟨es, hes, hrequests⟩ := Comparison.exists_requests_of_run hrun
  constructor
  · rw [compare, Run.map, hrequests]
    exact Comparison.lookedUp_requests hes
  · rw [← hchart]
    split <;> rfl

theorem exists_plan_of_breakDown {b : Breakdown}
    (h : (a.breakDown scope range b).result = .ok chart) :
    ∃ plan, (a.rescope scope b).plan a.catalog a.settings range = .ok plan ∧
      (a.breakDown scope range b).requests = plan.requests := by
  cases hplan : (a.rescope scope b).plan a.catalog a.settings range with
  | ok plan => exact ⟨plan, rfl, by simp only [breakDown, Breakdown.run, hplan]⟩
  | error f =>
    -- What has no plan fails for another reason than a query, and then there is no chart.
    have hfatal : f.isFatal = true := Breakdown.failsOnly_plan _ _ _ _ f hplan
    obtain ⟨data, hdata, -⟩ | ⟨table, detail, hquery, -⟩ := breakDown_eq_ok h
    · rw [Breakdown.run, hplan] at hdata
      cases hdata
    · rw [Breakdown.run, hplan] at hquery
      cases hquery
      cases hfatal

theorem breakDown_routed {b : Breakdown} (h : (a.breakDown scope range b).result = .ok chart) :
    (a.breakDown scope range b).requests.map (·.lookedUp a.catalog) =
      (Intent.breakdown b).lookUps a.catalog ∧ chart.source = .own := by
  obtain ⟨plan, hplan, hrequests⟩ := exists_plan_of_breakDown h
  constructor
  · rw [hrequests]
    exact Breakdown.lookedUp_plan (b := a.rescope scope b) hplan
  · obtain ⟨data, -, hchart⟩ | ⟨table, detail, -, rfl⟩ := breakDown_eq_ok h
    · rw [← hchart]
      split <;> rfl
    · rfl

theorem source_passOn (h : (a.passOn scope user prompt).chart = .ok chart) :
    chart.source = .service := by
  obtain ⟨response, -, hdrawn⟩ | ⟨fault, detail, -, rfl⟩ := passOn_eq_ok.1 h
  · obtain ⟨v, rest, made, -, -, hmade, rfl⟩ | ⟨-, rfl⟩ := drawn_eq_ok.1 hdrawn
    · have hsource : made.source = .service := by
        obtain ⟨data, read, kind, steps, -, -, -, -, rfl⟩ := Visualized.chart_eq_ok.1 hmade
        rfl
      rw [← hsource]
      split <;> rfl
    · rfl
  · rfl

/-- Whenever a prompt leads to a chart, it was passed on once without a question to the store,
or else followed without a question to the reasoning service; which of the two, a dry run
tells. -/
theorem ask_routed (h : (a.ask scope range user prompt).chart = .ok chart) :
    IsRouted a scope user prompt (a.ask scope range user prompt) chart := by
  obtain ⟨hc, made, hmade, rfl⟩ | ⟨intent, hc, made, hmade, rfl⟩ := ask_eq_ok h
  · have hsource : made.source = .service := source_passOn hmade
    exact {
      passedOn _ := ⟨by simp only [ask, hc, passOn], ask_requests_of_none hc⟩
      followed intent hintent := by cases hc.symm.trans hintent
      sent := ⟨exists_sends a scope _, fun _ => Sends.perm⟩
      intent := hc.symm
      source := hsource
      announced hcall := by rw [Web.answer_dryRun a hcall, hc] }
  · have hrouted :
        (a.follow scope range intent).requests.map (·.lookedUp a.catalog) =
          intent.lookUps a.catalog ∧
        made.source = .own := by
      cases intent with
      | comparison x => exact compare_routed hmade
      | breakdown b => exact breakDown_routed hmade
    exact {
      passedOn hnone := by cases hc.symm.trans hnone
      followed other hother := by
        cases hc.symm.trans hother
        rw [ask_requests_of_some hc]
        exact ⟨by simp only [ask, hc, Inquiry.ofRun], hrouted.1⟩
      sent := ⟨exists_sends a scope _, fun _ => Sends.perm⟩
      intent := hc.symm
      source := hrouted.2
      announced hcall := by rw [Web.answer_dryRun a hcall, hc] }

/-- A store without rows that fails on whatever does not look up drawers. -/
def drawerStore : Store := fun request _ =>
  if request.lookedUp .freight = ["Drawer"] then .ok []
  else .error (.query request.table "simulated outage")

theorem classify_drawer_cargoglide :
    Prompt.classify .freight "average cost for drawer, cargoglide" =
      some (.comparison ⟨["Drawer", "CargoGlide"], .avg⟩) := by
  have hlowered : Text.stripped (Text.lower "average cost for drawer, cargoglide") =
      "average cost for drawer, cargoglide" := by
    decide +kernel
  have hfound : Catalog.freight.products.foldl
      (Prompt.addProduct (Text.lower "average cost for drawer, cargoglide")) [] =
      [(17, "Drawer"), (25, "CargoGlide")] := by
    decide +kernel
  have hterms : Prompt.terms .freight "average cost for drawer, cargoglide" =
      ["Drawer", "CargoGlide"] := by
    rw [Prompt.terms, hfound, List.mergeSort_of_pairwise (by decide)]
    decide
  simp only [Prompt.classify, hlowered, Prompt.Context.of, hterms]
  decide +kernel

theorem ask_routed_drawerStore :
    let a : Analyst := ⟨.freight, .usual, drawerStore, fun _ => .ok Reasoning.mockResponse⟩
    let inquiry := a.ask .admin none none "average cost for drawer, cargoglide"
    ∃ chart, inquiry.chart = .ok chart ∧
      inquiry.requests.map (fun r => (drawerStore r .admin).isOk) = [true, false] ∧
      IsRouted a .admin none "average cost for drawer, cargoglide" inquiry chart := by
  intro a inquiry
  have hc : Prompt.classify a.catalog "average cost for drawer, cargoglide" =
      some (.comparison ⟨["Drawer", "CargoGlide"], .avg⟩) := classify_drawer_cargoglide
  obtain ⟨chart, hchart⟩ : ∃ chart, inquiry.chart = .ok chart := by
    simp only [inquiry, ask_chart_of_some hc]
    exact ⟨_, rfl⟩
  have hanswers : inquiry.requests.map (fun r => (drawerStore r .admin).isOk) =
      [true, false] := by
    simp only [inquiry, ask_requests_of_some hc]
    decide
  exact ⟨chart, hchart, hanswers, ask_routed hchart⟩

end Analyst

end PromptChart
