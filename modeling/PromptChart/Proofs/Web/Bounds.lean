import PromptChart.Proofs.Analyst.Charts
import PromptChart.Proofs.Analyst.Requests
import PromptChart.Proofs.Execute.Window
import PromptChart.Proofs.Validation.Checked
import PromptChart.Web.Service

namespace PromptChart

namespace Analyst

variable {a : Analyst} {c : Catalog} {s : Settings} {reasoner : Reasoner} {scope : Scope}
  {range : Option DateRange} {user : Option String} {prompt : String} {r : DateRange}
  {tables : Tables}

theorem filters_of_mem_follow {intent : Intent} {request : Request}
    (h : request ∈ (a.follow scope range intent).requests) :
    ∃ before after, request.filters = before ++ DateRange.filters a.catalog range ++ after ∧
      ∀ f ∈ before ++ after, ∃ term, f = Filter.ofTerm a.catalog term := by
  cases intent with
  | comparison x =>
    obtain ⟨term, -, hfilters⟩ := (compare_asks h).filters
    refine ⟨[Filter.ofTerm a.catalog term], [], by rw [hfilters, List.append_nil]; rfl, ?_⟩
    intro f hf
    exact ⟨term, List.mem_singleton.1 hf⟩
  | breakdown b =>
    obtain ⟨plan, hplan, hmem⟩ := Breakdown.plan_of_mem_run h
    exact ⟨[], (Breakdown.filtered_of_mem_plan hplan hmem).exists_append⟩

theorem filters_of_mem_ask {request : Request}
    (h : request ∈ (a.ask scope range user prompt).requests) :
    ∃ before after, request.filters = before ++ DateRange.filters a.catalog range ++ after ∧
      ∀ f ∈ before ++ after, ∃ term, f = Filter.ofTerm a.catalog term := by
  obtain ⟨intent, -, hmem⟩ := exists_intent_of_mem_ask h
  exact filters_of_mem_follow hmem

theorem ask_during (hdate : c.restrictedFields.contains (Text.lower c.dateField) = false)
    (htables : ∀ t ∈ tables, Memory.IsDated c t.2) :
    (ask ⟨c, s, Memory.store c tables, reasoner⟩ scope (some r) user prompt).chart =
      (ask ⟨c, s, Memory.store c (tables.during c r), reasoner⟩ scope (some r)
        user prompt).chart := by
  have hduring := Tables.isDated_during r htables
  cases hread : Prompt.classify c prompt with
  | none => simp only [ask, hread, passOn, drawn]
  | some intent =>
    have hfollow :
        (follow ⟨c, s, Memory.store c tables, reasoner⟩ scope (some r) intent).result =
        (follow ⟨c, s, Memory.store c (tables.during c r), reasoner⟩ scope
          (some r) intent).result := by
      cases intent with
      | comparison x =>
        simp only [follow, compare, Run.map, x.run_during _ hdate htables,
          x.run_during _ hdate hduring, Tables.during_during]
      | breakdown b =>
        simp only [follow, breakDown, rescope, Breakdown.run_during _ hdate htables,
          Breakdown.run_during _ hdate hduring, Tables.during_during]
    simp only [ask, hread, Inquiry.ofRun, hfollow]

end Analyst

namespace Web

def chartCall (query : List (String × String)) (body : Option Json) : Call :=
  ⟨"POST", "/ask", query, body⟩

namespace AskForm

def bounds (c : Catalog) (form : AskForm) : List Filter :=
  (form.first.map fun day => ⟨c.dateField, .gte, .text day.text, true⟩).toList ++
    (form.last.map fun day => ⟨c.dateField, .lte, .text day.text, true⟩).toList

def inquiry? (a : Analyst) (form : AskForm) : Option Inquiry :=
  match form.range with
  | .valid range => some (a.ask ⟨form.customer⟩ range form.user form.prompt)
  | .invalid _ => none

/-- The answer to a form: the chart that was asked for, or a rejection. -/
def answered (form : AskForm) : Option Inquiry → Except Failure Answer
  | some inquiry => (fun chart => .ok (.chart form.prompt chart)) <$> inquiry.chart
  | none => .ok (.unprocessable "start_date must not be after end_date")

variable {a : Analyst} {form : AskForm} {r : DateRange}

theorem bounds_of_range {c : Catalog} (hfirst : form.first = some r.first)
    (hlast : form.last = some r.last) :
    form.bounds c = DateRange.filters c (some r) := by
  rw [bounds, hfirst, hlast]
  rfl

theorem inquiry?_of_range (hfirst : form.first = some r.first)
    (hlast : form.last = some r.last) :
    form.inquiry? a = some (a.ask ⟨form.customer⟩ (some r) form.user form.prompt) := by
  have hrange : form.range = .valid (some r) := by
    rw [range, hfirst, hlast]
    simp only [DateRange.of, r.first_le_last, ↓reduceDIte]
    rfl
  rw [inquiry?, hrange]

theorem inquiry?_of_missing (h : form.first = none ∨ form.last = none) :
    form.inquiry? a = some (a.ask ⟨form.customer⟩ none form.user form.prompt) := by
  have hrange : form.range = .valid none := by
    rw [range]
    obtain hnone | hnone := h
    · rw [hnone]
    · cases form.first <;> rw [hnone]
  rw [inquiry?, hrange]

theorem inquiry?_eq_none_iff :
    form.inquiry? a = none ↔
      ∃ first ∈ form.first, ∃ last ∈ form.last, first.le last = false := by
  rw [inquiry?, range]
  cases hfirst : form.first with
  | none => simp
  | some first =>
    cases hlast : form.last with
    | none => simp
    | some last =>
      cases hle : first.le last with
      | true => simp [DateRange.of, hle, Checked.map]
      | false => simp [DateRange.of, hle, Checked.map, Checked.fail]

end AskForm

variable {query : List (String × String)} {body : Option Json} {form : AskForm}

theorem answer_chartCall {a : Analyst}
    (h : (chartCall query body).carried AskForm.check = .valid form) :
    answer a (chartCall query body) = form.answered (form.inquiry? a) := by
  have hserved : answer a (chartCall query body) = ask a (chartCall query body) := rfl
  rw [hserved, ask, h, AskForm.inquiry?]
  simp only [fitting]
  cases form.range with
  | invalid issues => rfl
  | valid range =>
    simp only [AskForm.answered]
    cases (a.ask ⟨form.customer⟩ range form.user form.prompt).chart <;> rfl

/-- A call with both days is answered as if there were no records of any other day. -/
theorem answer_chartCall_during {c : Catalog} {s : Settings} {reasoner : Reasoner}
    {r : DateRange} {tables : Tables}
    (hdate : c.restrictedFields.contains (Text.lower c.dateField) = false)
    (htables : ∀ t ∈ tables, Memory.IsDated c t.2)
    (h : (chartCall query body).carried AskForm.check = .valid form)
    (hfirst : form.first = some r.first) (hlast : form.last = some r.last) :
    answer ⟨c, s, Memory.store c tables, reasoner⟩ (chartCall query body) =
      answer ⟨c, s, Memory.store c (tables.during c r), reasoner⟩ (chartCall query body) := by
  rw [answer_chartCall h, answer_chartCall h, AskForm.inquiry?_of_range hfirst hlast,
    AskForm.inquiry?_of_range hfirst hlast]
  simp only [AskForm.answered, Analyst.ask_during hdate htables]

/-- A form is rejected exactly if it ends before it starts. With both its days, every request
has both as conditions, and the records of all other days might as well be missing; with one or
none, no request has a condition on the day. -/
theorem answer_bounded (settings : Settings) (store : Store) (reasoner : Reasoner)
    (query : List (String × String)) (body : Option Json) {form : AskForm}
    (h : (chartCall query body).carried AskForm.check = .valid form) :
    let a : Analyst := ⟨.freight, settings, store, reasoner⟩
    answer a (chartCall query body) = form.answered (form.inquiry? a) ∧
      (form.inquiry? a = none ↔
        ∃ first ∈ form.first, ∃ last ∈ form.last, first.le last = false) ∧
      (∀ r : DateRange, form.first = some r.first → form.last = some r.last →
        (∃ inquiry, form.inquiry? a = some inquiry ∧
          ∀ request ∈ inquiry.requests, form.bounds .freight ⊆ request.filters) ∧
        ∀ tables : Tables, (∀ t ∈ tables, Memory.IsDated .freight t.2) →
          store = Memory.store .freight tables → answer a (chartCall query body) =
            answer ⟨.freight, settings, Memory.store .freight (tables.during .freight r),
              reasoner⟩ (chartCall query body)) ∧
      (form.first = none ∨ form.last = none →
        ∃ inquiry, form.inquiry? a = some inquiry ∧
          inquiry = a.ask ⟨form.customer⟩ none form.user form.prompt ∧
          ∀ request ∈ inquiry.requests,
            ∀ f ∈ request.filters, ∃ term, f = Filter.ofTerm .freight term) := by
  intro a
  refine ⟨answer_chartCall h, AskForm.inquiry?_eq_none_iff, ?_, ?_⟩
  · intro r hfirst hlast
    refine ⟨⟨_, AskForm.inquiry?_of_range hfirst hlast, ?_⟩, ?_⟩
    · intro request hrequest f hf
      rw [AskForm.bounds_of_range hfirst hlast] at hf
      obtain ⟨before, after, hfilters, -⟩ := Analyst.filters_of_mem_ask hrequest
      rw [hfilters]
      exact List.mem_append_left _ (List.mem_append_right _ hf)
    · have hdate :
          Catalog.freight.restrictedFields.contains (Text.lower Catalog.freight.dateField) =
            false := by
        decide +kernel
      rintro tables htables rfl
      exact answer_chartCall_during hdate htables h hfirst hlast
  · intro hmissing
    refine ⟨_, AskForm.inquiry?_of_missing hmissing, rfl, ?_⟩
    intro request hrequest f hf
    obtain ⟨before, after, hfilters, hterms⟩ := Analyst.filters_of_mem_ask hrequest
    rw [hfilters, DateRange.filters, List.append_nil] at hf
    exact hterms f hf

def retailBody (days : List (String × Json)) : Json :=
  .object (("prompt", .text "total retail by carrier and state") :: days)

def shipmentOn (carrier day : String) : Json :=
  .object [("carrier_name", .text carrier), ("origin_state", .text "CA"),
    ("pickup_date", .text day), ("retail", .int 400)]

theorem answer_bounded_january :
    let tables : Tables :=
      [("shipment", [shipmentOn "Saia" "2025-01-31", shipmentOn "Estes" "2025-02-01"])]
    let january : Tables := [("shipment", [shipmentOn "Saia" "2025-01-31"])]
    let analyst (tables : Tables) : Analyst :=
      ⟨.freight, .usual, Memory.store .freight tables, fun _ => .ok Reasoning.mockResponse⟩
    let call := chartCall [] (some (retailBody
      [("start_date", .text "2025-01-01"), ("end_date", .text "2025-01-31")]))
    let form : AskForm := ⟨"total retail by carrier and state", none, Date.of? 2025 1 1,
      Date.of? 2025 1 31, none⟩
    call.carried AskForm.check = .valid form ∧
      form.bounds .freight = [⟨"pickup_date", .gte, .text "2025-01-01", true⟩,
        ⟨"pickup_date", .lte, .text "2025-01-31", true⟩] ∧
      (∃ inquiry, form.inquiry? (analyst tables) = some inquiry ∧ inquiry.requests ≠ [] ∧
        ∀ request ∈ inquiry.requests, form.bounds .freight ⊆ request.filters) ∧
      answer (analyst tables) call = answer (analyst january) call := by
  intro tables january analyst call form
  let r : DateRange :=
    ⟨⟨2025, 1, 1, by decide, by decide, by decide, by decide, by decide, by decide⟩,
    ⟨2025, 1, 31, by decide, by decide, by decide, by decide, by decide, by decide⟩, by decide⟩
  have hform : call.carried AskForm.check = .valid form := rfl
  let b : Breakdown := ⟨"carrier_name", "origin_state", "retail", .sum, []⟩
  have hread : Prompt.classify .freight form.prompt = some (.breakdown b) := by decide +kernel
  have htables : ∀ t ∈ tables, Memory.IsDated .freight t.2 := by
    intro t ht
    obtain rfl := List.mem_singleton.1 ht
    intro record hrecord
    simp only [List.mem_cons, List.not_mem_nil, or_false] at hrecord
    obtain rfl | rfl := hrecord
    · exact ⟨⟨_, rfl⟩, .inr ⟨r.last, congrArg Json.text (by decide)⟩⟩
    · exact ⟨⟨_, rfl⟩,
        .inr ⟨⟨2025, 2, 1, by decide, by decide, by decide, by decide, by decide, by decide⟩,
        congrArg Json.text (by decide)⟩⟩
  have hduring : tables.during .freight r = january := rfl
  obtain ⟨-, -, hboth, -⟩ := answer_bounded .usual (analyst tables).store
    (analyst tables).reasoner [] _ hform
  obtain ⟨⟨inquiry, hinquiry, hrequests⟩, hanswer⟩ := hboth r rfl rfl
  refine ⟨hform, rfl, ⟨inquiry, hinquiry, ?_, hrequests⟩, ?_⟩
  · obtain rfl : (analyst tables).ask ⟨form.customer⟩ (some r) none form.prompt = inquiry :=
      Option.some.inj hinquiry
    rw [Analyst.ask_requests_of_some (a := analyst tables) hread]
    have htable : b.table (analyst tables).catalog = .ok "shipment" := rfl
    have hne : ((analyst tables).breakDown ⟨form.customer⟩ (some r) b).requests ≠ [] :=
      Analyst.breakDown_requests_ne_nil htable (by decide)
    exact hne
  · rw [← hduring]
    exact hanswer tables htables rfl

/-- A lone day to start at is dropped: the records of all days are asked for. -/
theorem not_forall_answer_bounded :
    ¬ ∀ (settings : Settings) (store : Store) (reasoner : Reasoner) (body : Json)
      (form : AskForm) (intent : Intent),
      (chartCall [] (some body)).carried AskForm.check = .valid form →
      Prompt.classify .freight form.prompt = some intent →
      form.first ≠ none ∨ form.last ≠ none →
      ∀ inquiry, form.inquiry? ⟨.freight, settings, store, reasoner⟩ = some inquiry →
        ∀ request ∈ inquiry.requests, form.bounds .freight ⊆ request.filters := by
  intro h
  let a : Analyst := ⟨.freight, .usual, fun _ _ => .ok [], fun _ => .ok Reasoning.mockResponse⟩
  let b : Breakdown := ⟨"carrier_name", "origin_state", "retail", .sum, []⟩
  let form : AskForm := ⟨"total retail by carrier and state", none, Date.of? 2025 2 1, none,
    none⟩
  have hform :
      (chartCall [] (some (retailBody [("start_date", .text "2025-02-01")]))).carried
        AskForm.check =
      .valid form := rfl
  have hread : Prompt.classify .freight form.prompt = some (.breakdown b) := by decide +kernel
  have hinquiry : form.inquiry? a = some (a.ask .admin none none form.prompt) :=
    AskForm.inquiry?_of_missing (.inr rfl)
  have hne : (a.ask .admin none none form.prompt).requests ≠ [] := by
    have htable : b.table a.catalog = .ok "shipment" := rfl
    rw [Analyst.ask_requests_of_some (a := a) hread]
    exact Analyst.breakDown_requests_ne_nil htable (by decide)
  obtain ⟨request, hrequest⟩ := List.exists_mem_of_ne_nil _ hne
  have hbound : (⟨"pickup_date", .gte, .text "2025-02-01", true⟩ : Filter) ∈ request.filters :=
    h _ _ _ _ form _ hform hread (.inl nofun) _ hinquiry request hrequest (.head _)
  obtain ⟨before, after, hfilters, hterms⟩ := Analyst.filters_of_mem_ask hrequest
  rw [hfilters, DateRange.filters, List.append_nil] at hbound
  obtain ⟨term, hterm⟩ := hterms _ hbound
  cases congrArg Filter.operator hterm

end Web

end PromptChart
