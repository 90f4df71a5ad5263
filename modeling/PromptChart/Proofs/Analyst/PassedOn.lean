import PromptChart.Catalog.Freight
import PromptChart.Proofs.Analyst.Charts

namespace PromptChart

/-- Can a chart be made of a response? A visualization that it announces must have data that can
be gone through. -/
def ReasoningResponse.IsReadable (response : ReasoningResponse) : Prop :=
  response.success = true → ∀ v ∈ response.visualizations.head?, v.IsReadable

/-- What a call of the reasoning service ends in: a fault, or a response that fits its model. -/
inductive Reasoning.IsOutcome : Except Failure ReasoningResponse → Prop
  | fault (fault : ReasoningFault) (detail : String) :
      IsOutcome (.error (.reasoning fault detail))
  | response {j : Json} {response : ReasoningResponse}
      (h : ReasoningResponse.check j = .valid response) :
    IsOutcome (.ok response)

theorem ReasoningResponse.isObject_of_check {j : Json} {response : ReasoningResponse}
    (h : ReasoningResponse.check j = .valid response) :
    ∀ step ∈ response.reasoning, Visualized.isObject step = true := by
  have hsteps :
      response.reasoning = [] ∨
        ∃ v, Checked.list Checked.step v = .valid response.reasoning := by
    cases j with
    | object members =>
      simp only [check, Checked.record, Checked.seq_eq_valid, Checked.map_eq_valid] at h
      obtain ⟨_, _, ⟨_, steps, ⟨_, _, ⟨_, -, rfl⟩, -, rfl⟩, hsteps, rfl⟩, -, rfl⟩ := h
      exact Checked.optional_eq_valid hsteps
    | _ => cases h
  intro step hstep
  obtain hnil | ⟨v, hlist⟩ := hsteps
  · rw [hnil] at hstep
    cases hstep
  · obtain ⟨js, -, hsteps⟩ := Checked.list_eq_valid.1 hlist
    obtain ⟨j, -, hj⟩ := exists_left_of_forall₂ hsteps hstep
    cases j with
    | object members =>
      cases hj
      rfl
    | _ => cases hj

namespace Analyst

variable {a : Analyst} {scope : Scope} {range : Option DateRange} {user : Option String}
  {prompt : String}

theorem exists_drawn_iff {response : ReasoningResponse}
    (h : ∀ step ∈ response.reasoning, Visualized.isObject step = true) :
    (∃ chart, a.drawn scope prompt response = .ok chart) ↔ response.IsReadable := by
  simp only [drawn_eq_ok]
  constructor
  · rintro ⟨chart, ⟨v, rest, made, -, hv, hmade, -⟩ | ⟨hnone, -⟩⟩ hsuccess
    · rw [hv]
      rintro _ ⟨⟩
      exact (Visualized.exists_chart_iff h).1 ⟨made, hmade⟩
    · obtain hfailed | hnil := hnone
      · cases hfailed.symm.trans hsuccess
      · rw [hnil]
        nofun
  · intro hreadable
    cases hsuccess : response.success with
    | false => exact ⟨_, .inr ⟨.inl rfl, rfl⟩⟩
    | true =>
      cases hv : response.visualizations with
      | nil => exact ⟨_, .inr ⟨.inr rfl, rfl⟩⟩
      | cons v rest =>
        have hdata : v.IsReadable := hreadable hsuccess v (by rw [hv]; rfl)
        obtain ⟨made, hmade⟩ := (Visualized.exists_chart_iff h).2 hdata
        exact ⟨_, .inl ⟨v, rest, made, rfl, rfl, hmade, rfl⟩⟩

/-- A prompt without a local reading has a chart unless the reasoning service answers with a
visualization whose data are a number or a truth value that does not count as nothing. -/
theorem passedOn_returns_iff (a : Analyst) (scope : Scope) (range : Option DateRange)
    (user : Option String) (prompt : String) (hc : Prompt.classify a.catalog prompt = none)
    (h : Reasoning.IsOutcome (a.reasoner (reasoningRequest scope user prompt))) :
    (∃ chart, (a.ask scope range user prompt).chart = .ok chart) ↔
      ∀ response, a.reasoner (reasoningRequest scope user prompt) = .ok response →
        response.IsReadable := by
  rw [ask_chart_of_none hc, exists_map_eq_ok]
  generalize houtcome : a.reasoner (reasoningRequest scope user prompt) = outcome at h
  cases h with
  | fault fault detail =>
    exact iff_of_true ⟨_, passOn_eq_ok.2 (.inr ⟨fault, detail, houtcome, rfl⟩)⟩ nofun
  | @response j response hvalid =>
    have hpassOn : (∃ chart, (a.passOn scope user prompt).chart = .ok chart) ↔
        ∃ chart, a.drawn scope prompt response = .ok chart := by
      simp only [passOn_eq_ok, houtcome, Except.ok.injEq, exists_eq_left', reduceCtorEq,
        false_and, exists_false, or_false]
    simp only [hpassOn, exists_drawn_iff (ReasoningResponse.isObject_of_check hvalid),
      Except.ok.injEq, forall_eq']

def retailByCarrier (data : Json) : ReasoningResponse where
  success := true
  visualizations :=
    [⟨"bar", "Retail by carrier", some "carrier", some "revenue", [("data", data)]⟩]
  reasoning := []
  error := none

theorem isOutcome_retailByCarrier (data : Json) :
    Reasoning.IsOutcome (.ok (retailByCarrier data)) :=
  .response (j := .object [("success", .bool true), ("visualizations", .array [.object [
    ("title", .text "Retail by carrier"),
    ("config", .object [("groupBy", .text "carrier"), ("metric", .text "revenue")]),
    ("data", .object [("data", data)])]])]) rfl

theorem classify_hello : Prompt.classify .freight "hello" = none := by decide +kernel

theorem passedOn_returns_of_text :
    let a : Analyst := ⟨.freight, .usual, fun _ _ => .ok [],
      fun _ => .ok (retailByCarrier (.text "n/a"))⟩
    Prompt.classify a.catalog "hello" = none ∧
      Reasoning.IsOutcome (a.reasoner (reasoningRequest .admin none "hello")) ∧
      ∃ chart, (a.ask .admin none none "hello").chart = .ok chart := by
  intro a
  have hc : Prompt.classify a.catalog "hello" = none := classify_hello
  have houtcome : Reasoning.IsOutcome (a.reasoner (reasoningRequest .admin none "hello")) :=
    isOutcome_retailByCarrier (.text "n/a")
  refine ⟨hc, houtcome, (passedOn_returns_iff a .admin none none "hello" hc houtcome).2 ?_⟩
  rintro _ ⟨⟩ - v ⟨⟩
  rfl

/-- A number in place of the data rows cannot be gone through, and the prompt has no chart at
all. -/
theorem not_forall_passedOn_returns :
    ¬ ∀ (a : Analyst) (scope : Scope) (range : Option DateRange) (user : Option String)
      (prompt : String), Prompt.classify a.catalog prompt = none →
        Reasoning.IsOutcome (a.reasoner (reasoningRequest scope user prompt)) →
          ∃ chart, (a.ask scope range user prompt).chart = .ok chart := by
  intro h
  let a : Analyst := ⟨.freight, .usual, fun _ _ => .ok [],
    fun _ => .ok (retailByCarrier (.int 5))⟩
  have hc : Prompt.classify a.catalog "hello" = none := classify_hello
  obtain ⟨chart, hchart⟩ := h a .admin none none "hello" hc (isOutcome_retailByCarrier (.int 5))
  rw [ask_chart_of_none hc] at hchart
  obtain ⟨made, hmade, -⟩ := map_eq_ok.1 hchart
  obtain ⟨_, ⟨⟩, hdrawn⟩ | ⟨_, _, ⟨⟩, -⟩ := passOn_eq_ok.1 hmade
  have hreadable : (retailByCarrier (.int 5)).IsReadable :=
    (exists_drawn_iff (List.forall_mem_nil _)).1 ⟨made, hdrawn⟩
  cases hreadable rfl _ rfl

end Analyst

end PromptChart
