import PromptChart.Proofs.Analyst.Charts
import PromptChart.Proofs.Execute.Raw
import PromptChart.Proofs.Merge.Pivot

namespace PromptChart

theorem emptyMessage_ne_empty (terms : List String) (range : Option DateRange) (what : String) :
    emptyMessage terms range what ≠ "" := by
  unfold emptyMessage
  dsimp only
  split
  · split <;> simp
  · split <;> simp

theorem Failure.message_query_ne_empty (table detail : String) :
    (Failure.query table detail).message ≠ "" := by
  have hmessage : (Failure.query table detail).message =
      "Aggregate query on '" ++ table ++ "' failed: " ++ detail := rfl
  simp [hmessage]

theorem ReasoningFault.userMessage_ne_empty (fault : ReasoningFault) (detail : String) :
    fault.userMessage detail ≠ "" := by
  have hother : (if detail.isEmpty then "AI request failed" else detail) ≠ "" := by
    split
    · decide
    next hdetail => exact fun he => hdetail (he ▸ rfl)
  cases fault with
  | timeout => simp [userMessage]
  | server => simp [userMessage]
  | malformed => simp [userMessage]
  | generic => exact hother
  | other name => exact hother

theorem ReasoningResponse.refusal_ne_empty (response : ReasoningResponse) :
    response.refusal ≠ "" := by
  unfold refusal
  cases herror : response.error.filter (!·.isEmpty) with
  | none => decide
  | some error =>
    obtain ⟨-, hne⟩ := Option.filter_eq_some_iff.1 herror
    intro he
    rw [Option.getD_some] at he
    simp [he] at hne

namespace Chart

/-- The status of a chart fits its data and its message. -/
structure IsTruthful (chart : Chart) : Prop where
  ok : chart.status = .ok → chart.points ≠ [] ∨ chart.rows ≠ []
  empty : chart.status = .empty →
    chart.points = [] ∧ chart.rows = [] ∧ chart.secondaries = [] ∧ chart.message ≠ ""
  error : chart.status = .error → chart.points = [] ∧ chart.rows = [] ∧ chart.message ≠ ""
  grouped : chart.rows = [] ↔ chart.secondaries = []
  settled : chart.status ≠ .superseded

variable {chart : Chart} {message : String}

theorem IsTruthful.read (h : chart.IsTruthful) (intent : Option Intent) :
    IsTruthful { chart with intent } :=
  ⟨h.ok, h.empty, h.error, h.grouped, h.settled⟩

theorem isTruthful_failed (source : ChartSource) (hmessage : message ≠ "")
    (reasoning : List Json) :
    (failed source message reasoning).IsTruthful where
  ok := nofun
  empty := nofun
  error _ := ⟨rfl, rfl, hmessage⟩
  grouped := iff_of_true rfl rfl
  settled := nofun

theorem isTruthful_emptied (hpoints : chart.points = []) (hrows : chart.rows = [])
    (hgrouped : chart.rows = [] ↔ chart.secondaries = []) (hmessage : message ≠ "") :
    (chart.emptied message).IsTruthful where
  ok := nofun
  empty _ := ⟨hpoints, hrows, hgrouped.1 hrows, hmessage⟩
  error := nofun
  grouped := hgrouped
  settled := nofun

theorem isTruthful_of_data (hstatus : chart.status = .ok)
    (hdata : chart.points ≠ [] ∨ chart.rows ≠ [])
    (hgrouped : chart.rows = [] ↔ chart.secondaries = []) : chart.IsTruthful where
  ok _ := hdata
  empty hempty := by cases hstatus.symm.trans hempty
  error herror := by cases hstatus.symm.trans herror
  grouped := hgrouped
  settled hsuperseded := by cases hstatus.symm.trans hsuperseded

theorem isTruthful_of_points (chart : Chart) (hstatus : chart.status = .ok)
    (hrows : chart.rows = []) (hsecondaries : chart.secondaries = [])
    (hmessage : message ≠ "") :
    (if chart.points.isEmpty then chart.emptied message else chart).IsTruthful := by
  have hgrouped : chart.rows = [] ↔ chart.secondaries = [] := iff_of_true hrows hsecondaries
  split
  next hpoints => exact isTruthful_emptied (List.isEmpty_iff.1 hpoints) hrows hgrouped hmessage
  next hpoints =>
    exact isTruthful_of_data hstatus (.inl fun he => hpoints (List.isEmpty_iff.2 he)) hgrouped

theorem isTruthful_of_rows (chart : Chart) (hstatus : chart.status = .ok)
    (hpoints : chart.points = []) (hgrouped : chart.rows = [] ↔ chart.secondaries = [])
    (hmessage : message ≠ "") :
    (if chart.rows.isEmpty then chart.emptied message else chart).IsTruthful := by
  split
  next hrows => exact isTruthful_emptied hpoints (List.isEmpty_iff.1 hrows) hgrouped hmessage
  next hrows =>
    exact isTruthful_of_data hstatus (.inr fun he => hrows (List.isEmpty_iff.2 he)) hgrouped

end Chart

theorem Breakdown.rows_run_eq_nil_iff {b : Breakdown} {c : Catalog} {s : Settings}
    {store : Store} {scope : Scope} {range : Option DateRange} {data : Grouped}
    (h : (b.run c s store scope range).result = .ok data) :
    data.rows = [] ↔ data.secondaries = [] := by
  obtain ⟨cells, -, hpivot⟩ := chart_of_raw h
  rw [← hpivot]
  exact Pivot.rows_ofMerged_eq_nil_iff data.raw cells

namespace Analyst

variable {a : Analyst} {scope : Scope} {range : Option DateRange} {user : Option String}
  {prompt : String} {chart : Chart}

theorem isTruthful_compare {x : Comparison} (h : (a.compare scope range x).result = .ok chart) :
    chart.IsTruthful := by
  obtain ⟨points, -, rfl⟩ := compare_eq_ok h
  exact Chart.isTruthful_of_points (x.chart _ _ points) rfl rfl rfl
    (emptyMessage_ne_empty x.terms range productData)

theorem isTruthful_breakDown {b : Breakdown}
    (h : (a.breakDown scope range b).result = .ok chart) :
    chart.IsTruthful := by
  obtain ⟨data, hdata, rfl⟩ | ⟨table, detail, -, rfl⟩ := breakDown_eq_ok h
  · exact Chart.isTruthful_of_rows (Breakdown.chart _ _ data) rfl rfl
      (Breakdown.rows_run_eq_nil_iff hdata) (emptyMessage_ne_empty _ range _)
  · exact Chart.isTruthful_failed .own (Failure.message_query_ne_empty table detail) []

theorem isTruthful_passOn (h : (a.passOn scope user prompt).chart = .ok chart) :
    chart.IsTruthful := by
  obtain ⟨response, -, hdrawn⟩ | ⟨fault, detail, -, rfl⟩ := passOn_eq_ok.1 h
  · obtain ⟨v, rest, made, -, -, hmade, rfl⟩ | ⟨-, rfl⟩ := drawn_eq_ok.1 hdrawn
    · obtain ⟨data, read, kind, steps, -, -, -, -, rfl⟩ := Visualized.chart_eq_ok.1 hmade
      exact Chart.isTruthful_of_points _ rfl rfl rfl (by decide)
    · exact Chart.isTruthful_failed .service response.refusal_ne_empty response.reasoning
  · exact Chart.isTruthful_failed .service (fault.userMessage_ne_empty detail) []

/-- The status of every chart that a prompt leads to fits its data and its message. -/
theorem ask_isTruthful (h : (a.ask scope range user prompt).chart = .ok chart) :
    chart.IsTruthful := by
  obtain ⟨-, made, hmade, rfl⟩ | ⟨intent, -, made, hmade, rfl⟩ := ask_eq_ok h
  · exact (isTruthful_passOn hmade).read none
  · have htruthful : made.IsTruthful := by
      cases intent with
      | comparison x => exact isTruthful_compare hmade
      | breakdown b => exact isTruthful_breakDown hmade
    exact htruthful.read (some intent)

/-- A reasoning service whose only row holds a text in place of a number. -/
def unreadableRow (_ : ReasoningRequest) : Except Failure ReasoningResponse :=
  .ok ⟨true, [⟨"bar", "Weight by carrier", some "carrier", some "weight",
    [("data", .array [.object [("label", .text "Saia"), ("value", .text "heavy")]])]⟩], [],
    none⟩

theorem ask_isTruthful_of_unreadable_row :
    ∃ chart, (ask ⟨.freight, .usual, fun _ _ => .ok [], unreadableRow⟩ ⟨some 7⟩ none
      none "hello").chart = .ok chart ∧ chart.status = .empty ∧ chart.IsTruthful := by
  obtain ⟨chart, hchart, hstatus⟩ : ∃ chart,
      (ask ⟨.freight, .usual, fun _ _ => .ok [], unreadableRow⟩ ⟨some 7⟩ none
        none "hello").chart = .ok chart ∧ chart.status = .empty :=
    exists_of_toOption_map (by decide +kernel)
  exact ⟨chart, hchart, hstatus, ask_isTruthful hchart⟩

end Analyst

end PromptChart
