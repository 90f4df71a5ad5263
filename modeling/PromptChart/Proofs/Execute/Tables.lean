import PromptChart.Catalog.Freight
import PromptChart.Proofs.Execute.Plan

namespace PromptChart

variable {c : Catalog} {s : Settings} {scope : Scope} {range : Option DateRange} {b : Breakdown}

/-- Does a request group by a field or filter on it? -/
def Request.Mentions (r : Request) (field : String) : Prop :=
  field ∈ r.grouping.fields ∨ ∃ f ∈ r.filters, f.field = field

theorem DateRange.exists_filters_field {field : String} :
    (∃ f ∈ DateRange.filters c range, f.field = field) ↔
      range.isSome = true ∧ c.dateField = field := by
  cases range <;> simp [DateRange.filters]

namespace Breakdown

/-- Does a breakdown ask for the shipments rather than their items? -/
def asksShipments (c : Catalog) (b : Breakdown) : Prop := b.primary ≠ c.textField ∧ b.terms = []

theorem table_of_asksShipments (h : b.asksShipments c) : b.table c = c.table "shipment" := by
  simp [table, h.1, h.2]

theorem table_of_not_asksShipments (h : ¬ b.asksShipments c) : b.table c = c.table "item" := by
  have hitem : b.primary = c.textField ∨ b.terms ≠ [] := by
    unfold asksShipments at h
    tauto
  obtain hprimary | hterms := hitem
  · simp [table, hprimary]
  · simp [table, hterms]

theorem isPerTerm_of_asksShipments (h : b.asksShipments c) : b.isPerTerm c = false := by
  simp [isPerTerm, h.2]

/-- The one request of a breakdown of shipments mentions the text exactly if its secondary field
is the text or a range is put on the text. -/
theorem mentions_textField_iff (h : b.asksShipments c) {plan : Plan}
    (hplan : b.plan c s range = .ok plan) {r : Request} (hr : r ∈ plan.requests) :
    r.Mentions c.textField ↔
      b.secondary = c.textField ∨ range.isSome = true ∧ c.dateField = c.textField := by
  have hfilters := (filtered_of_mem_plan hplan hr).eq_of_single (isPerTerm_of_asksShipments h)
  have hfields : c.textField ∈ r.grouping.fields ↔ b.secondary = c.textField := by
    rw [(asks_of_mem_plan hplan hr).grouping, Grouping.fields, List.mem_cons,
      List.mem_singleton]
    constructor
    · rintro (hprimary | hsecondary)
      · exact absurd hprimary.symm h.1
      · exact hsecondary.symm
    · intro hsecondary
      exact .inr hsecondary.symm
  rw [Request.Mentions, hfilters, DateRange.exists_filters_field, hfields]

end Breakdown

/-- A comparison always asks for line items. A breakdown asks some other table about the text
that terms are looked up in exactly if it has no terms, its primary field is not that text, its
secondary field is (or, where the text is the date, there is a range), and the catalog keeps
shipments elsewhere. -/
theorem textField_elsewhere_iff (c : Catalog) (s : Settings) (store : Store) (scope : Scope)
    (range : Option DateRange) :
    (∀ (x : Comparison) metric, ∀ r ∈ (x.run c s store scope range metric).requests,
      c.table "item" = .ok r.table) ∧
    ∀ b : Breakdown,
      (∃ r ∈ (b.run c s store scope range).requests,
        r.Mentions c.textField ∧ c.table "item" ≠ .ok r.table) ↔
        0 < s.breakdownLimit ∧ b.primary ≠ c.textField ∧ b.terms = [] ∧
          (b.secondary = c.textField ∨ range.isSome = true ∧ c.dateField = c.textField) ∧
          ∃ table, c.table "shipment" = .ok table ∧ c.table "item" ≠ .ok table := by
  refine ⟨fun x metric r hr => (Comparison.asks_of_mem_run hr).table, fun b => ⟨?_, ?_⟩⟩
  · rintro ⟨r, hr, hmentions, htable⟩
    obtain ⟨plan, hplan, hr⟩ := Breakdown.plan_of_mem_run hr
    have hasks := Breakdown.asks_of_mem_plan hplan hr
    have hshipments : b.asksShipments c := by
      by_contra hitems
      rw [← Breakdown.table_of_not_asksShipments hitems] at htable
      exact htable hasks.table
    have hlimit := hasks.limit_pos
    rw [Breakdown.limit, Breakdown.isPerTerm_of_asksShipments hshipments] at hlimit
    refine ⟨hlimit, hshipments.1, hshipments.2,
      (Breakdown.mentions_textField_iff hshipments hplan hr).1 hmentions, r.table, ?_, htable⟩
    rw [← Breakdown.table_of_asksShipments hshipments]
    exact hasks.table
  · rintro ⟨hlimit, hprimary, hterms, hmentions, table, htable, helsewhere⟩
    have hshipments : b.asksShipments c := ⟨hprimary, hterms⟩
    rw [← Breakdown.table_of_asksShipments hshipments] at htable
    have hpos : 0 < b.limit c s := by
      rw [Breakdown.limit, Breakdown.isPerTerm_of_asksShipments hshipments]
      exact hlimit
    obtain ⟨plan, hplan, hne⟩ := Breakdown.exists_plan htable hpos
    obtain ⟨r, hr⟩ := List.exists_mem_of_ne_nil _ hne
    have hasks := Breakdown.asks_of_mem_plan hplan hr
    refine ⟨r, ?_, (Breakdown.mentions_textField_iff hshipments hplan hr).2 hmentions, ?_⟩
    · simpa only [Breakdown.run, hplan] using hr
    · rwa [← hasks.table, htable]

/-- Shipments split by what was in them: their records have no such field. -/
theorem not_forall_textField_items :
    ¬ ∀ (s : Settings) (store : Store) (scope : Scope) (range : Option DateRange)
      (b : Breakdown), ∀ r ∈ (b.run .freight s store scope range).requests,
      r.Mentions Catalog.freight.textField →
        Catalog.freight.table "item" = .ok r.table := by
  intro h
  have hrequests : (Breakdown.run .freight .usual (fun _ _ => .ok []) .admin none
      ⟨"carrier_name", "description", "retail", .avg, []⟩).requests =
        [⟨"shipment", .pair "carrier_name" "description", "retail", .avg, [],
          200, by decide⟩] := rfl
  have htable := h .usual (fun _ _ => .ok []) .admin none
    ⟨"carrier_name", "description", "retail", .avg, []⟩ _ (by rw [hrequests]; exact .head _)
    (.inl (by decide))
  exact absurd htable (by decide)

end PromptChart
