import PromptChart.Proofs.Analyst.Requests
import PromptChart.Proofs.Prompt.Rules

namespace PromptChart

def Inquiry.groupings (i : Inquiry) : List String := i.requests.flatMap (·.grouping.fields)

namespace Analyst

variable {a : Analyst} {scope : Scope} {range : Option DateRange} {user : Option String}
  {prompt : String}

/-- A field that the store is asked to group by is a field of the breakdown that the prompt is
read as, or the field that terms are looked up in. -/
theorem mem_groupings {field : String} (h : field ∈ (a.ask scope range user prompt).groupings) :
    field = a.catalog.textField ∨ ∃ b, Prompt.classify a.catalog prompt = some (.breakdown b) ∧
      0 < b.limit a.catalog a.settings ∧ (field = b.primary ∨ field = b.secondary) := by
  obtain ⟨r, hr, hfield⟩ := List.mem_flatMap.1 h
  obtain ⟨intent, hc, hr⟩ := exists_intent_of_mem_ask hr
  cases intent with
  | comparison x =>
    rw [(compare_asks hr).grouping] at hfield
    exact .inl (List.mem_singleton.1 hfield)
  | breakdown b =>
    obtain ⟨-, hgrouping, -, -, hpos⟩ := breakDown_asks hr
    rw [hgrouping] at hfield
    simp only [Grouping.fields, rescope, List.mem_cons, List.not_mem_nil, or_false] at hfield
    exact .inr ⟨b, hc, hpos, hfield⟩

theorem mem_groupings_of_breakdown {b : Breakdown} {table field : String}
    (hc : Prompt.classify a.catalog prompt = some (.breakdown b))
    (htable : b.table a.catalog = .ok table) (hpos : 0 < b.limit a.catalog a.settings)
    (hfield : field = b.primary ∨ field = b.secondary) :
    field ∈ (a.ask scope range user prompt).groupings := by
  have hne : (a.breakDown scope range b).requests ≠ [] := breakDown_requests_ne_nil htable hpos
  obtain ⟨r, rest, hrequests⟩ := List.exists_cons_of_ne_nil hne
  have hr : r ∈ (a.breakDown scope range b).requests := by
    rw [hrequests]
    exact .head _
  apply List.mem_flatMap.2
  refine ⟨r, ?_, ?_⟩
  · rw [ask_requests_of_some hc]
    exact hr
  · rw [(breakDown_asks hr).grouping]
    simpa [Grouping.fields, rescope] using hfield

end Analyst

theorem Breakdown.exists_freight_table (b : Breakdown) :
    ∃ table, b.table .freight = .ok table := by
  unfold Breakdown.table
  split
  · exact ⟨"shipment_item", rfl⟩
  · exact ⟨"shipment", rfl⟩

/-- The aliases of the freight catalog name no admin-only column, so only the search among all
columns leads to one. -/
theorem Catalog.match?_of_adminOnly {token field : String}
    (h : Catalog.freight.dimension? token = some field)
    (hadmin : field ∈ Catalog.freight.adminOnlyIds) :
    Catalog.freight.isDimensionAlias token = false ∧
      Column.match? Catalog.freight.columns token = some field := by
  have haliases : ∀ e ∈ Catalog.freight.dimensionAliases,
      e.2 ∉ Catalog.freight.adminOnlyIds := by decide
  unfold Catalog.dimension? Catalog.dimensionIn? at h
  cases hl : Catalog.freight.dimensionAliases.lookup (cleanToken token) with
  | some target =>
    rw [hl] at h
    cases h
    exact absurd hadmin (haliases _ (Entries.mem_of_lookup hl))
  | none =>
    rw [hl] at h
    refine ⟨?_, h⟩
    rw [Catalog.isDimensionAlias, hl, Option.isSome_none]

namespace Analyst

/-- Whatever the scope, the store is asked to group by an admin-only field exactly for the
prompts that are read as a breakdown in which a token that is no alias names an admin-only
column. -/
theorem adminOnly_grouping_iff (settings : Settings) (store : Store) (reasoner : Reasoner)
    (scope : Scope) (range : Option DateRange) (user : Option String) (prompt : String) :
    (∃ field ∈
      (Analyst.ask ⟨.freight, settings, store, reasoner⟩ scope range user prompt).groupings,
        field ∈ Catalog.freight.adminOnlyIds) ↔
      ∃ b field token, Prompt.classify .freight prompt = some (.breakdown b) ∧
        0 < b.limit .freight settings ∧ (field = b.primary ∨ field = b.secondary) ∧
        Catalog.freight.isDimensionAlias token = false ∧
        Column.match? Catalog.freight.columns token = some field ∧
        field ∈ Catalog.freight.adminOnlyIds := by
  have htext : "description" ∉ Catalog.freight.adminOnlyIds := by decide
  constructor
  · rintro ⟨field, hfield, hadmin⟩
    obtain rfl | ⟨b, hc, hpos, hf⟩ := mem_groupings hfield
    · exact absurd hadmin htext
    obtain ⟨hprimary, hsecondary⟩ := Prompt.classify_dimensions hc
    have htoken : ∃ token, Catalog.freight.dimension? token = some field := by
      obtain rfl | rfl := hf
      · obtain he | htoken := hprimary
        · rw [he] at hadmin
          exact absurd hadmin htext
        · exact htoken
      · exact hsecondary
    obtain ⟨token, htoken⟩ := htoken
    obtain ⟨halias, hmatch⟩ := Catalog.match?_of_adminOnly htoken hadmin
    exact ⟨b, field, token, hc, hpos, hf, halias, hmatch, hadmin⟩
  · rintro ⟨b, field, token, hc, hpos, hf, -, -, hadmin⟩
    obtain ⟨table, htable⟩ := b.exists_freight_table
    exact ⟨field, mem_groupings_of_breakdown hc htable hpos hf, hadmin⟩

/-- A customer's records are grouped by the margin on them. -/
theorem not_forall_grouping_open :
    ¬ ∀ (settings : Settings) (store : Store) (reasoner : Reasoner) (scope : Scope)
      (range : Option DateRange) (user : Option String) (prompt : String),
      scope.isAdmin = false →
        ∀ field ∈
          (Analyst.ask ⟨.freight, settings, store, reasoner⟩ scope range user prompt).groupings,
          field ∉ Catalog.freight.adminOnlyIds := by
  intro h
  have hc : Prompt.classify .freight "average retail by margin and carrier" =
      some (.breakdown ⟨"margin", "carrier_name", "retail", .avg, []⟩) := by decide +kernel
  have hmem :
      "margin" ∈
        (Analyst.ask ⟨.freight, .usual, fun _ _ => .ok [], fun _ => .ok Reasoning.mockResponse⟩
      ⟨some 7⟩ none none "average retail by margin and carrier").groupings :=
    mem_groupings_of_breakdown hc rfl (by decide) (.inl rfl)
  exact h _ _ _ ⟨some 7⟩ _ _ _ (by decide) _ hmem (by decide)

end Analyst

end PromptChart
