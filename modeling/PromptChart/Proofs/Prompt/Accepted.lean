import PromptChart.Proofs.Prompt.Dimensions

namespace PromptChart.Prompt

open Text (lower stripped)

/-- One of two tokens is an alias of a dimension, or the first one stands for a metric. -/
def IsMeant (c : Catalog) (first second : String) : Prop :=
  c.isDimensionAlias first = true ∨ c.isDimensionAlias second = true ∨
    c.isMetricKeyword first = true

/-- Of two tokens only the second is known, and only as a metric. -/
structure IsMetricBehind (c : Catalog) (first second : String) : Prop where
  no_alias : c.isDimensionAlias first = false ∧ c.isDimensionAlias second = false
  no_metric : c.isMetricKeyword first = false
  metric : c.isMetricKeyword second = true

variable {c : Catalog} {ctx : Context} {m : Regex.Match} {r : Rule} {b : Breakdown}
  {t : String × Regex} {prompt first second : String}

theorem exists_template (hr : r ∈ rules) (hname : r.name ∈ templates.map (·.1)) :
    ∃ t ∈ templates, r = .ofPattern t.1 t.2 readSlots := by
  obtain h | rfl | rfl := rules_cases hr
  · exact h
  · exact absurd hname (by decide)
  · exact absurd hname (by decide)

theorem isMeant_iff (h : (ctx.recognises first || ctx.recognises second) = true) :
    IsMeant ctx.catalog first second ↔ ¬ IsMetricBehind ctx.catalog first second := by
  simp only [Context.recognises, Bool.or_eq_true] at h
  constructor
  · rintro (hfirst | hsecond | hmetric) hbehind
    · exact absurd hbehind.no_alias.1 (ne_false_of_eq_true hfirst)
    · exact absurd hbehind.no_alias.2 (ne_false_of_eq_true hsecond)
    · exact absurd hbehind.no_metric (ne_false_of_eq_true hmetric)
  · intro hbehind
    by_contra hnot
    simp only [IsMeant, not_or, Bool.not_eq_true] at hnot
    obtain ⟨hfirst, hsecond, hmetric⟩ := hnot
    refine hbehind ⟨⟨hfirst, hsecond⟩, hmetric, ?_⟩
    simpa only [hfirst, hsecond, hmetric, Bool.false_eq_true, false_or] using h

theorem recognises_of_readSlots (h : readSlots ctx m = some b) :
    (ctx.recognises (m.group 2) || ctx.recognises (m.group 3)) = true := by
  unfold readSlots at h
  split at h
  next hrecognised => exact hrecognised
  next => cases h

theorem template_reads (ht : t ∈ templates)
    (hfind : (Rule.ofPattern t.1 t.2 readSlots).find ctx = some m)
    (hread : readSlots ctx m = some b) :
    IsSplitBy ctx.catalog ctx.lowered b (m.group 2) (m.group 3) ∧
      (IsMeant ctx.catalog (m.group 2) (m.group 3) ↔
        ¬ IsMetricBehind ctx.catalog (m.group 2) (m.group 3)) :=
  ⟨readSlots_isSplitBy (words_of_template ht hfind) hread,
    isMeant_iff (recognises_of_readSlots hread)⟩

/-- The tokens of an accepted template are whole words of the prompt, one behind the other, and
both mean fields. One of them is an alias, or the first one stands for a metric, exactly if it
is not so that only the second one is known, and only as a metric. -/
theorem template_tokens_iff (h : classify c prompt = some (.breakdown b))
    (hrule : ∃ name ∈ ruleName? c prompt, name ∈ templates.map (·.1)) :
    ∃ first second, dimensionTokens? c prompt = some (first, second) ∧
      IsSplitBy c (stripped (lower prompt)) b first second ∧
      (IsMeant c first second ↔ ¬ IsMetricBehind c first second) := by
  obtain ⟨r, haccepted⟩ := classify_breakdown h
  obtain ⟨hr, m, hfind, hread⟩ := exists_of_firstAccepted haccepted
  obtain ⟨name, hname, htemplate⟩ := hrule
  obtain rfl : r.name = name := by
    simpa only [ruleName?, haccepted, Option.map_some, Option.mem_some_iff] using hname
  obtain ⟨t, ht, rfl⟩ := exists_template hr htemplate
  have htokens : dimensionTokens? c prompt = some (m.group 2, m.group 3) := by
    simp only [dimensionTokens?, haccepted, hfind, Option.bind_some]
    exact tokens?_ofPattern ht readSlots m
  exact ⟨_, _, htokens, template_reads ht hfind hread⟩

theorem template_tokens_of_weight :
    let prompt := "total miles by weight and commodity"
    classify .freight prompt = some (.breakdown ⟨"weight", "commodity", "miles", .sum, []⟩) ∧
      (∃ name ∈ ruleName? .freight prompt, name ∈ templates.map (·.1)) ∧
      IsSplitBy .freight prompt ⟨"weight", "commodity", "miles", .sum, []⟩ "weight"
        "commodity" ∧
      IsMeant .freight "weight" "commodity" := by
  intro prompt
  obtain ⟨hread, hname, hwords⟩ :
      classify .freight prompt = some (.breakdown ⟨"weight", "commodity", "miles", .sum, []⟩) ∧
      ruleName? .freight prompt = some "aggregate_verb" ∧
      dimensionTokens? .freight prompt = some ("weight", "commodity") := by decide +kernel
  have hrule : ∃ name ∈ ruleName? .freight prompt, name ∈ templates.map (·.1) :=
    ⟨_, hname, by decide⟩
  have hlowered : stripped (lower prompt) = prompt := by decide +kernel
  obtain ⟨first, second, htokens, hsplit, hiff⟩ := template_tokens_iff hread hrule
  obtain ⟨rfl, rfl⟩ : "weight" = first ∧ "commodity" = second := by simpa [hwords] using htokens
  rw [hlowered] at hsplit
  refine ⟨hread, hrule, hsplit, hiff.2 fun hbehind => ?_⟩
  exact absurd hbehind.metric (by decide +kernel)

/-- A weight in the place of the second dimension, behind a field that is found by its id. -/
theorem not_forall_template_tokens_meant :
    ¬ ∀ prompt b first second, classify .freight prompt = some (.breakdown b) →
      (∃ name ∈ ruleName? .freight prompt, name ∈ templates.map (·.1)) →
      dimensionTokens? .freight prompt = some (first, second) →
      IsMeant .freight first second := by
  intro h
  let prompt := "average retail by commodity and weight"
  obtain ⟨hread, hname, hwords⟩ :
      classify .freight prompt = some (.breakdown ⟨"commodity", "weight", "retail", .avg, []⟩) ∧
      ruleName? .freight prompt = some "aggregate_verb" ∧
      dimensionTokens? .freight prompt = some ("commodity", "weight") := by decide +kernel
  have hmeant := h prompt _ _ _ hread ⟨_, hname, by decide⟩ hwords
  have hnot : Catalog.freight.isDimensionAlias "commodity" = false ∧
      Catalog.freight.isDimensionAlias "weight" = false ∧
      Catalog.freight.isMetricKeyword "commodity" = false := by decide +kernel
  rw [IsMeant, hnot.1, hnot.2.1, hnot.2.2] at hmeant
  exact absurd hmeant (by decide)

end PromptChart.Prompt
