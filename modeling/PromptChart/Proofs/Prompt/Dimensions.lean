import PromptChart.Catalog.Freight
import PromptChart.Proofs.Prompt.Rules
import PromptChart.Proofs.Regex.Captures

namespace PromptChart.Prompt

open Text (lower runs stripped)
open Regex (exactly firstOf inOrder space)

/-- The groups of a rule that hold the tokens of its two dimensions. A phrase beside a list of
products has only one. -/
def dimensionGroups : List (String × Nat × Nat) :=
  [("aggregate_verb", 2, 3), ("metric_by_pair", 2, 3), ("breakdown_of", 2, 3),
    ("grouped_by", 2, 3), ("by_a_and_b", 1, 2)]

def Rule.tokens? (r : Rule) (m : Regex.Match) : Option (String × String) :=
  (dimensionGroups.lookup r.name).map fun groups => (m.group groups.1, m.group groups.2)

def templates : List (String × Regex) :=
  [("aggregate_verb", aggregateVerb), ("metric_by_pair", metricByPair),
    ("breakdown_of", breakdownOf), ("grouped_by", groupedBy)]

/-- The tokens of the two dimensions in a prompt that is read as a breakdown. -/
def dimensionTokens? (c : Catalog) (prompt : String) : Option (String × String) :=
  let ctx := Context.of c (stripped (lower prompt))
  (firstAccepted ctx).bind fun accepted => (accepted.1.find ctx).bind accepted.1.tokens?

variable {c : Catalog} {ctx : Context} {m : Regex.Match} {r : Rule} {b : Breakdown}
  {t : String × Regex} {prompt first second text : String}

theorem rules_cases (hr : r ∈ rules) : (∃ t ∈ templates, r = .ofPattern t.1 t.2 readSlots) ∨
    r = ⟨"product_by_dimension", findListed, readListed⟩ ∨
    r = .ofPattern "by_a_and_b" byPair readPair := by
  simp only [rules, List.mem_cons, List.not_mem_nil, or_false] at hr
  obtain rfl | rfl | rfl | rfl | rfl | rfl := hr
  · exact .inl ⟨_, .head _, rfl⟩
  · exact .inl ⟨_, .tail _ (.head _), rfl⟩
  · exact .inl ⟨_, .tail _ (.tail _ (.head _)), rfl⟩
  · exact .inl ⟨_, .tail _ (.tail _ (.tail _ (.head _))), rfl⟩
  · exact .inr (.inl rfl)
  · exact .inr (.inr rfl)

theorem tokens?_ofPattern (ht : t ∈ templates) (read : Context → Regex.Match → Option Breakdown)
    (m : Regex.Match) :
    (Rule.ofPattern t.1 t.2 read).tokens? m = some (m.group 2, m.group 3) := by
  have hgroups : ∀ t ∈ templates, dimensionGroups.lookup t.1 = some (2, 3) := by decide
  rw [Rule.tokens?]
  exact congrArg (Option.map _) (hgroups t ht)

/-- Two words of a text, one behind the other, mean the fields of a breakdown. -/
structure IsSplitBy (c : Catalog) (text : String) (b : Breakdown)
    (first second : String) : Prop where
  words : [first.toList, second.toList].Sublist (runs text.toList)
  primary : c.dimension? first = some b.primary
  secondary : c.dimension? second = some b.secondary

/-- A list of products is split by a dimension that may follow it. -/
structure IsListSplit (c : Catalog) (b : Breakdown) : Prop where
  primary : b.primary = c.defaultDimension
  secondary : ∃ token ∈ c.breakdownDimensions, c.dimension? token = some b.secondary

theorem isGroupless_anyOf (words : List String) : (anyOf words).isGroupless = true := by
  apply Regex.isGroupless_firstOf
  intro r hr
  obtain ⟨word, -, rfl⟩ := List.mem_map.1 hr
  exact Regex.isGroupless_caseless word

theorem words_of_slots (front : List Regex) {connectors joints : List String}
    (h : (inOrder (front ++ slots connectors joints)).search text = some m) :
    [(m.group 2).toList, (m.group 3).toList].Sublist (runs text.toList) := by
  have hjoints : ∀ r ∈ [anyOf joints], r.isGroupless = true :=
    List.forall_mem_singleton.2 (isGroupless_anyOf joints)
  refine Regex.groups_sublist_runs (front ++ [token 1, space, anyOf connectors]) [anyOf joints]
    hjoints (by decide) ?_
  rwa [List.append_assoc]

theorem words_of_template (ht : t ∈ templates) (h : t.2.search text = some m) :
    [(m.group 2).toList, (m.group 3).toList].Sublist (runs text.toList) := by
  simp only [templates, List.mem_cons, List.not_mem_nil, or_false] at ht
  obtain rfl | rfl | rfl | rfl := ht
  · exact words_of_slots [_, _] h
  · exact words_of_slots [] h
  · exact words_of_slots [_, _, _, _] h
  · exact Regex.groups_sublist_runs [_, _, _] [_, _, _] (by decide) (by decide) h

theorem readSlots_isSplitBy
    (hwords : [(m.group 2).toList, (m.group 3).toList].Sublist (runs ctx.lowered.toList))
    (h : readSlots ctx m = some b) :
    IsSplitBy ctx.catalog ctx.lowered b (m.group 2) (m.group 3) := by
  unfold readSlots at h
  split at h
  · obtain ⟨primary, secondary, hprimary, hsecondary, rfl⟩ := Context.breakdown?_eq_some_iff.1 h
    exact ⟨hwords, hprimary, hsecondary⟩
  · cases h

theorem readPair_isSplitBy
    (hwords : [(m.group 1).toList, (m.group 2).toList].Sublist (runs ctx.lowered.toList))
    (h : readPair ctx m = some b) :
    IsSplitBy ctx.catalog ctx.lowered b (m.group 1) (m.group 2) := by
  unfold readPair at h
  split at h
  · obtain ⟨primary, secondary, hprimary, hsecondary, rfl⟩ := Context.breakdown?_eq_some_iff.1 h
    exact ⟨hwords, hprimary, hsecondary⟩
  · cases h

theorem group_of_findListed (hne : ctx.catalog.breakdownDimensions ≠ [])
    (h : findListed ctx = some m) :
    m.group 1 ∈ ctx.catalog.breakdownDimensions := by
  have hlisted :
      (firstOf (ctx.catalog.breakdownDimensions.map exactly)).isGroupless = true := by
    apply Regex.isGroupless_firstOf
    intro r hr
    obtain ⟨word, -, rfl⟩ := List.mem_map.1 hr
    exact Regex.isGroupless_exactly word
  have hgroup : ∃ c d, (firstOf (ctx.catalog.breakdownDimensions.map exactly)).Takes c d ∧
      m.group 1 = String.ofList (c.textTo d) := by
    unfold findListed at h
    split at h
    · cases h
    · obtain ⟨phrase, hphrase, hfound⟩ := List.exists_of_findSome?_eq_some h
      simp only [dimensionPhrases, List.mem_cons, List.not_mem_nil, or_false] at hphrase
      obtain rfl | rfl | rfl := hphrase
      · exact Regex.group_of_search [_, _, _] [] (by decide) hlisted (by decide) hfound
      · exact Regex.group_of_search [_] [_, _, _] (by decide) hlisted (by decide) hfound
      · exact Regex.group_of_search [_, _, _, _, _] [] (by decide) hlisted (by decide) hfound
  obtain ⟨start, stop, htakes, hgroup⟩ := hgroup
  rw [Regex.takes_firstOf (by simpa using hne)] at htakes
  obtain ⟨r, hr, htakes⟩ := htakes
  obtain ⟨word, hword, rfl⟩ := List.mem_map.1 hr
  rwa [hgroup, (Regex.takes_exactly.1 htakes).textTo, String.ofList_toList]

theorem readListed_isListSplit (hne : ctx.catalog.breakdownDimensions ≠ [])
    (hfind : findListed ctx = some m) (h : readListed ctx m = some b) :
    IsListSplit ctx.catalog b := by
  obtain ⟨secondary, hsecondary, rfl⟩ := Option.map_eq_some_iff.1 h
  exact ⟨rfl, m.group 1, group_of_findListed hne hfind, hsecondary⟩

/-- Every rule splits by two words of the text, or else a list of products by a listed
dimension. -/
theorem rule_splits (hne : ctx.catalog.breakdownDimensions ≠ []) (hr : r ∈ rules)
    (hfind : r.find ctx = some m) (hread : r.read ctx m = some b) :
    (∃ first second, r.tokens? m = some (first, second) ∧
      IsSplitBy ctx.catalog ctx.lowered b first second) ∨
      r.tokens? m = none ∧ IsListSplit ctx.catalog b := by
  obtain ⟨t, ht, rfl⟩ | rfl | rfl := rules_cases hr
  · exact .inl ⟨_, _, tokens?_ofPattern ht readSlots m,
      readSlots_isSplitBy (words_of_template ht hfind) hread⟩
  · exact .inr ⟨rfl, readListed_isListSplit hne hfind hread⟩
  · refine .inl ⟨_, _, rfl, readPair_isSplitBy ?_ hread⟩
    exact Regex.groups_sublist_runs [_, _] [_] (by decide) (by decide) hfind

theorem exists_of_classify_tokens (h : classify c prompt = some (.breakdown b)) :
    ∃ r ∈ rules, ∃ m, r.find (Context.of c (stripped (lower prompt))) = some m ∧
      r.read (Context.of c (stripped (lower prompt))) m = some b ∧
      dimensionTokens? c prompt = r.tokens? m := by
  obtain ⟨r, hr⟩ := classify_breakdown h
  obtain ⟨hmem, m, hfind, hread⟩ := exists_of_firstAccepted hr
  refine ⟨r, hmem, m, hfind, hread, ?_⟩
  simp only [dimensionTokens?, hr, hfind, Option.bind_some]

theorem splits_of_classify (hne : c.breakdownDimensions ≠ [])
    (h : classify c prompt = some (.breakdown b)) :
    (∃ first second, dimensionTokens? c prompt = some (first, second) ∧
      IsSplitBy c (stripped (lower prompt)) b first second) ∨
      dimensionTokens? c prompt = none ∧ IsListSplit c b := by
  obtain ⟨r, hr, m, hfind, hread, htokens⟩ := exists_of_classify_tokens h
  rw [htokens]
  exact rule_splits hne hr hfind hread

/-- The dimensions that may follow a list of products are others than its own. -/
structure ListsOtherDimensions (c : Catalog) : Prop where
  ne_nil : c.breakdownDimensions ≠ []
  others : ∀ token ∈ c.breakdownDimensions, c.dimension? token ≠ some c.defaultDimension

theorem listsOtherDimensions_freight : ListsOtherDimensions Catalog.freight :=
  ⟨by decide, by decide +kernel⟩

theorem IsListSplit.primary_ne_secondary (hc : ListsOtherDimensions c) (h : IsListSplit c b) :
    b.primary ≠ b.secondary := by
  obtain ⟨token, htoken, hsecondary⟩ := h.secondary
  intro heq
  rw [← heq, h.primary] at hsecondary
  exact hc.others token htoken hsecondary

theorem IsSplitBy.primary_ne_secondary_iff (h : IsSplitBy c text b first second) :
    b.primary ≠ b.secondary ↔ c.dimension? first ≠ c.dimension? second := by
  rw [h.primary, h.secondary, ne_eq, ne_eq, Option.some_inj]

/-- A breakdown splits by two fields exactly if the two words of the prompt that it takes as its
dimensions do not mean the same one. -/
theorem splits_by_two_fields_iff (hc : ListsOtherDimensions c)
    (h : classify c prompt = some (.breakdown b)) :
    (∀ tokens ∈ dimensionTokens? c prompt,
      IsSplitBy c (stripped (lower prompt)) b tokens.1 tokens.2) ∧
    (b.primary ≠ b.secondary ↔
      ∀ tokens ∈ dimensionTokens? c prompt,
        c.dimension? tokens.1 ≠ c.dimension? tokens.2) := by
  rcases splits_of_classify hc.ne_nil h with ⟨first, second, htokens, hsplit⟩ | ⟨htokens, hlist⟩
  · simp only [htokens, Option.mem_some_iff, forall_eq']
    exact ⟨hsplit, hsplit.primary_ne_secondary_iff⟩
  · simp only [htokens, Option.not_mem_none, false_implies, implies_true, true_and, iff_true]
    exact hlist.primary_ne_secondary hc

theorem splits_by_carrier_and_state :
    ListsOtherDimensions .freight ∧
      classify .freight "average retail by carrier and origin" =
        some (.breakdown ⟨"carrier_name", "origin_state", "retail", .avg, []⟩) ∧
      IsSplitBy .freight "average retail by carrier and origin"
        ⟨"carrier_name", "origin_state", "retail", .avg, []⟩ "carrier" "origin" ∧
        "carrier_name" ≠ "origin_state" := by
  have hread : classify .freight "average retail by carrier and origin" =
      some (.breakdown ⟨"carrier_name", "origin_state", "retail", .avg, []⟩) := by
    decide +kernel
  have htokens : dimensionTokens? .freight "average retail by carrier and origin" =
      some ("carrier", "origin") := by
    decide +kernel
  have hlowered : stripped (lower "average retail by carrier and origin") =
      "average retail by carrier and origin" := by
    decide +kernel
  obtain ⟨hsplit, hne⟩ := splits_by_two_fields_iff listsOtherDimensions_freight hread
  rw [htokens, hlowered] at hsplit
  rw [htokens] at hne
  refine ⟨listsOtherDimensions_freight, hread, hsplit _ rfl, hne.2 ?_⟩
  simp only [Option.mem_some_iff, forall_eq']
  decide +kernel

/-- State and origin are the same field. -/
theorem not_forall_splits_by_two_fields :
    ¬ ∀ prompt b, classify .freight prompt = some (.breakdown b) → b.primary ≠ b.secondary := by
  intro h
  have hread : classify .freight "average retail by state and origin" =
      some (.breakdown ⟨"origin_state", "origin_state", "retail", .avg, []⟩) := by
    decide +kernel
  exact h _ _ hread rfl

end PromptChart.Prompt
