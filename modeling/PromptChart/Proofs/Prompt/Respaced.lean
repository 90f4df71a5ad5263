import Mathlib.Data.List.Find
import PromptChart.Catalog.Freight
import PromptChart.Prompt.Classify
import PromptChart.Proofs.Prompt.Places

namespace PromptChart.Prompt

open Text (IsSolid IsPhrase IsTrimmed Respaced isBlank lower stripped words starts contains)
open Regex (Blind Clear Led Found caseless exactly inOrder firstOf gap space opt boundary)

/-- The phrases that are looked for with one space between their words. -/
def spacedPhrases : List String := ["grouped by", "for each", "how many"]

variable {c : Catalog} {word : String} {phrases words : List String} {index : Nat}

theorem isPhrase_of_mem (h : word ∈ spacedPhrases) : IsPhrase word.toList := by
  simp only [spacedPhrases, List.mem_cons, List.not_mem_nil, or_false] at h
  obtain rfl | rfl | rfl := h
  · exact ⟨"grouped".toList, "by".toList, by decide +kernel, by decide +kernel, rfl⟩
  · exact ⟨"for".toList, "each".toList, by decide +kernel, by decide +kernel, rfl⟩
  · exact ⟨"how".toList, "many".toList, by decide +kernel, by decide +kernel, rfl⟩

theorem clear_anyOf (hne : words ≠ [])
    (h : ∀ word ∈ words, IsSolid word.toList ∨ word ∈ spacedPhrases) :
    Clear spacedPhrases (anyOf words) := by
  apply Clear.firstOf (by simpa using hne)
  intro r hr
  obtain ⟨word, hword, rfl⟩ := List.mem_map.1 hr
  exact (h word hword).elim Regex.clear_caseless
    fun hmem => Regex.clear_phrase (isPhrase_of_mem hmem) hmem

theorem led_token (index : Nat) : Led spacedPhrases (token index) := Regex.clear_word.group.led

theorem led_slots {first second : List String}
    (h₁ : first ≠ [] ∧ ∀ word ∈ first, IsSolid word.toList ∨ word ∈ spacedPhrases)
    (h₂ : second ≠ [] ∧ ∀ word ∈ second, IsSolid word.toList ∨ word ∈ spacedPhrases) :
    Led spacedPhrases (inOrder (slots first second)) := by
  have hlast : Led spacedPhrases (inOrder [token 3]) := (led_token _)
  have hsecond : Led spacedPhrases (inOrder [anyOf second, space, token 3]) :=
    (clear_anyOf h₂.1 h₂.2).led.inOrder_cons hlast.space_inOrder
  have hfirst : Led spacedPhrases (inOrder [token 2, space, anyOf second, space, token 3]) :=
    (led_token _).inOrder_cons hsecond.space_inOrder
  exact (led_token _).inOrder_cons
    ((clear_anyOf h₁.1 h₁.2).led.inOrder_cons hfirst.space_inOrder).space_inOrder

theorem blind_aggregateVerb : Blind spacedPhrases aggregateVerb :=
  ((clear_anyOf (by decide) (by decide +kernel)).led.inOrder_cons
    (led_slots (by decide +kernel) (by decide +kernel)).space_inOrder).blind

theorem blind_metricByPair : Blind spacedPhrases metricByPair :=
  (led_slots (by decide +kernel) (by decide +kernel)).blind

theorem led_caseless (word : String) (h : IsSolid word.toList) : Led phrases (caseless word) :=
  (Regex.clear_caseless h).led

theorem led_exactly (word : String) (h : IsSolid word.toList) : Led phrases (exactly word) :=
  (Regex.clear_exactly h).led

theorem blind_breakdownOf : Blind spacedPhrases breakdownOf :=
  ((led_caseless _ (by decide +kernel)).inOrder_cons
    ((led_caseless _ (by decide +kernel)).inOrder_cons
      (led_slots (by decide +kernel) (by decide +kernel)).space_inOrder).space_inOrder).blind

theorem blind_groupedBy : Blind spacedPhrases groupedBy := by
  have hlast : Led spacedPhrases (inOrder [token 3]) := (led_token _)
  have hby {r : Regex} {rs : List Regex} (h : Led spacedPhrases (inOrder (r :: rs))) :
      Led spacedPhrases (inOrder (caseless "by" :: space :: r :: rs)) :=
    (led_caseless _ (by decide +kernel)).inOrder_cons h.space_inOrder
  have hgrouped :=
    (led_caseless "grouped" (by decide +kernel)).inOrder_cons (hby hlast).space_inOrder
  have hfirst := hby ((led_token 2).inOrder_cons hgrouped.space_inOrder)
  exact ((led_token _).inOrder_cons hfirst.space_inOrder).blind

theorem blind_byPair : Blind spacedPhrases byPair := by
  have hlast : Led spacedPhrases (inOrder [token 2]) := (led_token _)
  have hand : Led spacedPhrases (inOrder [anyOf ["and", "&"], space, token 2]) :=
    (clear_anyOf (by decide) (by decide +kernel)).led.inOrder_cons hlast.space_inOrder
  have hfirst := (led_token 1).inOrder_cons hand.space_inOrder
  exact Regex.blind_boundary.inOrder_cons
    ((led_caseless _ (by decide +kernel)).inOrder_cons hfirst.space_inOrder).blind

/-- The vocabulary of a catalog has no white space in it, and its patterns do not see how much
there is. -/
structure IsSpaceless (c : Catalog) : Prop where
  promptKeywords : ∀ keyword ∈ c.promptKeywords, ∀ a ∈ keyword.toList, isBlank a = false
  breakdownDimensions :
      c.breakdownDimensions ≠ [] ∧ ∀ dimension ∈ c.breakdownDimensions, IsSolid dimension.toList
  products : ∀ product ∈ c.products, ∀ pattern ∈ product.patterns, IsBlind pattern

theorem clear_listedDimension (hc : IsSpaceless c) :
    Clear spacedPhrases (listedDimension c) := by
  obtain ⟨hne, hsolid⟩ := hc.breakdownDimensions
  refine (Clear.firstOf (by simpa using hne) ?_).group
  intro r hr
  obtain ⟨dimension, hdimension, rfl⟩ := List.mem_map.1 hr
  exact Regex.clear_exactly (hsolid dimension hdimension)

theorem led_leads : Led spacedPhrases (firstOf
    [exactly "by", exactly "per",
     inOrder [exactly "split", gap, opt (firstOf [exactly "up", exactly "out"]), gap,
       exactly "by"],
     inOrder [exactly "broke", opt (exactly "n"), gap, firstOf [exactly "down", exactly "out"],
       gap, exactly "by"],
     inOrder [exactly "grouped", gap, exactly "by"],
     inOrder [exactly "also", gap, exactly "by"],
     inOrder [exactly "and", gap, firstOf [exactly "by", exactly "per"]],
     inOrder [exactly "as", gap, exactly "well", gap,
       opt (firstOf [exactly "as", exactly "by"])]]) := by
  have hpair (first second : String) (h : IsSolid first.toList ∧ IsSolid second.toList) :
      Led spacedPhrases (firstOf [exactly first, exactly second]) :=
    .firstOf (List.cons_ne_nil _ _)
      (by simpa using ⟨led_exactly first h.1, led_exactly second h.2⟩)
  have hby : Blind spacedPhrases (inOrder [exactly "by"]) :=
    (led_exactly _ (by decide +kernel)).blind
  have hsplit := Led.gap_inOrder (led_exactly "split" (by decide +kernel))
    ((hpair "up" "out" (by decide +kernel)).opt.inOrder_cons (Regex.blind_gap.inOrder_cons hby))
  have hdown := Led.gap_inOrder (hpair "down" "out" (by decide +kernel)) hby
  have hbroke := (led_exactly "broke" (by decide +kernel)).inOrder_cons
    ((led_exactly "n" (by decide +kernel)).opt.inOrder_cons
      (Regex.blind_gap.inOrder_cons hdown.blind))
  have has : Blind spacedPhrases (inOrder [opt (firstOf [exactly "as", exactly "by"])]) :=
    (hpair "as" "by" (by decide +kernel)).opt
  have hwell := Led.gap_inOrder (led_exactly "well" (by decide +kernel)) has
  apply Led.firstOf (List.cons_ne_nil _ _)
  simp only [List.forall_mem_cons]
  exact ⟨led_exactly _ (by decide +kernel), led_exactly _ (by decide +kernel), hsplit, hbroke,
    .gap_inOrder (led_exactly _ (by decide +kernel)) hby,
    .gap_inOrder (led_exactly _ (by decide +kernel)) hby,
    .gap_inOrder (led_exactly _ (by decide +kernel))
      (hpair "by" "per" (by decide +kernel)).blind,
    .gap_inOrder (led_exactly _ (by decide +kernel)) hwell.blind,
    fun _ h => absurd h List.not_mem_nil⟩

theorem blind_dimensionPhrases (hc : IsSpaceless c) :
    ∀ r ∈ dimensionPhrases c, Blind spacedPhrases r := by
  have hlisted := (clear_listedDimension hc).led
  have hlast : Led spacedPhrases (inOrder [listedDimension c]) := hlisted
  have hwell : Led spacedPhrases (firstOf
      [inOrder [exactly "as", gap, exactly "well"], exactly "too", exactly "also"]) := by
    apply Led.firstOf (List.cons_ne_nil _ _)
    simp only [List.forall_mem_cons]
    exact ⟨.gap_inOrder (led_exactly _ (by decide +kernel))
      (led_exactly _ (by decide +kernel)).blind, led_exactly _ (by decide +kernel),
      led_exactly _ (by decide +kernel), fun _ h => absurd h List.not_mem_nil⟩
  have heach := (led_exactly "each" (by decide +kernel)).inOrder_cons hlast.space_inOrder
  have hend : Blind spacedPhrases (inOrder [boundary]) := Regex.blind_boundary
  simp only [dimensionPhrases, List.forall_mem_cons]
  exact ⟨Regex.blind_boundary.inOrder_cons (led_leads.inOrder_cons hlast.space_inOrder).blind,
    Regex.blind_boundary.inOrder_cons
      (Led.gap_inOrder hlisted (hwell.inOrder_cons hend).blind).blind,
    Regex.blind_boundary.inOrder_cons
      (Led.gap_inOrder (led_exactly _ (by decide +kernel)) heach.blind).blind,
    fun _ h => absurd h List.not_mem_nil⟩

theorem blind_phrase {rs : List Regex} (hne : rs ≠ []) (h : ∀ r ∈ rs, Led phrases r) :
    Blind phrases (aggregationPhrases.phrase rs) := by
  have hend : Blind phrases (inOrder [boundary]) := Regex.blind_boundary
  exact Regex.blind_boundary.inOrder_cons ((Led.firstOf hne h).inOrder_cons hend).blind

theorem blind_aggregationPhrases : ∀ p ∈ aggregationPhrases, Blind phrases p.2 := by
  have hword {word : String} (h : IsSolid word.toList) : Led phrases (exactly word) :=
    led_exactly word h
  have hplural {word : String} (h : IsSolid word.toList) :
      Led phrases (.seq (exactly word) (opt (exactly "s"))) := by
    have hs : Blind phrases (inOrder [opt (exactly "s")]) := (hword (by decide +kernel)).opt
    exact (hword h).inOrder_cons hs
  have hpair {first second : String} (h : IsSolid first.toList ∧ IsSolid second.toList) :
      Led phrases (inOrder [exactly first, space, exactly second]) := by
    have hlast : Led phrases (inOrder [exactly second]) := hword h.2
    exact (hword h.1).inOrder_cons hlast.space_inOrder
  have hnil : ∀ r ∈ ([] : List Regex), Led phrases r := fun _ h => absurd h List.not_mem_nil
  simp only [aggregationPhrases, List.forall_mem_cons]
  refine ⟨blind_phrase (List.cons_ne_nil _ _) ?_, blind_phrase (List.cons_ne_nil _ _) ?_,
    blind_phrase (List.cons_ne_nil _ _) ?_, blind_phrase (List.cons_ne_nil _ _) ?_,
    fun _ h => absurd h List.not_mem_nil⟩
  all_goals simp only [List.forall_mem_cons]
  · exact ⟨hplural (by decide +kernel), hword (by decide +kernel), hnil⟩
  · exact ⟨hplural (by decide +kernel), hpair (by decide +kernel), hpair (by decide +kernel),
      hnil⟩
  · exact ⟨hword (by decide +kernel), hword (by decide +kernel), hword (by decide +kernel),
      hnil⟩
  · exact ⟨hword (by decide +kernel), hword (by decide +kernel), hword (by decide +kernel),
      hnil⟩

variable {s t : String}

theorem isSome_eq_of_rel {α β : Type} {related : α → β → Prop} {a : Option α} {b : Option β}
    (h : Option.Rel related a b) :
    a.isSome = b.isSome := by
  cases h <;> rfl

theorem isIn_eq {r : Regex} (hr : Blind phrases r) (h : Respaced phrases s.toList t.toList) :
    r.isIn s = r.isIn t := isSome_eq_of_rel (hr.search h)

theorem aggregation_respaced {p q : String}
    (h : Respaced phrases (lower p).toList (lower q).toList) :
    aggregation p = aggregation q := by
  have hfind : aggregationPhrases.find? (fun kind => kind.2.isIn (lower p)) =
      aggregationPhrases.find? fun kind => kind.2.isIn (lower q) :=
    List.find?_congr fun kind hkind => isIn_eq (blind_aggregationPhrases kind hkind) h
  rw [aggregation, aggregation, hfind]

theorem any_eq {words : List String} {p q : String → Bool}
    (h : ∀ word ∈ words, p word = q word) :
    words.any p = words.any q := by
  rw [Bool.eq_iff_iff, List.any_eq_true, List.any_eq_true]
  exact exists_congr fun word => and_congr_right fun hword => by rw [h word hword]

theorem hasMetricKeyword_respaced (hc : IsSpaceless c) {p q : String}
    (h : Respaced phrases (lower p).toList (lower q).toList) :
    hasMetricKeyword c p = hasMetricKeyword c q :=
  any_eq fun keyword hkeyword => h.occursIn_solid (hc.promptKeywords keyword hkeyword)

theorem hintedMetric_respaced (h : Respaced spacedPhrases s.toList t.toList) :
    hintedMetric c s = hintedMetric c t := by
  have hwords : ∀ hint ∈ metricHints, ∀ word ∈ hint.1,
      (∀ a ∈ word.toList, isBlank a = false) ∨ word ∈ spacedPhrases := by
    decide +kernel
  apply List.foldl_ext
  intro metric hint hhint
  have hany : hint.1.any (contains s) = hint.1.any (contains t) := by
    refine any_eq fun word hword => ?_
    rcases hwords hint hhint word hword with hsolid | hmem
    · exact h.occursIn_solid hsolid
    · exact h.occursIn_phrase (isPhrase_of_mem hmem) hmem
  rw [hany]

variable {ctx : Context} {text : String} {m n : Regex.Match}

theorem group_eq (h : m.texts = n.texts) (index : Nat) : m.group index = n.group index := by
  rw [Regex.Match.group_eq, Regex.Match.group_eq, h]

theorem readSlots_respaced (h : m.texts = n.texts) :
    readSlots ctx m = readSlots { ctx with lowered := text } n := by
  simp only [readSlots, group_eq h]
  rfl

theorem readPair_respaced (hlowered : Respaced spacedPhrases ctx.lowered.toList text.toList)
    (h : m.texts = n.texts) :
    readPair ctx m = readPair { ctx with lowered := text } n := by
  simp only [readPair, group_eq h, hintedMetric_respaced hlowered]
  rfl

theorem readListed_respaced (hlowered : Respaced spacedPhrases ctx.lowered.toList text.toList)
    (h : m.texts = n.texts) :
    readListed ctx m = readListed { ctx with lowered := text } n := by
  simp only [readListed, group_eq h, hintedMetric_respaced hlowered]

theorem findListed_respaced (hc : IsSpaceless ctx.catalog)
    (hlowered : Respaced spacedPhrases ctx.lowered.toList text.toList)
    (hkeyword : hasMetricKeyword ctx.catalog ctx.lowered = hasMetricKeyword ctx.catalog text) :
    Option.Rel (Found ctx.lowered.toList text.toList) (findListed ctx)
      (findListed { ctx with lowered := text }) := by
  simp only [findListed, hkeyword]
  split
  · exact .none
  · have hblind := blind_dimensionPhrases hc
    generalize dimensionPhrases ctx.catalog = rs at hblind
    induction rs with
    | nil => exact .none
    | cons r rs ih =>
      obtain ⟨hr, hrs⟩ := List.forall_mem_cons.1 hblind
      have hsearch := hr.search hlowered
      rw [List.findSome?_cons, List.findSome?_cons]
      generalize r.search ctx.lowered = found at hsearch
      generalize r.search text = found' at hsearch
      cases hsearch with
      | none => exact ih hrs
      | some h => exact .some h

theorem apply_respaced {r : Rule}
    (hfind : Option.Rel (Found ctx.lowered.toList text.toList) (r.find ctx)
      (r.find { ctx with lowered := text }))
    (hread : ∀ {m n : Regex.Match},
      m.texts = n.texts → r.read ctx m = r.read { ctx with lowered := text } n) :
    r.apply ctx = r.apply { ctx with lowered := text } := by
  rw [Rule.apply, Rule.apply]
  generalize r.find ctx = found at hfind
  generalize r.find { ctx with lowered := text } = found' at hfind
  cases hfind with
  | none => rfl
  | some h => exact hread h.texts

theorem firstAccepted_respaced (hc : IsSpaceless ctx.catalog)
    (hlowered : Respaced spacedPhrases ctx.lowered.toList text.toList)
    (hkeyword : hasMetricKeyword ctx.catalog ctx.lowered = hasMetricKeyword ctx.catalog text) :
    firstAccepted ctx = firstAccepted { ctx with lowered := text } := by
  have hrules : ∀ r ∈ rules, r.apply ctx = r.apply { ctx with lowered := text } := by
    simp only [rules, List.forall_mem_cons]
    exact ⟨apply_respaced (blind_aggregateVerb.search hlowered) readSlots_respaced,
      apply_respaced (blind_metricByPair.search hlowered) readSlots_respaced,
      apply_respaced (blind_breakdownOf.search hlowered) readSlots_respaced,
      apply_respaced (blind_groupedBy.search hlowered) readSlots_respaced,
      apply_respaced (findListed_respaced hc hlowered hkeyword) (readListed_respaced hlowered),
      apply_respaced (blind_byPair.search hlowered) (readPair_respaced hlowered),
      fun _ h => absurd h List.not_mem_nil⟩
  rw [firstAccepted, firstAccepted]
  generalize rules = rs at hrules
  induction rs with
  | nil => rfl
  | cons r rs ih =>
    obtain ⟨hr, hrs⟩ := List.forall_mem_cons.1 hrules
    rw [List.findSome?_cons, List.findSome?_cons, hr, ih hrs]

theorem isEmpty_respaced (h : Respaced phrases s.toList t.toList) : s.isEmpty = t.isEmpty := by
  rw [Bool.eq_iff_iff, String.isEmpty_iff, String.isEmpty_iff, ← String.toList_eq_nil_iff,
    ← String.toList_eq_nil_iff]
  exact h.nil_iff

theorem context_respaced (hc : IsSpaceless c)
    (h : Respaced [] (lower s).toList (lower t).toList) :
    Context.of c t = { Context.of c s with lowered := t } := by
  rw [Context.of, Context.of, terms_respaced hc.products h, aggregation_respaced h]

/-- Prompts of the same words are read alike, if the phrases that are looked for with one space
are so written in the same places. -/
theorem classify_respaced (hc : IsSpaceless c) {p q : String}
    (hwords : Text.words p.toList = Text.words q.toList)
    (hphrases : starts spacedPhrases (stripped (lower p)).toList =
      starts spacedPhrases (stripped (lower q)).toList) :
    classify c p = classify c q := by
  have htrimmed (p : String) : IsTrimmed (stripped (lower p)).toList := by
    rw [stripped, String.toList_ofList]
    exact Text.isTrimmed_trim _
  have hstripped :
      Text.words (stripped (lower p)).toList = Text.words (stripped (lower q)).toList := by
    simp only [stripped, lower, String.toList_ofList, Text.words_trim, Text.words_lowerFrom,
      hwords]
  have hplain := Text.respaced_of_words (htrimmed p) (htrimmed q) hstripped
  have hlower :
      Respaced [] (lower (stripped (lower p))).toList (lower (stripped (lower q))).toList := by
    rw [Text.toList_lower (stripped (lower p)), Text.toList_lower (stripped (lower q))]
    apply Text.respaced_of_words (htrimmed p).lowerFrom (htrimmed q).lowerFrom
    rw [Text.words_lowerFrom, Text.words_lowerFrom, hstripped]
  have hcontext := context_respaced hc hlower
  have haccepted : firstAccepted (Context.of c (stripped (lower p))) = _ :=
    firstAccepted_respaced hc (hplain.of_starts hphrases) (hasMetricKeyword_respaced hc hlower)
  rw [← hcontext] at haccepted
  have hterms := congrArg Context.terms hcontext
  have haggregation := congrArg Context.aggregation hcontext
  simp only [classify, isEmpty_respaced hplain, haccepted, hterms, haggregation]

theorem isSpaceless_freight : IsSpaceless Catalog.freight where
  promptKeywords := by decide +kernel
  breakdownDimensions := by decide +kernel
  products product hproduct pattern hpattern := by
    obtain ⟨source, pieces, rfl, hpieces, -⟩ :=
      TermPattern.exists_pieces_freight hproduct hpattern
    exact isBlind_ofPieces hpieces

theorem classify_respaced_carriers :
    IsSpaceless Catalog.freight ∧
      Text.words "Average retail\tby  carrier grouped by state".toList =
        Text.words " Average  retail by\ncarrier grouped by\u00a0state ".toList ∧
      starts spacedPhrases
        (stripped (lower "Average retail\tby  carrier grouped by state")).toList =
        starts spacedPhrases
          (stripped (lower " Average  retail by\ncarrier grouped by\u00a0state ")).toList ∧
      classify Catalog.freight "Average retail\tby  carrier grouped by state" =
        classify Catalog.freight " Average  retail by\ncarrier grouped by\u00a0state " := by
  have hwords : Text.words "Average retail\tby  carrier grouped by state".toList =
      Text.words " Average  retail by\ncarrier grouped by\u00a0state ".toList := by
    decide +kernel
  have hphrases :
      starts spacedPhrases
        (stripped (lower "Average retail\tby  carrier grouped by state")).toList =
      starts spacedPhrases
        (stripped (lower " Average  retail by\ncarrier grouped by\u00a0state ")).toList := by
    decide +kernel
  exact ⟨isSpaceless_freight, hwords, hphrases, classify_respaced isSpaceless_freight
    hwords hphrases⟩

/-- Two spaces in one of the phrases, and the breakdown is gone. -/
theorem not_forall_classify_respaced :
    ¬ ∀ p q : String, Text.words p.toList = Text.words q.toList →
      classify Catalog.freight p = classify Catalog.freight q := by
  intro h
  have hread := h "average retail by carrier for each state"
    "average retail by carrier for  each state" (by decide +kernel)
  exact absurd hread (by decide +kernel)

/-- None of the phrases can be left out: there are prompts of the same words, in which the
others start in the same places, that are not read alike. -/
theorem exists_read_apart (phrase : String) (h : phrase ∈ spacedPhrases) :
    ∃ p q : String, Text.words p.toList = Text.words q.toList ∧
      starts (spacedPhrases.erase phrase) (stripped (lower p)).toList =
        starts (spacedPhrases.erase phrase) (stripped (lower q)).toList ∧
      classify Catalog.freight p ≠ classify Catalog.freight q := by
  simp only [spacedPhrases, List.mem_cons, List.not_mem_nil, or_false] at h
  obtain rfl | rfl | rfl := h
  · exact ⟨"cost per carrier grouped by state",
      "cost per carrier grouped  by state", by decide +kernel⟩
  · exact ⟨"sum cost by carrier for each state",
      "sum cost by carrier for  each state", by decide +kernel⟩
  · exact ⟨"how many, by carrier and state",
      "how  many, by carrier and state", by decide +kernel⟩

end PromptChart.Prompt
