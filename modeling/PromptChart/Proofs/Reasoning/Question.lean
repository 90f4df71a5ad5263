import Mathlib.Data.List.Nodup
import PromptChart.Catalog.Freight
import PromptChart.Prompt.Classify
import PromptChart.Proofs.Prompt.Places
import PromptChart.Proofs.Prompt.Products
import PromptChart.Proofs.Text.Lowered
import PromptChart.Reasoning.Question

namespace PromptChart

open Text (IsTrimmed isBlank lower stripped trim)
open Prompt (IsReported mem_terms_iff terms upTo)

namespace TermPattern

variable {pieces : List TermPiece} {x y : List Char}

theorem Fits.exists_ended (hp : ∀ piece ∈ pieces, isSolidPiece piece = true)
    (h : Fits pieces x) :
    ∃ y, y <+: x ∧ Fits pieces y ∧ ∀ b ∈ y.getLast?, isBlank b = false := by
  induction h with
  | nil => exact ⟨[], List.prefix_refl [], .nil, fun b hb => by cases hb⟩
  | @letter a b pieces x hab _ ih =>
    obtain ⟨ha, hp⟩ := List.forall_mem_cons.1 hp
    obtain ⟨y, hyx, hy, hlast⟩ := ih hp
    refine ⟨b :: y, List.cons_prefix_cons.2 ⟨rfl, hyx⟩, .letter hab hy, ?_⟩
    have hb : isBlank b = false :=
      eq_false_of_ne_true
        fun hblank => by simp [isSolidPiece, Text.isBlank_of_sameLetter hab hblank] at ha
    cases y with
    | nil => simpa using hb
    | cons d y => simpa only [List.getLast?_cons_cons] using hlast
  | @gap g pieces x hg _ ih =>
    obtain ⟨-, hp⟩ := List.forall_mem_cons.1 hp
    obtain ⟨y, hyx, hy, hlast⟩ := ih hp
    by_cases hnil : y = []
    · subst hnil
      exact ⟨[], List.nil_prefix, .gap (g := []) (fun b hb => absurd hb List.not_mem_nil) hy,
        hlast⟩
    · refine ⟨g ++ y, (List.prefix_append_right_inj g).2 hyx, .gap hg hy, ?_⟩
      rwa [List.getLast?_append_of_ne_nil _ hnil]

theorem Fits.exists_led (hp : ∀ piece ∈ pieces, isSolidPiece piece = true) (h : Fits pieces x) :
    ∃ y, y <:+ x ∧ Fits pieces y ∧ ∀ b ∈ y.head?, isBlank b = false := by
  induction h with
  | nil => exact ⟨[], List.suffix_refl [], .nil, fun b hb => by cases hb⟩
  | @letter a b pieces x hab hx _ =>
    obtain ⟨ha, -⟩ := List.forall_mem_cons.1 hp
    refine ⟨b :: x, List.suffix_refl _, .letter hab hx, ?_⟩
    simpa using eq_false_of_ne_true fun hblank => by
      simp [isSolidPiece, Text.isBlank_of_sameLetter hab hblank] at ha
  | @gap g pieces x _ _ ih =>
    obtain ⟨-, hp⟩ := List.forall_mem_cons.1 hp
    obtain ⟨y, hyx, hy, hhead⟩ := ih hp
    exact ⟨y, hyx.trans (List.suffix_append g x),
      .gap (g := []) (fun b hb => absurd hb List.not_mem_nil) hy, hhead⟩

theorem Fits.eq_gap_of_nil (h : Fits pieces []) : ∀ piece ∈ pieces, piece = .gap := by
  generalize hx : [] = x at h
  induction h with
  | nil => exact fun piece hpiece => absurd hpiece List.not_mem_nil
  | letter => cases hx
  | gap _ _ ih =>
    exact List.forall_mem_cons.2 ⟨rfl, ih (List.append_eq_nil_iff.1 hx.symm).2.symm⟩

theorem Fits.exists_trimmed (hp : ∀ piece ∈ pieces, isSolidPiece piece = true)
    (h : Fits pieces x) :
    ∃ y, y <:+: x ∧ Fits pieces y ∧ IsTrimmed y := by
  obtain ⟨y, hyx, hy, hlast⟩ := h.exists_ended hp
  obtain ⟨z, hzy, hz, hhead⟩ := hy.exists_led hp
  refine ⟨z, hzy.isInfix.trans hyx.isInfix, hz, hhead, ?_⟩
  obtain ⟨front, rfl⟩ := hzy
  intro b hb
  refine hlast b ?_
  rw [List.getLast?_append, Option.mem_def.1 hb]
  rfl

/-- Pieces without white space of their own are in a text or in none of its parts between white
space. -/
theorem exists_standsAt_trim_iff {source : String} {cs : List Char}
    (hp : ∀ piece ∈ pieces, isSolidPiece piece = true) :
    (∃ n, (ofPieces source pieces).StandsAt (trim cs) n) ↔
      ∃ n, (ofPieces source pieces).StandsAt cs n := by
  rw [exists_standsAt_ofPieces, exists_standsAt_ofPieces]
  constructor
  · rintro ⟨x, hx, hinfix⟩
    exact ⟨x, hx, hinfix.trans (Text.isInfix_trim cs)⟩
  · rintro ⟨x, hx, hinfix⟩
    obtain ⟨y, hyx, hy, htrimmed⟩ := hx.exists_trimmed hp
    exact ⟨y, hy, htrimmed.infix_trim (hyx.trans hinfix)⟩

end TermPattern

theorem Product.standsIn_iff {p : Product} {text : List Char} :
    p.StandsIn text ↔ ∃ pattern ∈ p.patterns, ∃ n, pattern.StandsAt text n := by
  simp only [StandsIn, StandsAt, exists_comm (α := Nat), exists_and_left]

namespace Question

variable {c : Catalog} {prompt label : String} {e : Prompt.Mention} {index : Nat}

/-- No product that stands in the prompt is shadowed by one that does and that the vocabulary
has before it. -/
def NoneShadowed (c : Catalog) (prompt : String) : Prop :=
  c.products.Pairwise fun q p =>
    q.StandsIn (lower prompt).toList → p.StandsIn (lower prompt).toList → q.label ∉ p.shadowedBy

instance (c : Catalog) (prompt : String) : Decidable (NoneShadowed c prompt) :=
  inferInstanceAs (Decidable (List.Pairwise _ _))

theorem mem_mentioned_iff :
    label ∈ mentioned c prompt ↔
      ∃ p ∈ c.products, p.StandsIn (lower prompt).toList ∧ p.label = label := by
  simp only [mentioned, List.mem_map, List.mem_filter, Product.isSome_position?_iff, and_assoc]

theorem terms_subset_mentioned (h : label ∈ terms c prompt) : label ∈ mentioned c prompt := by
  obtain ⟨e, he, rfl⟩ := mem_terms_iff.1 h
  exact mem_mentioned_iff.2 ⟨e.product, List.mem_of_getElem? he.entry, ⟨e.place, he.place.1⟩,
    rfl⟩

theorem isReported_upTo_iff :
    IsReported (upTo c index) prompt e ↔ e.index < index ∧ IsReported c prompt e := by
  have hentry : (upTo c index).products[e.index]? = some e.product ↔
      e.index < index ∧ c.products[e.index]? = some e.product := by
    rw [upTo, List.getElem?_take]
    split <;> simp [*]
  have hcut (h : e.index < index) : upTo (upTo c index) e.index = upTo c e.index := by
    rw [upTo, upTo, upTo, List.take_take, Nat.min_eq_left h.le]
  constructor
  · rintro ⟨hhere, hplace, hopen⟩
    obtain ⟨hlt, hentry⟩ := hentry.1 hhere
    rw [hcut hlt] at hopen
    exact ⟨hlt, hentry, hplace, hopen⟩
  · rintro ⟨hlt, hhere, hplace, hopen⟩
    refine ⟨hentry.2 ⟨hlt, hhere⟩, hplace, ?_⟩
    rwa [hcut hlt]

theorem NoneShadowed.mentioned_subset (h : NoneShadowed c prompt)
    (hlabel : label ∈ mentioned c prompt) :
    label ∈ terms c prompt := by
  obtain ⟨p, hp, hstands, rfl⟩ := mem_mentioned_iff.1 hlabel
  obtain ⟨i, hi, hentry⟩ := List.mem_iff_getElem.1 hp
  obtain ⟨place, hplace⟩ := Product.exists_position? hstands
  refine mem_terms_iff.2 ⟨⟨i, p, place⟩, ⟨?_, Product.position?_eq_some_iff.1 hplace, ?_⟩, rfl⟩
  · rw [List.getElem?_eq_getElem hi, hentry]
  -- what shadows it is reported by an earlier entry, which stands in the prompt
  · intro other hother hterms
    obtain ⟨f, hf, rfl⟩ := mem_terms_iff.1 hterms
    obtain ⟨hlt, hf⟩ := isReported_upTo_iff.1 hf
    obtain ⟨hj, hf'⟩ := List.getElem?_eq_some_iff.1 hf.entry
    have hnot := List.pairwise_iff_getElem.1 h f.index i hj hi hlt
    rw [hf', hentry] at hnot
    exact hnot ⟨f.place, hf.place.1⟩ hstands hother

/-- With a label for each product, all products that stand in a prompt are reported only if none
of them is shadowed. -/
theorem noneShadowed_of_subset (hlabels : (c.products.map (·.label)).Nodup)
    (h : ∀ label ∈ mentioned c prompt, label ∈ terms c prompt) : NoneShadowed c prompt := by
  have hreported {i : Nat} (hi : i < c.products.length) (hstands : c.products[i].StandsIn
    (lower prompt).toList) :
      ∃ e, IsReported c prompt e ∧ e.index = i ∧ e.product = c.products[i] := by
    -- some entry reports the label, and only this one has it
    have hlabel := h _ (mem_mentioned_iff.2 ⟨_, List.getElem_mem hi, hstands, rfl⟩)
    obtain ⟨e, he, hlabel⟩ := mem_terms_iff.1 hlabel
    obtain ⟨hj, hentry⟩ := List.getElem?_eq_some_iff.1 he.entry
    have hproduct := List.inj_on_of_nodup_map hlabels (List.mem_of_getElem? he.entry)
      (List.getElem_mem hi) hlabel
    exact ⟨e, he, (List.Nodup.getElem_inj_iff hlabels.of_map).1 (hentry.trans hproduct),
      hproduct⟩
  refine List.pairwise_iff_getElem.2 fun i j hi hj hlt hq hp hshadow => ?_
  obtain ⟨e, he, rfl, heq⟩ := hreported hi hq
  obtain ⟨f, hf, rfl, hfp⟩ := hreported hj hp
  rw [← hfp] at hshadow
  exact hf.unshadowed _ hshadow
    (mem_terms_iff.2 ⟨e, isReported_upTo_iff.2 ⟨hlt, he⟩, by rw [heq]⟩)

theorem noneShadowed_of_length (h : (mentioned c prompt).length < 2) :
    NoneShadowed c prompt := by
  rw [mentioned, List.length_map] at h
  have hpairwise : (c.products.filter fun p => (p.position? (lower prompt)).isSome).Pairwise
      fun q p => q.label ∉ p.shadowedBy := by
    generalize c.products.filter (fun p => (p.position? (lower prompt)).isSome) =
      products at h ⊢
    match products, h with
    | [], _ => exact .nil
    | [p], _ => exact List.pairwise_singleton _ p
  rw [List.pairwise_filter] at hpairwise
  simp only [Product.isSome_position?_iff] at hpairwise
  exact hpairwise

theorem NoneShadowed.length_eq (hlabels : (c.products.map (·.label)).Nodup)
    (h : NoneShadowed c prompt) :
    (mentioned c prompt).length = (terms c prompt).length := by
  have hnodup : (mentioned c prompt).Nodup := hlabels.sublist (List.filter_sublist.map _)
  apply List.Perm.length_eq
  rw [List.perm_ext_iff_of_nodup hnodup (Prompt.isListing_terms c prompt).nodup]
  exact fun label => ⟨h.mentioned_subset, terms_subset_mentioned⟩

theorem productHint_eq_empty_iff :
    productHint c prompt = "" ↔ (mentioned c prompt).length < 2 := by
  rw [productHint]
  split
  next hfew => exact iff_of_true rfl hfew
  next hmany =>
    refine iff_of_false (fun hempty => ?_) hmany
    simp at hempty

/-- The hint lists the products that the prompt is read with if there are two of them, and there
is none otherwise. -/
structure HintAgrees (c : Catalog) (prompt : String) : Prop where
  listed : 2 ≤ (terms c prompt).length →
    productHint c prompt ≠ "" ∧ ∀ label, label ∈ mentioned c prompt ↔ label ∈ terms c prompt
  absent : (terms c prompt).length < 2 → productHint c prompt = ""

theorem hintAgrees_iff (hlabels : (c.products.map (·.label)).Nodup) :
    HintAgrees c prompt ↔ NoneShadowed c prompt := by
  constructor
  · rintro ⟨hlisted, habsent⟩
    rcases Nat.lt_or_ge (terms c prompt).length 2 with hfew | hmany
    · exact noneShadowed_of_length (productHint_eq_empty_iff.1 (habsent hfew))
    · exact noneShadowed_of_subset hlabels fun label => ((hlisted hmany).2 label).1
  · intro h
    have hlength := h.length_eq hlabels
    refine ⟨fun hmany => ⟨?_, fun label => ⟨h.mentioned_subset, terms_subset_mentioned⟩⟩,
      fun hfew => ?_⟩
    · rw [ne_eq, productHint_eq_empty_iff]
      omega
    · rw [productHint_eq_empty_iff]
      omega

/-- Products with labels of their own. White space around a text plays no part in whether they
stand in it, and they stand in no empty text. -/
structure IsDistinctlyNamed (c : Catalog) : Prop where
  labels : (c.products.map (·.label)).Nodup
  trimmed : ∀ product ∈ c.products, ∀ cs, product.StandsIn (trim cs) ↔ product.StandsIn cs
  nonempty : ∀ product ∈ c.products, ¬ product.StandsIn []

theorem isDistinctlyNamed_freight : IsDistinctlyNamed Catalog.freight where
  labels := by decide +kernel
  trimmed product hproduct cs := by
    rw [Product.standsIn_iff, Product.standsIn_iff]
    refine exists_congr fun pattern => and_congr_right fun hpattern => ?_
    obtain ⟨source, pieces, rfl, hpieces, -⟩ :=
      TermPattern.exists_pieces_freight hproduct hpattern
    exact TermPattern.exists_standsAt_trim_iff hpieces
  nonempty product hproduct hstands := by
    obtain ⟨pattern, hpattern, hstands⟩ := Product.standsIn_iff.1 hstands
    obtain ⟨source, pieces, rfl, -, piece, hpiece, hne⟩ :=
      TermPattern.exists_pieces_freight hproduct hpattern
    obtain ⟨x, hx, hinfix⟩ := TermPattern.exists_standsAt_ofPieces.1 hstands
    obtain rfl := List.infix_nil.1 hinfix
    exact hne (hx.eq_gap_of_nil piece hpiece)

namespace IsDistinctlyNamed

variable (hc : IsDistinctlyNamed c)

include hc

theorem standsIn_lower_stripped_iff {p : Product} (hp : p ∈ c.products) :
    p.StandsIn (lower (stripped (lower prompt))).toList ↔ p.StandsIn (lower prompt).toList := by
  rw [Text.lower_stripped_lower, stripped, String.toList_ofList, hc.trimmed p hp]

theorem mentioned_stripped_lower :
    mentioned c (stripped (lower prompt)) = mentioned c prompt := by
  have hsame : ∀ p ∈ c.products,
      (p.position? (lower (stripped (lower prompt)))).isSome =
        (p.position? (lower prompt)).isSome := by
    intro p hp
    rw [Bool.eq_iff_iff, Product.isSome_position?_iff, Product.isSome_position?_iff,
      hc.standsIn_lower_stripped_iff hp]
  rw [mentioned, List.filter_congr hsame, mentioned]

theorem noneShadowed_stripped_lower_iff :
    NoneShadowed c (stripped (lower prompt)) ↔ NoneShadowed c prompt := by
  apply List.Pairwise.iff_of_mem
  intro q p hq hp
  rw [hc.standsIn_lower_stripped_iff hq, hc.standsIn_lower_stripped_iff hp]

theorem length_mentioned_of_classify_eq_none (hrejected : Prompt.classify c prompt = none)
    (hshadowed : NoneShadowed c prompt) : (mentioned c prompt).length < 2 := by
  rw [← hc.mentioned_stripped_lower]
  simp only [Prompt.classify] at hrejected
  split at hrejected
  next hempty =>
    rw [String.isEmpty_iff] at hempty
    have hnone : mentioned c (stripped (lower prompt)) = [] := by
      rw [List.eq_nil_iff_forall_not_mem]
      intro label hlabel
      obtain ⟨p, hp, hstands, -⟩ := mem_mentioned_iff.1 hlabel
      rw [Text.lower_stripped_lower, hempty] at hstands
      exact hc.nonempty p hp hstands
    rw [hnone]
    exact Nat.zero_lt_two
  next =>
    split at hrejected
    next => cases hrejected
    next =>
      split at hrejected
      next => cases hrejected
      next hfew =>
        rw [(hc.noneShadowed_stripped_lower_iff.2 hshadowed).length_eq hc.labels]
        exact Nat.lt_of_not_le hfew

end IsDistinctlyNamed

/-- The hint and the reading of a prompt agree on its products exactly if none of those that
stand in it is shadowed; exactly then a prompt that is not read has no hint. -/
theorem productHint_agrees_iff (hc : IsDistinctlyNamed c) (prompt : String) :
    (HintAgrees c prompt ↔ NoneShadowed c prompt) ∧
      (Prompt.classify c prompt = none →
        (productHint c prompt = "" ↔ NoneShadowed c prompt)) := by
  refine ⟨hintAgrees_iff hc.labels, fun hrejected => ?_⟩
  rw [productHint_eq_empty_iff]
  exact ⟨noneShadowed_of_length, hc.length_mentioned_of_classify_eq_none hrejected⟩

theorem productHint_agrees_toolbox :
    IsDistinctlyNamed .freight ∧ HintAgrees .freight "a drawer and a tool box" ∧
      Prompt.classify .freight " tool-box " = none ∧
      productHint .freight " tool-box " = "" := by
  obtain ⟨hagrees, -⟩ := productHint_agrees_iff isDistinctlyNamed_freight
    "a drawer and a tool box"
  obtain ⟨-, hempty⟩ := productHint_agrees_iff isDistinctlyNamed_freight " tool-box "
  have hrejected : Prompt.classify .freight " tool-box " = none := by decide +kernel
  exact ⟨isDistinctlyNamed_freight, hagrees.2 (by decide +kernel), hrejected,
    (hempty hrejected).2 (by decide +kernel)⟩

/-- A shadowed product gets into the hint, although the prompt is not read as a comparison. -/
theorem not_hintAgrees_drawer_system :
    ¬ HintAgrees .freight "drawer system" ∧ Prompt.classify .freight "drawer system" = none ∧
      mentioned .freight "drawer system" = ["Drawer System", "Drawer"] ∧
      productHint .freight "drawer system" ≠ "" := by
  have hmentioned : mentioned .freight "drawer system" = ["Drawer System", "Drawer"] := by
    decide +kernel
  refine ⟨?_, by decide +kernel, hmentioned, ?_⟩
  · rw [hintAgrees_iff isDistinctlyNamed_freight.labels]
    decide +kernel
  · rw [ne_eq, productHint_eq_empty_iff, hmentioned]
    decide

end Question

end PromptChart
