import PromptChart.Catalog.Freight
import PromptChart.Proofs.Prompt.Aggregation
import PromptChart.Proofs.Prompt.Rules
import PromptChart.Proofs.Text.Lower

namespace PromptChart.Prompt

open Text (IsWordRun contains isGap_space lower occursIn runs stripped)

def hasPart (runs : List (List Char)) (words : List String) : Bool :=
  words.any fun w => runs.any (occursIn w.toList)

def hasLink (first second : String) : List (List Char) → Bool
  | a :: gap :: b :: rest =>
    (first.toList.isSuffixOf a && gap == [' '] && second.toList.isPrefixOf b) ||
      hasLink first second (gap :: b :: rest)
  | _ => false

variable {c : Catalog} {b : Breakdown} {ctx : Context} {m : Regex.Match} {r : Rule}
  {prompt w : String} {first second : String} {l : List (List Char)}

theorem hasLink_iff :
    hasLink first second l = true ↔
      ∃ a b, first.toList <:+ a ∧ second.toList <+: b ∧ [a, [' '], b] <:+: l := by
  induction l with
  | nil => simp [hasLink]
  | cons a rest ih =>
    simp only [List.infix_cons_iff, and_or_left, exists_or, ← ih]
    match rest with
    | [] => simp [hasLink]
    | [gap] => simp [hasLink]
    | gap :: b :: rest =>
      simp only [hasLink, Bool.or_eq_true, Bool.and_eq_true, beq_iff_eq,
        List.isSuffixOf_iff_suffix, List.isPrefixOf_iff_prefix, List.cons_prefix_cons,
        List.nil_prefix, and_true]
      refine or_congr_left ?_
      constructor
      · rintro ⟨⟨ha, rfl⟩, hb⟩
        exact ⟨a, b, ha, hb, rfl, rfl, rfl⟩
      · rintro ⟨_, _, ha, hb, rfl, rfl, rfl⟩
        exact ⟨⟨ha, rfl⟩, hb⟩

theorem contains_eq_any (text : String) (hw : IsWordRun w.toList) :
    contains text w = (runs text.toList).any (occursIn w.toList) := by
  rw [Bool.eq_iff_iff, contains, Text.occursIn_iff, Text.infix_iff_exists_run hw,
    List.any_eq_true]
  simp only [Text.occursIn_iff]

theorem contains_eq_hasLink (text first second : String) (hfirst : IsWordRun first.toList)
    (hsecond : IsWordRun second.toList)
    (hw : w.toList = first.toList ++ ([' '] ++ second.toList)) :
    contains text w = hasLink first second (runs text.toList) := by
  rw [Bool.eq_iff_iff, contains, Text.occursIn_iff, hw,
    Text.infix_iff_exists_runs hfirst isGap_space hsecond, hasLink_iff]

theorem hintedMetric_eq (c : Catalog) (text : String) :
    hintedMetric c text =
      if hasPart (runs text.toList) ["count"] || hasLink "how" "many" (runs text.toList) then
        "load_id"
      else if hasPart (runs text.toList) ["miles", "mileage"] then "miles"
      else if hasPart (runs text.toList) ["weight"] then "weight"
      else c.defaultMetric := by
  have hword {w : String} (hw : IsWordRun w.toList) := contains_eq_any text hw
  simp only [hintedMetric, metricHints, hasPart, List.foldl_cons, List.foldl_nil, List.any_cons,
    List.any_nil, Bool.or_false, hword (w := "weight") (by decide),
    hword (w := "miles") (by decide), hword (w := "mileage") (by decide),
    hword (w := "count") (by decide),
    contains_eq_hasLink text "how" "many" (w := "how many") (by decide) (by decide) (by decide)]

def hintingRules : List String := ["product_by_dimension", "by_a_and_b"]

theorem readListed_metric (h : readListed ctx m = some b) :
    b.metric = hintedMetric ctx.catalog ctx.lowered := by
  obtain ⟨secondary, -, rfl⟩ := Option.map_eq_some_iff.1 h
  rfl

theorem readPair_metric (h : readPair ctx m = some b) :
    b.metric = hintedMetric ctx.catalog ctx.lowered := by
  unfold readPair at h
  split at h
  · obtain ⟨primary, secondary, -, -, rfl⟩ := Context.breakdown?_eq_some_iff.1 h
    rfl
  · cases h

theorem metric_eq_hintedMetric (hr : r ∈ rules) (hname : r.name ∈ hintingRules)
    (h : r.read ctx m = some b) :
    b.metric = hintedMetric ctx.catalog ctx.lowered := by
  simp only [rules, Rule.ofPattern, List.mem_cons, List.not_mem_nil, or_false] at hr
  obtain rfl | rfl | rfl | rfl | rfl | rfl := hr
  · exact absurd hname (by decide)
  · exact absurd hname (by decide)
  · exact absurd hname (by decide)
  · exact absurd hname (by decide)
  · exact readListed_metric h
  · exact readPair_metric h

/-- A metric that hints may give is named by whole words of the text. -/
structure IsAskedFor (runs : List (List Char)) (metric : String) : Prop where
  loads : metric = "load_id" →
      (hasWord runs ["count", "counts"] || hasPair "how" "many" runs) = true
  miles : metric = "miles" → hasWord runs ["miles", "mileage"] = true
  weight : metric = "weight" → hasWord runs ["weight", "weights"] = true

instance (runs : List (List Char)) (metric : String) : Decidable (IsAskedFor runs metric) :=
  decidable_of_iff
    ((metric = "load_id" →
      (hasWord runs ["count", "counts"] || hasPair "how" "many" runs) = true) ∧
      (metric = "miles" → hasWord runs ["miles", "mileage"] = true) ∧
      (metric = "weight" → hasWord runs ["weight", "weights"] = true))
    ⟨fun h => ⟨h.1, h.2.1, h.2.2⟩, fun h => ⟨h.1, h.2, h.3⟩⟩

/-- The last kind of hint that the text has in one of its runs is also there as a whole word. -/
def IsHintWhole (runs : List (List Char)) : Prop :=
  if hasPart runs ["count"] || hasLink "how" "many" runs then
    (hasWord runs ["count", "counts"] || hasPair "how" "many" runs) = true
  else if hasPart runs ["miles", "mileage"] then hasWord runs ["miles", "mileage"] = true
  else hasPart runs ["weight"] = true → hasWord runs ["weight", "weights"] = true

instance (runs : List (List Char)) : Decidable (IsHintWhole runs) := by
  unfold IsHintWhole
  infer_instance

theorem isAskedFor_hintedMetric_iff (hdefault : c.defaultMetric ∉ metricHints.map (·.2))
    (text : String) :
    IsAskedFor (runs text.toList) (hintedMetric c text) ↔ IsHintWhole (runs text.toList) := by
  obtain ⟨hweight, hmiles, hloads⟩ : c.defaultMetric ≠ "weight" ∧ c.defaultMetric ≠ "miles" ∧
      c.defaultMetric ≠ "load_id" := by simpa [metricHints] using hdefault
  rw [hintedMetric_eq, IsHintWhole]
  generalize runs text.toList = l
  split
  next => exact ⟨fun h => h.loads rfl,
    fun h => ⟨fun _ => h, Not.elim (by decide), Not.elim (by decide)⟩⟩
  next =>
    split
    next => exact ⟨fun h => h.miles rfl,
      fun h => ⟨Not.elim (by decide), fun _ => h, Not.elim (by decide)⟩⟩
    next =>
      split
      next hpart =>
        exact ⟨fun h _ => h.weight rfl,
          fun h => ⟨Not.elim (by decide), Not.elim (by decide), fun _ => h hpart⟩⟩
      next hpart =>
        exact iff_of_true ⟨Not.elim hloads, Not.elim hmiles, Not.elim hweight⟩
          fun h => absurd h hpart

/-- A metric that a breakdown takes from the hints is asked for exactly if the hint that decides
is a whole word. -/
theorem isAskedFor_metric_iff (hdefault : c.defaultMetric ∉ metricHints.map (·.2))
    (h : classify c prompt = some (.breakdown b))
    (hrule : ∃ name ∈ hintingRules, ruleName? c prompt = some name) :
    IsAskedFor (runs (stripped (lower prompt)).toList) b.metric ↔
      IsHintWhole (runs (stripped (lower prompt)).toList) := by
  obtain ⟨r, hr, hname, m, -, hread⟩ := exists_of_classify h
  obtain ⟨name, hmem, hname'⟩ := hrule
  obtain rfl := Option.some.inj (hname.symm.trans hname')
  rw [metric_eq_hintedMetric hr hmem hread]
  exact isAskedFor_hintedMetric_iff hdefault _

theorem isAskedFor_weight :
    classify .freight "Weight, by carrier and state" =
        some (.breakdown ⟨"carrier_name", "origin_state", "weight", .avg, []⟩) ∧
      IsAskedFor (runs (stripped (lower "Weight, by carrier and state")).toList) "weight" := by
  have hread : classify .freight "Weight, by carrier and state" =
      some (.breakdown ⟨"carrier_name", "origin_state", "weight", .avg, []⟩) := by
    decide +kernel
  refine ⟨hread,
    (isAskedFor_metric_iff (by decide) hread ⟨"by_a_and_b", by decide, by decide +kernel⟩).2 ?_⟩
  decide +kernel

/-- A discount is taken for a count. -/
theorem not_isAskedFor_discounts :
    classify .freight "discounts, by carrier and state" =
        some (.breakdown ⟨"carrier_name", "origin_state", "load_id", .avg, []⟩) ∧
      ruleName? .freight "discounts, by carrier and state" = some "by_a_and_b" ∧
      ¬ IsAskedFor (runs (stripped (lower "discounts, by carrier and state")).toList)
        "load_id" := by
  decide +kernel

end PromptChart.Prompt
