import Mathlib.Algebra.BigOperators.Ring.Finset
import PromptChart.Proofs.Binary64.Monotone
import PromptChart.Proofs.Merge.Repeated
import PromptChart.Proofs.Merge.Valued

namespace PromptChart

/-- The row with its value as a rational; nan and the infinities are none. -/
def PartialRow.exact (row : PartialRow) : PartialRow ℚ :=
  { row with value := row.value.bind fun v => v.toRat.toOption }

def weightedMean (rows : List (PartialRow ℚ)) : ℚ :=
  ((rows.filter (·.value.isSome)).map fun row => row.value.getD 0 * (row.count : ℚ)).sum /
    (((rows.filter (·.value.isSome)).map (·.count)).sum : Int)

/-- One row is split into two that share its records, the second of which comes anywhere after
the first. -/
inductive PartialRow.Split {ν : Type} : List (PartialRow ν) → List (PartialRow ν) → Prop
  | share {row : PartialRow ν} {m n : Int} (before between after : List (PartialRow ν))
      (hm : 0 < m) (hn : 0 < n) (h : row.count = m + n) :
      Split (before ++ row :: (between ++ after))
        (before ++ { row with count := m } :: (between ++ { row with count := n } :: after))

section Mean

variable {rows : List (PartialRow ℚ)} {q : ℚ}

theorem value_mem_of_mem_filter {row : PartialRow ℚ} (h : row ∈ rows.filter (·.value.isSome)) :
    row.value.getD 0 ∈ rows.filterMap (·.value) := by
  obtain ⟨hrow, hsome⟩ := List.mem_filter.1 h
  obtain ⟨v, hv⟩ := Option.isSome_iff_exists.1 hsome
  rw [hv, Option.getD_some]
  exact List.mem_filterMap.2 ⟨row, hrow, hv⟩

variable (hcount : ∀ row ∈ rows, 0 < row.count)
include hcount

theorem sum_mul_count_le {f g : PartialRow ℚ → ℚ}
    (h : ∀ row ∈ rows.filter (·.value.isSome), f row ≤ g row) :
    ((rows.filter (·.value.isSome)).map fun row => f row * (row.count : ℚ)).sum ≤
      ((rows.filter (·.value.isSome)).map fun row => g row * (row.count : ℚ)).sum := by
  apply List.sum_le_sum
  intro row hrow
  have hnonneg :
      (0 : ℚ) ≤ row.count := by exact_mod_cast (hcount row (List.mem_of_mem_filter hrow)).le
  exact mul_le_mul_of_nonneg_right (h row hrow) hnonneg

variable (hne : rows.filterMap (·.value) ≠ [])
include hne

theorem sum_count_pos : 0 < ((rows.filter (·.value.isSome)).map (·.count)).sum := by
  apply List.sum_pos
  · intro n hn
    obtain ⟨row, hrow, rfl⟩ := List.mem_map.1 hn
    exact hcount row (List.mem_of_mem_filter hrow)
  · intro hnil
    obtain ⟨v, hv⟩ := List.exists_mem_of_ne_nil _ hne
    obtain ⟨row, hrow, hvalue⟩ := List.mem_filterMap.1 hv
    have hmem : row ∈ rows.filter (·.value.isSome) :=
      List.mem_filter.2 ⟨hrow, by rw [hvalue]; rfl⟩
    rw [List.map_eq_nil_iff.1 hnil] at hmem
    cases hmem

theorem le_weightedMean (h : ∀ v ∈ rows.filterMap (·.value), q ≤ v) :
    q ≤ weightedMean rows := by
  have hpos : (0 : ℚ) < (((rows.filter (·.value.isSome)).map (·.count)).sum : Int) := by
    exact_mod_cast sum_count_pos hcount hne
  rw [weightedMean, le_div_iff₀ hpos, Int.cast_list_sum, List.map_map, ← List.sum_map_mul_left]
  exact sum_mul_count_le hcount fun row hrow => h _ (value_mem_of_mem_filter hrow)

theorem weightedMean_le (h : ∀ v ∈ rows.filterMap (·.value), v ≤ q) :
    weightedMean rows ≤ q := by
  have hpos : (0 : ℚ) < (((rows.filter (·.value.isSome)).map (·.count)).sum : Int) := by
    exact_mod_cast sum_count_pos hcount hne
  rw [weightedMean, div_le_iff₀ hpos, Int.cast_list_sum, List.map_map, ← List.sum_map_mul_left]
  exact sum_mul_count_le hcount fun row hrow => h _ (value_mem_of_mem_filter hrow)

end Mean

namespace PartialRow.Split

variable {ν : Type}

theorem weightedMean_eq {rows rows' : List (PartialRow ℚ)} (h : Split rows rows') :
    weightedMean rows' = weightedMean rows := by
  cases h with
  | @share row m n before between after hm hn h =>
    cases hvalue : row.value with
    | none => simp [weightedMean, List.filter_append, hvalue]
    | some v =>
      simp only [weightedMean, List.filter_append, List.filter_cons, hvalue, Option.isSome_some,
        if_true, List.map_append, List.map_cons, List.sum_append, List.sum_cons,
        Option.getD_some, h]
      congr 1
      · push_cast
        ring
      · push_cast
        ring

variable {rows rows' : List (PartialRow ν)}

theorem count_pos (h : Split rows rows') (hcount : ∀ row ∈ rows, 0 < row.count) :
    ∀ row ∈ rows', 0 < row.count := by
  cases h with
  | share before between after hm hn h =>
    simp only [List.forall_mem_append, List.forall_mem_cons] at hcount ⊢
    obtain ⟨hbefore, -, hbetween, hafter⟩ := hcount
    exact ⟨hbefore, hm, hbetween, hn, hafter⟩

theorem map {exact : PartialRow ν → PartialRow ℚ}
    (hexact : ∀ row n, exact { row with count := n } = { exact row with count := n })
    (h : Split rows rows') :
    Split (rows.map exact) (rows'.map exact) := by
  cases h with
  | @share row m n before between after hm hn h =>
    have hcount : (exact row).count = row.count :=
      congrArg PartialRow.count (hexact row row.count)
    simp only [List.map_append, List.map_cons, hexact row m, hexact row n]
    exact share _ _ _ hm hn (hcount.trans h)

variable {κ : Type} [DecidableEq κ] {key : PartialRow ν → κ}

theorem filter (hkey : ∀ row n, key { row with count := n } = key row)
    (h : Split rows rows') (k : κ) :
    Split (rows.filter (key · = k)) (rows'.filter (key · = k)) ∨
      rows'.filter (key · = k) = rows.filter (key · = k) := by
  cases h with
  | @share row m n before between after hm hn h =>
    by_cases hk : key row = k
    · simp only [List.filter_append, List.filter_cons, hkey, hk, decide_true, if_true]
      exact .inl (share _ _ _ hm hn h)
    · simp only [List.filter_append, List.filter_cons, hkey, hk, decide_false,
        Bool.false_eq_true, if_false]
      exact .inr trivial

theorem keys_eq {kind : Aggregation} (hkind : kind ≠ .count)
    (hkey : ∀ row n, key { row with count := n } = key row) (h : Split rows rows') :
    Merger.keys kind key rows' = Merger.keys kind key rows := by
  cases h with
  | @share row m n before between after hm hn h =>
    simp only [Merger.keys, Merger.carries_eq_isSome hkind, List.filter_append,
      List.filter_cons]
    cases hvalue : row.value.isSome with
    | false => simp only [Bool.false_eq_true, if_false, List.map_append]
    | true =>
      simp only [if_true, List.map_append, List.map_cons, hkey row m, hkey row n]
      rw [← List.cons_append, ← List.append_assoc, Text.distinct_append_cons_of_mem,
        List.append_assoc, List.cons_append]
      exact List.mem_append_right _ (.head _)

end PartialRow.Split

/-- Entries that stand under the same keys in the same order, each between a lower and a higher
one. -/
structure Entries.Between {κ α : Type} (le : α → α → Prop) (lows means highs : Entries κ α) :
    Prop where
  low_le : List.Forall₂ (fun low mean => low.1 = mean.1 ∧ le low.2 mean.2) lows means
  le_high : List.Forall₂ (fun mean high => mean.1 = high.1 ∧ le mean.2 high.2) means highs

theorem Entries.between_tabulate {κ α : Type} {le : α → α → Prop} {keys : List κ}
    {low mean high : κ → α} (h : ∀ k ∈ keys, le (low k) (mean k) ∧ le (mean k) (high k)) :
    Entries.Between le (Entries.tabulate keys low) (Entries.tabulate keys mean)
      (Entries.tabulate keys high) := by
  constructor
  · rw [tabulate, tabulate, List.forall₂_map_left_iff, List.forall₂_map_right_iff,
      List.forall₂_same]
    exact fun k hk => ⟨rfl, (h k hk).1⟩
  · rw [tabulate, tabulate, List.forall₂_map_left_iff, List.forall₂_map_right_iff,
      List.forall₂_same]
    exact fun k hk => ⟨rfl, (h k hk).2⟩

namespace Merger

section Cells

variable {κ ν : Type} [DecidableEq κ] [Arithmetic ν] {kind kind' : Aggregation}
  {key : PartialRow ν → κ} {rows : List (PartialRow ν)} {k : κ}

omit [Arithmetic ν] in
theorem keys_eq_of_ne_count (hkind : kind ≠ .count) (hkind' : kind' ≠ .count)
    (key : PartialRow ν → κ) (rows : List (PartialRow ν)) :
    keys kind key rows = keys kind' key rows := by
  rw [keys, keys, carries_eq_isSome hkind, carries_eq_isSome hkind']

omit [Arithmetic ν] in
theorem values_ne_nil (hkind : kind ≠ .count) (h : k ∈ keys kind key rows) :
    (rows.filter (key · = k)).filterMap (·.value) ≠ [] := by
  obtain ⟨row, hrow, hcarries, hkey⟩ := mem_keys_iff.1 h
  rw [carries_eq_isSome hkind] at hcarries
  obtain ⟨v, hv⟩ := Option.isSome_iff_exists.1 hcarries
  exact List.ne_nil_of_mem
    (List.mem_filterMap.2 ⟨row, List.mem_filter.2 ⟨hrow, decide_eq_true hkey⟩, hv⟩)

def extremum (kind : Aggregation) (rows : List (PartialRow ν)) : ν :=
  (combine kind.op (rows.filterMap (·.value))).getD (Arithmetic.ofInt 0)

theorem mergeRows_extremum (hkind : kind = .min ∨ kind = .max) (key : PartialRow ν → κ)
    (batches : List (List (PartialRow ν))) :
    mergeRows kind key batches = .ok (Entries.tabulate (keys .avg key batches.flatten) fun k =>
      Arithmetic.roundCents (extremum kind (batches.flatten.filter (key · = k)))) := by
  have hcount : kind ≠ .count := by
    obtain rfl | rfl := hkind <;> decide
  rw [keys_eq_of_ne_count (by decide) hcount]
  apply mergeRows_eq_tabulate
  intro k hk
  obtain ⟨v, hv⟩ := exists_combine kind.op (values_ne_nil hcount hk)
  rw [batchValue_extremum hkind, extremum, hv, Option.getD_some]

/-- The mean of every key, first exactly and then as `round` has it. -/
def means {α : Type} (key : PartialRow ν → κ) (exact : PartialRow ν → PartialRow ℚ)
    (round : ℚ → α) (rows : List (PartialRow ν)) : Entries κ α :=
  Entries.tabulate (keys .avg key rows)
    fun k => round (weightedMean ((rows.filter (key · = k)).map exact))

omit [Arithmetic ν] in
theorem means_split {α : Type} {exact : PartialRow ν → PartialRow ℚ}
    {rows' : List (PartialRow ν)} (hkey : ∀ row n, key { row with count := n } = key row)
    (hexact : ∀ row n, exact { row with count := n } = { exact row with count := n })
    (h : PartialRow.Split rows rows') (round : ℚ → α) :
    means key exact round rows' = means key exact round rows := by
  rw [means, means, h.keys_eq (by decide) hkey]
  apply Entries.tabulate_congr
  intro k _
  rcases h.filter hkey k with hsplit | hsame
  · rw [(hsplit.map hexact).weightedMean_eq]
  · rw [hsame]

theorem map_fst_eq_means (hkind : kind ≠ .count) {batches : List (List (PartialRow ν))}
    {es : Entries κ ν} (h : mergeRows kind key batches = .ok es) {α : Type}
    (exact : PartialRow ν → PartialRow ℚ) (round : ℚ → α) :
    es.map (·.1) = (means key exact round batches.flatten).map (·.1) := by
  rw [map_fst_mergeRows h, keys_eq_of_ne_count hkind (by decide : Aggregation.avg ≠ .count),
    means, Entries.tabulate, List.map_map]
  exact (List.map_id _).symm

end Cells

section Exact

variable {κ : Type} [DecidableEq κ] {kind : Aggregation} {key : PartialRow ℚ → κ}
  {rows : List (PartialRow ℚ)} {batches : List (List (PartialRow ℚ))} {v : ℚ}

theorem batchValue_avg_of_pos (hcount : ∀ row ∈ rows, 0 < row.count)
    (hne : rows.filterMap (·.value) ≠ []) :
    batchValue .avg rows = .ok (some (weightedMean rows)) := by
  have hpos := sum_count_pos hcount hne
  have hweight : (averaged (rows.filter (·.value.isSome))).count =
      ((rows.filter (·.value.isSome)).map (·.count)).sum := by
    apply congrArg List.sum
    apply List.map_congr_left
    intro row hrow
    exact max_eq_left (hcount row (List.mem_of_mem_filter hrow)).le
  have htotal : (averaged (rows.filter (·.value.isSome))).total =
      ((rows.filter (·.value.isSome)).map fun row =>
        row.value.getD 0 * (row.count : ℚ)).sum := by
    apply congrArg List.sum
    apply List.map_congr_left
    intro row hrow
    rw [max_eq_left (hcount row (List.mem_of_mem_filter hrow)).le]
  have hsome : rows.filter (·.value.isSome) ≠ [] := by
    intro hnil
    rw [hnil] at hpos
    cases hpos
  rw [batchValue, batchCell_eq, carries_eq_isSome (by decide), if_neg hsome, addRows_averaged,
    map_ok, ok_bind]
  dsimp only
  rw [Cell.value, hweight, if_pos hpos, Arithmetic.ofInt?_rational, htotal]
  rfl

theorem mergeRows_avg_of_pos (hcount : ∀ row ∈ batches.flatten, 0 < row.count) :
    mergeRows .avg key batches = .ok (means key id Rational.roundCents batches.flatten) := by
  apply mergeRows_eq_tabulate
    fun k => weightedMean ((batches.flatten.filter (key · = k)).map id)
  intro k hk
  rw [List.map_id]
  apply batchValue_avg_of_pos
  · exact fun row hrow => hcount row (List.mem_of_mem_filter hrow)
  · exact values_ne_nil (by decide) hk

theorem min_le (h : v ∈ rows.filterMap (·.value)) : extremum .min rows ≤ v := by
  obtain ⟨low, hlow⟩ := exists_combine Aggregation.min.op (List.ne_nil_of_mem h)
  rw [extremum, hlow, Option.getD_some]
  have hop : (Aggregation.min.op : ℚ → ℚ → ℚ) = Min.min := Arithmetic.min_rational
  rw [hop] at hlow
  exact rel_combine (fun _ => le_refl _) (fun _ _ _ => le_trans) min_le_left min_le_right hlow h

theorem le_max (h : v ∈ rows.filterMap (·.value)) : v ≤ extremum .max rows := by
  obtain ⟨high, hhigh⟩ := exists_combine Aggregation.max.op (List.ne_nil_of_mem h)
  rw [extremum, hhigh, Option.getD_some]
  have hop : (Aggregation.max.op : ℚ → ℚ → ℚ) = Max.max := Arithmetic.max_rational
  rw [hop] at hhigh
  exact rel_combine (r := fun a b => b ≤ a) (fun _ => le_refl _)
    (fun _ _ _ hab hbc => hbc.trans hab) le_max_left le_max_right hhigh h

end Exact

section Doubles

variable {kind : Aggregation} {rows : List PartialRow}

def places (rows : List PartialRow) : List Int :=
  (rows.filterMap (·.value)).map fun v => v.rank.getD 0

theorem count_exact_pos (hcount : ∀ row ∈ rows, 0 < row.count) :
    ∀ row ∈ rows.map PartialRow.exact, 0 < row.count := by
  rw [List.forall_mem_map]
  exact hcount

variable (hfinite : ∀ row ∈ rows, ∀ v, row.value = some v → v.isFinite = true)
include hfinite

theorem values_exact : (rows.map PartialRow.exact).filterMap (·.value) =
    (places rows).map fun n : Int => (n : ℚ) / Binary64.unitsPerOne := by
  rw [places, List.filterMap_map, List.map_map, List.map_filterMap]
  apply List.filterMap_congr
  intro row hrow
  rw [Function.comp_apply, PartialRow.exact]
  dsimp only
  cases hvalue : row.value with
  | none => rfl
  | some v =>
    cases v with
    | finite s i => rfl
    | _ => cases hfinite row hrow _ hvalue

variable (hne : rows.filterMap (·.value) ≠ [])
include hne

theorem exists_rank_extremum (hkind : kind = .min ∨ kind = .max) :
    ∃ n, (extremum kind rows).rank = some n ∧ combine kind.join (places rows) = some n := by
  have hplaces :=
    combine_places hkind
      fun row hrow hnan => Binary64.ne_nan_of_isFinite (hfinite row hrow _ hnan) rfl
  obtain ⟨v, hv⟩ := exists_combine kind.op hne
  rw [hv, ← places] at hplaces
  rw [extremum, hv, Option.getD_some]
  generalize hn : combine kind.join (places rows) = n? at hplaces
  cases hplaces with
  | some hrank => exact ⟨_, hrank, rfl⟩

theorem exact_ne_nil : (rows.map PartialRow.exact).filterMap (·.value) ≠ [] := by
  rw [values_exact hfinite, places, ne_eq, List.map_eq_nil_iff, List.map_eq_nil_iff]
  exact hne

variable (hcount : ∀ row ∈ rows, 0 < row.count)
include hcount

theorem min_le_mean :
    (extremum .min rows).le (.ofRat (weightedMean (rows.map PartialRow.exact))) = true := by
  obtain ⟨n, hrank, hn⟩ := exists_rank_extremum hfinite hne (.inl rfl)
  apply Binary64.le_ofRat hrank
  apply le_weightedMean (count_exact_pos hcount) (exact_ne_nil hfinite hne)
  rw [values_exact hfinite, List.forall_mem_map]
  intro place hplace
  have hle : n ≤ place := rel_combine le_refl (fun _ _ _ => le_trans) min_le_left
    min_le_right hn hplace
  exact div_le_div_of_nonneg_right (Int.cast_le.2 hle) (Nat.cast_nonneg _)

theorem mean_le_max :
    (Binary64.ofRat (weightedMean (rows.map PartialRow.exact))).le (extremum .max rows) =
      true := by
  obtain ⟨n, hrank, hn⟩ := exists_rank_extremum hfinite hne (.inr rfl)
  apply Binary64.ofRat_le_of_rank hrank
  apply weightedMean_le (count_exact_pos hcount) (exact_ne_nil hfinite hne)
  rw [values_exact hfinite, List.forall_mem_map]
  intro place hplace
  have hle : place ≤ n := rel_combine (r := fun a b => b ≤ a) le_refl
    (fun _ _ _ hab hbc => hbc.trans hab) le_max_left le_max_right hn hplace
  exact div_le_div_of_nonneg_right (Int.cast_le.2 hle) (Nat.cast_nonneg _)

end Doubles

end Merger

open Merger

/-- Where all rows count for some records, an average has the cells of a minimum, a maximum and
a sum, in the same order, and each of its values is a weighted mean in cents that lies between
the minimum and the maximum: so without rounding on the way, and also with the number nearest to
the exact mean between the minimum and maximum that are merged from finite numbers. Nothing
changes if a row is split into two that share its records. -/
theorem average_between_extremes {κ : Type} [DecidableEq κ] :
    (∀ (key : PartialRow ℚ → κ) (batches : List (List (PartialRow ℚ))),
      (∀ row ∈ batches.flatten, 0 < row.count) →
      let average := means key id Rational.roundCents batches.flatten
      ∃ lows highs sums, mergeRows .avg key batches = .ok average ∧
        mergeRows .min key batches = .ok lows ∧ mergeRows .max key batches = .ok highs ∧
        mergeRows .sum key batches = .ok sums ∧
        Entries.Between (· ≤ ·) lows average highs ∧ sums.map (·.1) = average.map (·.1)) ∧
    (∀ (key : PartialRow → κ) (batches : List (List PartialRow)),
      (∀ row ∈ batches.flatten, 0 < row.count) →
      (∀ row ∈ batches.flatten, ∀ v, row.value = some v → v.isFinite = true) →
      let average := means key PartialRow.exact (Binary64.roundCents ∘ Binary64.ofRat)
        batches.flatten
      ∃ lows highs sums, mergeRows .min key batches = .ok lows ∧
        mergeRows .max key batches = .ok highs ∧ mergeRows .sum key batches = .ok sums ∧
        Entries.Between (fun x y => x.le y = true) lows average highs ∧
        sums.map (·.1) = average.map (·.1) ∧
        ∀ es, mergeRows .avg key batches = .ok es → es.map (·.1) = average.map (·.1)) ∧
    (∀ (key : PartialRow ℚ → κ) (batches batches' : List (List (PartialRow ℚ))),
      (∀ row n, key { row with count := n } = key row) →
      (∀ row ∈ batches.flatten, 0 < row.count) →
      PartialRow.Split batches.flatten batches'.flatten →
        mergeRows .avg key batches' = mergeRows .avg key batches) ∧
    ∀ (key : PartialRow → κ) (batches batches' : List (List PartialRow)) (round : ℚ → Binary64),
      (∀ row n, key { row with count := n } = key row) →
      PartialRow.Split batches.flatten batches'.flatten →
        means key PartialRow.exact round batches'.flatten =
          means key PartialRow.exact round batches.flatten := by
  refine ⟨?_, ?_, ?_, ?_⟩
  · intro key batches hcount average
    obtain ⟨sums, hsums⟩ := exists_mergeRows_iff.2 fun k =>
      exists_batchValue_rational .sum (batches.flatten.filter (key · = k))
    refine ⟨_, _, sums, mergeRows_avg_of_pos hcount, mergeRows_extremum (.inl rfl) key batches,
      mergeRows_extremum (.inr rfl) key batches, hsums, ?_,
      map_fst_eq_means (by decide) hsums _ _⟩
    apply Entries.between_tabulate
    intro k hk
    have hown : ∀ row ∈ batches.flatten.filter (key · = k), 0 < row.count :=
      fun row hrow => hcount row (List.mem_of_mem_filter hrow)
    have hvalues := values_ne_nil (by decide) hk
    rw [List.map_id]
    exact ⟨Rational.roundCents_mono (le_weightedMean hown hvalues fun v => min_le),
      Rational.roundCents_mono (weightedMean_le hown hvalues fun v => le_max)⟩
  · intro key batches hcount hfinite average
    have hsum (k : κ) :
        ∃ value?, batchValue .sum (batches.flatten.filter (key · = k)) = .ok value? :=
      exists_batchValue (by decide) nofun
    obtain ⟨sums, hsums⟩ := exists_mergeRows_iff.2 hsum
    refine ⟨_, _, sums, mergeRows_extremum (.inl rfl) key batches,
      mergeRows_extremum (.inr rfl) key batches, hsums, ?_,
      map_fst_eq_means (by decide) hsums _ _,
      fun es hes => map_fst_eq_means (by decide) hes _ _⟩
    apply Entries.between_tabulate
    intro k hk
    have hown : ∀ row ∈ batches.flatten.filter (key · = k), 0 < row.count :=
      fun row hrow => hcount row (List.mem_of_mem_filter hrow)
    have hnumbers : ∀ row ∈ batches.flatten.filter (key · = k),
        ∀ v, row.value = some v → v.isFinite = true :=
      fun row hrow => hfinite row (List.mem_of_mem_filter hrow)
    have hvalues := values_ne_nil (by decide) hk
    rw [Arithmetic.roundCents_binary64, Function.comp_apply]
    exact ⟨Binary64.roundCents_le (min_le_mean hnumbers hvalues hown),
      Binary64.roundCents_le (mean_le_max hnumbers hvalues hown)⟩
  · intro key batches batches' hkey hcount h
    have hcount' : ∀ row ∈ batches'.flatten, 0 < row.count := h.count_pos hcount
    rw [mergeRows_avg_of_pos hcount, mergeRows_avg_of_pos hcount',
      means_split hkey (fun _ _ => rfl) h]
  · intro key batches batches' round hkey h
    exact means_split hkey (fun _ _ => rfl) h round

def pricedDrawers : List PartialRow :=
  [⟨none, none, some "Drawer", some 10, 1⟩, ⟨none, none, some "Drawer", some 25, 3⟩]

theorem average_between_extremes_drawers :
    let split : List PartialRow := [⟨none, none, some "Drawer", some 10, 1⟩,
      ⟨none, none, some "Drawer", some 25, 1⟩, ⟨none, none, some "Drawer", some 25, 2⟩]
    let average :=
      means PartialRow.labelKey PartialRow.exact (Binary64.roundCents ∘ Binary64.ofRat)
        pricedDrawers
    PartialRow.Split pricedDrawers split ∧
      mergeRows .avg PartialRow.labelKey [split.map PartialRow.exact] =
        mergeRows .avg PartialRow.labelKey [pricedDrawers.map PartialRow.exact] ∧
      means PartialRow.labelKey PartialRow.exact (Binary64.roundCents ∘ Binary64.ofRat) split =
        average ∧
      (∃ average lows highs,
        mergeRows .avg PartialRow.labelKey [pricedDrawers.map PartialRow.exact] = .ok average ∧
        Entries.Between (· ≤ ·) lows average highs) ∧
      Entries.Between (fun x y => x.le y = true) [("Drawer", 10)] average [("Drawer", 25)] := by
  intro split average
  obtain ⟨hexact, hdoubles, hsplit, hsplit'⟩ := average_between_extremes (κ := String)
  have hcount : ∀ row ∈ pricedDrawers, 0 < row.count := by decide
  have hfinite : ∀ row ∈ pricedDrawers, ∀ v, row.value = some v → v.isFinite = true := by
    have hall : ∀ row ∈ pricedDrawers, row.value.all Binary64.isFinite = true := by
      decide +kernel
    intro row hrow v hv
    have hrow := hall row hrow
    rwa [hv] at hrow
  have hshare : PartialRow.Split pricedDrawers split :=
    .share [⟨none, none, some "Drawer", some 10, 1⟩] [] [] (by decide) (by decide) rfl
  have hcount' : ∀ row ∈ [pricedDrawers.map PartialRow.exact].flatten, 0 < row.count :=
    count_exact_pos hcount
  obtain ⟨lows, highs, -, haverage, -, -, -, hbetween, -⟩ :=
    hexact PartialRow.labelKey [pricedDrawers.map PartialRow.exact] hcount'
  obtain ⟨lows', highs', -, hlows, hhighs, -, hbetween', -⟩ :=
    hdoubles PartialRow.labelKey [pricedDrawers] hcount hfinite
  have hlow : mergeRows .min PartialRow.labelKey [pricedDrawers] = .ok [("Drawer", 10)] := by
    decide +kernel
  have hhigh : mergeRows .max PartialRow.labelKey [pricedDrawers] = .ok [("Drawer", 25)] := by
    decide +kernel
  obtain rfl := Except.ok.inj (hlows.symm.trans hlow)
  obtain rfl := Except.ok.inj (hhighs.symm.trans hhigh)
  refine ⟨hshare, ?_, ?_, ⟨_, lows, highs, haverage, hbetween⟩, hbetween'⟩
  · exact hsplit PartialRow.labelKey _ [split.map PartialRow.exact] (fun _ _ => rfl) hcount'
      (hshare.map fun _ _ => rfl)
  · exact hsplit' PartialRow.labelKey [pricedDrawers] [split] _ (fun _ _ => rfl) hshare

end PromptChart
