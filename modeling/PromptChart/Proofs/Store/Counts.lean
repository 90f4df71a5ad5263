import PromptChart.Proofs.Merge.Formula
import PromptChart.Proofs.Store.Payload
import PromptChart.Proofs.Validation.Row

namespace PromptChart

namespace Payload

def raw (table : String) (payload : Json) : Except Failure (List Json) :=
  unwrap table 2 payload >>= rawRows table

/-- The rows that a payload is read as, each with the count that it lists for the row. -/
def Lists (table : String) (payload : Json) (listed : List (PartialRow × Int)) : Prop :=
  rows table payload = .ok (listed.map (·.1)) ∧
    ∃ data, raw table payload = .ok data ∧ data.map PartialRow.listedCount? =
      listed.map (some ·.2)

variable {table : String} {payload : Json} {read : List PartialRow} {data : List Json}

theorem checkRows_eq_ok :
    checkRows table data = .ok read ↔
      List.Forall₂ (fun d row => PartialRow.check d = .valid row) data read := by
  rw [checkRows, mapM_eq_ok]
  constructor
  · intro h
    apply h.imp
    intro d row hrow
    split at hrow
    next row' hcheck =>
      cases hrow
      exact hcheck
    · cases hrow
  · intro h
    apply h.imp
    intro d row hrow
    rw [hrow]

theorem rows_eq_ok : rows table payload = .ok read ↔
    ∃ data, raw table payload = .ok data ∧
      List.Forall₂ (fun d row => PartialRow.check d = .valid row) data read := by
  have hrows : rows table payload = raw table payload >>= checkRows table := by
    rw [raw, bind_assoc]
    rfl
  simp only [hrows, bind_eq_ok, checkRows_eq_ok]

theorem count_of_lists {listed : List (PartialRow × Int)} (h : Lists table payload listed) :
    ∀ e ∈ listed, e.1.count = if e.2 = 0 then 1 else e.2 := by
  obtain ⟨hrows, data, hdata, hcounts⟩ := h
  obtain ⟨data', hdata', hchecked⟩ := rows_eq_ok.1 hrows
  obtain rfl := Except.ok.inj (hdata.symm.trans hdata')
  rw [List.forall₂_map_right_iff] at hchecked
  rw [← List.forall₂_eq_eq_eq, List.forall₂_map_left_iff, List.forall₂_map_right_iff] at hcounts
  intro e he
  obtain ⟨d, -, hd, hlisted⟩ := exists_left_of_forall₂ (forall₂_and hchecked hcounts) he
  exact PartialRow.count_of_listed hd hlisted

end Payload

def valuesListed (listed : List (PartialRow × Int)) : List (Binary64 × Int) :=
  listed.filterMap fun e => e.1.value.map (·, e.2)

/-- How many records values count for, where only positive counts do. -/
def recordsListed (values : List (Binary64 × Int)) : Int :=
  ((values.filter (0 < ·.2)).map (·.2)).sum

/-- The mean of values weighted by those of their counts that are positive; the plain mean if
there are none. -/
def meanListed (values : List (Binary64 × Int)) : Binary64 :=
  if values.filter (0 < ·.2) = [] then Binary64.total (values.map (·.1)) / .ofInt values.length
  else Binary64.total ((values.filter (0 < ·.2)).map fun e => e.1 * .ofInt e.2) /
    .ofInt (recordsListed values)

section Listed

variable {listed : List (PartialRow × Int)}

theorem map_fst_valuesListed (listed : List (PartialRow × Int)) :
    (valuesListed listed).map (·.1) = (listed.map (·.1)).filterMap (·.value) := by
  rw [valuesListed, List.map_filterMap, List.filterMap_map]
  apply List.filterMap_congr
  intro e _
  rw [Option.map_map]
  exact Option.map_id'

theorem weighted_valuesListed (h : ∀ e ∈ listed, e.1.count = e.2) :
    ((valuesListed listed).filter (0 < ·.2)).map (fun e => e.1 * .ofInt e.2) =
      (listed.map (·.1)).filterMap (·.weighted?) := by
  rw [valuesListed, List.filter_filterMap, List.map_filterMap, List.filterMap_map]
  apply List.filterMap_congr
  intro e he
  rw [Function.comp_apply, PartialRow.weighted?, h e he]
  cases e.1.value with
  | none => simp
  | some v =>
    by_cases hpos : 0 < e.2
    · simp [hpos]
    · simp [Option.filter, hpos]

theorem weight_eq_recordsListed (h : ∀ e ∈ listed, e.1.count = e.2) :
    PartialRow.weight (listed.map (·.1)) = recordsListed (valuesListed listed) := by
  induction listed with
  | nil => rfl
  | cons e rest ih =>
    obtain ⟨he, hrest⟩ := List.forall_mem_cons.1 h
    have ih := ih hrest
    rw [PartialRow.weight, recordsListed, valuesListed] at ih ⊢
    cases hvalue : e.1.value with
    | none =>
      rw [List.map_cons, List.filter_cons_of_neg (by simp [hvalue]),
        List.filterMap_cons_none (by rw [hvalue]; rfl), ih]
    | some v =>
      rw [List.map_cons, List.filter_cons_of_pos (by simp [hvalue]),
        List.filterMap_cons_some (by rw [hvalue]; rfl), List.map_cons, List.sum_cons, ih, he]
      by_cases hpos : 0 < e.2
      · rw [List.filter_cons_of_pos (by simpa using hpos), List.map_cons, List.sum_cons,
          max_eq_left hpos.le]
      · rw [List.filter_cons_of_neg (by simpa using hpos), max_eq_right (not_lt.1 hpos),
          zero_add]

theorem mean_eq_meanListed (h : ∀ e ∈ listed, e.1.count = e.2)
    (hfinite : (Binary64.ofInt (recordsListed (valuesListed listed))).isFinite = true) :
    Aggregation.mean (listed.map (·.1)) = .ok (meanListed (valuesListed listed)) := by
  rw [Aggregation.mean, meanListed, weight_eq_recordsListed h, weighted_valuesListed h,
    ← map_fst_valuesListed, List.length_map]
  by_cases hnil : (valuesListed listed).filter (0 < ·.2) = []
  · have hzero : recordsListed (valuesListed listed) = 0 := by rw [recordsListed, hnil]; rfl
    rw [if_pos hnil, if_neg (by rw [hzero]; decide)]
  · have hpos : 0 < recordsListed (valuesListed listed) := by
      apply List.sum_pos
      · intro n hn
        obtain ⟨e, he, rfl⟩ := List.mem_map.1 hn
        exact of_decide_eq_true (List.mem_filter.1 he).2
      · exact mt List.map_eq_nil_iff.1 hnil
    rw [if_neg hnil, if_pos hpos, Binary64.ofInt?_of_isFinite hfinite]
    rfl

end Listed

theorem combine_add (ns : List Int) :
    combine (· + ·) ns = if ns = [] then none else some ns.sum := by
  cases ns with
  | nil => rfl
  | cons n rest =>
    rw [combine, if_neg (List.cons_ne_nil n rest), List.sum_eq_foldl, List.foldl_cons,
      Int.zero_add]

theorem natAbs_sum_le (ns : List Int) : ns.sum.natAbs ≤ (ns.map Int.natAbs).sum := by
  induction ns with
  | nil => exact Nat.le_refl 0
  | cons n rest ih =>
    rw [List.sum_cons, List.map_cons, List.sum_cons]
    exact (Int.natAbs_add_le n rest.sum).trans (Nat.add_le_add_left ih _)

section Merged

variable {κ : Type} [DecidableEq κ] {key : PartialRow → κ}
  {batches : List (List (PartialRow × Int))} {k : κ}

def ownListed (key : PartialRow → κ) (batches : List (List (PartialRow × Int))) (k : κ) :
    List (PartialRow × Int) :=
  batches.flatten.filter (key ·.1 = k)

def mergeListed (kind : Aggregation) (key : PartialRow → κ)
    (batches : List (List (PartialRow × Int))) : Except Failure (Entries κ Binary64) :=
  mergeRows kind key (batches.map (·.map (·.1)))

theorem filter_rows_eq (key : PartialRow → κ) (batches : List (List (PartialRow × Int)))
    (k : κ) :
    (batches.map (·.map (·.1))).flatten.filter (key · = k) =
      (ownListed key batches k).map (·.1) := by
  rw [ownListed, ← List.map_flatten, List.filter_map]
  rfl

theorem count_of_mem_own (h : ∀ e ∈ batches.flatten, e.1.count = e.2) :
    ∀ e ∈ ownListed key batches k, e.1.count = e.2 :=
  fun e he => h e (List.mem_of_mem_filter he)

theorem forall_isRefused_count_iff (h : ∀ e ∈ batches.flatten, e.1.count = e.2) :
    (∀ row ∈ (batches.map (·.map (·.1))).flatten, row.isRefused .count = false) ↔
      ∀ e ∈ batches.flatten, (Binary64.ofInt e.2).isFinite = true := by
  rw [← List.map_flatten, List.forall_mem_map]
  apply forall₂_congr
  intro e he
  simp [PartialRow.isRefused, h e he]

theorem forall_isRefused_avg_iff (h : ∀ e ∈ batches.flatten, e.1.count = e.2) :
    (∀ row ∈ (batches.map (·.map (·.1))).flatten, row.isRefused .avg = false) ↔
      ∀ e ∈ batches.flatten,
        e.1.value.isSome = true → 0 < e.2 → (Binary64.ofInt e.2).isFinite = true := by
  rw [← List.map_flatten, List.forall_mem_map]
  apply forall₂_congr
  intro e he
  simp [PartialRow.isRefused, h e he]

theorem get?_mergeListed_count (h : ∀ e ∈ batches.flatten, e.1.count = e.2)
    {es : Entries κ Binary64} (hes : mergeListed .count key batches = .ok es) (k : κ) :
    es.get? k = if ownListed key batches k = [] then none
      else some
        (Binary64.total ((ownListed key batches k).map fun e => .ofInt e.2)).roundCents := by
  obtain ⟨value?, hvalue, hget⟩ := Merger.get?_mergeRows_worth hes k
  have hall : ((ownListed key batches k).map (·.1)).filter (Merger.carries .count) =
      (ownListed key batches k).map (·.1) := List.filter_eq_self.2 fun row _ => Bool.or_true _
  have hcounts :
      ((ownListed key batches k).map (·.1)).map (fun row => Binary64.ofInt row.count) =
      (ownListed key batches k).map fun e => Binary64.ofInt e.2 := by
    rw [List.map_map]
    apply List.map_congr_left
    intro e he
    rw [Function.comp_apply, count_of_mem_own h e he]
  rw [filter_rows_eq, hall, Aggregation.worth, hcounts] at hvalue
  simp only [List.map_eq_nil_iff] at hvalue
  rw [hget]
  by_cases hnil : ownListed key batches k = []
  · rw [if_pos hnil] at hvalue ⊢
    cases hvalue
    rfl
  · rw [if_neg hnil] at hvalue ⊢
    cases hvalue
    rfl

theorem get?_mergeListed_avg (h : ∀ e ∈ batches.flatten, e.1.count = e.2)
    {es : Entries κ Binary64} (hes : mergeListed .avg key batches = .ok es) (k : κ) :
    es.get? k = if valuesListed (ownListed key batches k) = [] then none
      else some (meanListed (valuesListed (ownListed key batches k))).roundCents := by
  obtain ⟨value?, hvalue, hget⟩ := Merger.get?_mergeRows_worth hes k
  obtain ⟨-, hweight⟩ := Merger.exists_mergeRows_iff_worth.1 ⟨es, hes⟩
  have hfinite := hweight rfl k
  rw [filter_rows_eq, weight_eq_recordsListed (count_of_mem_own h)] at hfinite
  rw [filter_rows_eq, Aggregation.worth,
    mean_eq_meanListed (count_of_mem_own h) hfinite] at hvalue
  have hnil : ((ownListed key batches k).map (·.1)).filter (Merger.carries .avg) = [] ↔
      valuesListed (ownListed key batches k) = [] := by
    simp [valuesListed, Merger.carries]
  rw [hget]
  by_cases hvalues : valuesListed (ownListed key batches k) = []
  · rw [if_pos (hnil.2 hvalues)] at hvalue
    rw [if_pos hvalues]
    cases hvalue
    rfl
  · rw [if_neg (mt hnil.1 hvalues)] at hvalue
    rw [if_neg hvalues]
    cases hvalue
    rfl

theorem get?_mergeListed_exact (h : ∀ e ∈ batches.flatten, e.1.count = e.2)
    (hbound : (batches.flatten.map (·.2.natAbs)).sum < 2 ^ 53) :
    ∃ es, mergeListed .count key batches = .ok es ∧
      ∀ k, es.get? k = if ownListed key batches k = [] then none
      else some (.ofInt ((ownListed key batches k).map (·.2)).sum) := by
  have hbound (k : κ) :
      (((ownListed key batches k).map (·.2)).map Int.natAbs).sum < 2 ^ 53 := by
    rw [List.map_map]
    exact Nat.lt_of_le_of_lt ((List.filter_sublist.map _).sum_le_sum fun _ _ => Nat.zero_le _)
      hbound
  have hcounts (k : κ) : ((ownListed key batches k).map (·.1)).map (·.count) =
      (ownListed key batches k).map (·.2) := by
    rw [List.map_map]
    exact List.map_congr_left (count_of_mem_own h)
  have hvalue (k : κ) :
      Merger.batchValue .count ((batches.map (·.map (·.1))).flatten.filter (key · = k)) =
      .ok ((combine (· + ·) ((ownListed key batches k).map (·.2))).map .ofInt) := by
    rw [filter_rows_eq, ← hcounts]
    apply Merger.batchValue_count
    have hown := hbound k
    rwa [← hcounts, List.map_map] at hown
  obtain ⟨es, hes⟩ := Merger.exists_mergeRows_iff.2 fun k => ⟨_, hvalue k⟩
  refine ⟨es, hes, fun k => ?_⟩
  rw [Merger.get?_mergeRows hes (hvalue k), combine_add]
  by_cases hnil : ownListed key batches k = []
  · rw [if_pos hnil, hnil]
    rfl
  · rw [if_neg hnil, if_neg (mt List.map_eq_nil_iff.1 hnil), Option.map_some, Option.map_some,
      Arithmetic.roundCents_binary64,
      Binary64.roundCents_ofInt ((natAbs_sum_le _).trans_lt (hbound k))]

end Merged

/-- Counts that payloads list as integers other than zero come into a merge as they are listed.
A count comes to the sum of those of its key, added up as numbers, and thus to their exact sum
where they stay below `2 ^ 53`; an average weighs every value by its count, unless that is
negative, and is the plain mean where no count is positive. A merge fails only on counts, or on
records of an average, that are beyond every number. -/
theorem listed_counts_merge {κ : Type} [DecidableEq κ] (key : PartialRow → κ) (table : String)
    (payloads : List Json) (batches : List (List (PartialRow × Int)))
    (hread : List.Forall₂ (Payload.Lists table) payloads batches)
    (hzero : ∀ e ∈ batches.flatten, e.2 ≠ 0) :
    (∀ e ∈ batches.flatten, e.1.count = e.2) ∧
    ((∃ es, mergeListed .count key batches = .ok es) ↔
      ∀ e ∈ batches.flatten, (Binary64.ofInt e.2).isFinite = true) ∧
    (∀ es, mergeListed .count key batches = .ok es → ∀ k,
      es.get? k = if ownListed key batches k = [] then none
        else some
          (Binary64.total ((ownListed key batches k).map fun e => .ofInt e.2)).roundCents) ∧
    ((batches.flatten.map (·.2.natAbs)).sum < 2 ^ 53 →
      ∃ es, mergeListed .count key batches = .ok es ∧
        ∀ k, es.get? k = if ownListed key batches k = [] then none
          else some (.ofInt ((ownListed key batches k).map (·.2)).sum)) ∧
    ((∃ es, mergeListed .avg key batches = .ok es) ↔
      (∀ e ∈ batches.flatten,
        e.1.value.isSome = true → 0 < e.2 → (Binary64.ofInt e.2).isFinite = true) ∧
        ∀ k, (Binary64.ofInt
          (recordsListed (valuesListed (ownListed key batches k)))).isFinite = true) ∧
    ∀ es, mergeListed .avg key batches = .ok es → ∀ k,
      es.get? k = if valuesListed (ownListed key batches k) = [] then none
        else some (meanListed (valuesListed (ownListed key batches k))).roundCents := by
  have hcount : ∀ e ∈ batches.flatten, e.1.count = e.2 := by
    intro e he
    obtain ⟨listed, hlisted, hmem⟩ := List.mem_flatten.1 he
    obtain ⟨payload, -, hlists⟩ := exists_left_of_forall₂ hread hlisted
    rw [Payload.count_of_lists hlists e hmem, if_neg (hzero e he)]
  refine ⟨hcount, ?_, fun es => get?_mergeListed_count hcount, get?_mergeListed_exact hcount,
    ?_, fun es => get?_mergeListed_avg hcount⟩
  · rw [mergeListed, Merger.exists_mergeRows_iff_worth, forall_isRefused_count_iff hcount]
    exact and_iff_left nofun
  · rw [mergeListed, Merger.exists_mergeRows_iff_worth, forall_isRefused_avg_iff hcount]
    apply and_congr_right
    intro _
    simp only [filter_rows_eq, weight_eq_recordsListed (count_of_mem_own hcount), true_imp_iff]

def drawerData (value count : Json) : Json :=
  .object [("label", .text "Drawer"), ("value", value), ("count", count)]

def drawerRow (value : Binary64) (count : Int) : PartialRow :=
  ⟨none, none, some "Drawer", some value, count⟩

theorem listed_counts_merge_drawers :
    let payload :=
      Json.array [drawerData (.int 10) (.int 3), drawerData (.int 30) .null,
        drawerData (.int 40) (.int (-5))]
    let listed := [(drawerRow 10 3, (3 : Int)), (drawerRow 30 1, 1), (drawerRow 40 (-5), -5)]
    List.Forall₂ (Payload.Lists "shipment_item") [payload] [listed] ∧
      (∀ e ∈ [listed].flatten, e.2 ≠ 0) ∧
      (∃ es, mergeListed .count PartialRow.labelKey [listed] = .ok es ∧
        es.get? "Drawer" = some (.ofInt (-1))) ∧
      ∃ es, mergeListed .avg PartialRow.labelKey [listed] = .ok es ∧
        es.get? "Drawer" = some 15 := by
  intro payload listed
  have hread : List.Forall₂ (Payload.Lists "shipment_item") [payload] [listed] := by
    have hrows : Payload.rows "shipment_item" payload = .ok (listed.map (·.1)) := by
      decide +kernel
    exact .cons ⟨hrows, _, rfl, rfl⟩ .nil
  have hzero : ∀ e ∈ [listed].flatten, e.2 ≠ 0 := by decide
  have hmean :
      (meanListed (valuesListed (ownListed PartialRow.labelKey [listed] "Drawer"))).roundCents =
        15 := by
    decide +kernel
  obtain ⟨-, -, -, hcount, -, havg⟩ :=
    listed_counts_merge PartialRow.labelKey "shipment_item" [payload] [listed] hread hzero
  obtain ⟨counts, hcounts, hsum⟩ := hcount (by decide)
  have hmeans : mergeListed .avg PartialRow.labelKey [listed] = .ok [("Drawer", 15)] := by
    decide +kernel
  refine ⟨hread, hzero, ⟨counts, hcounts, hsum "Drawer"⟩, _, hmeans, ?_⟩
  rw [havg _ hmeans, if_neg (by decide), hmean]

/-- A negative count does not weigh its value. -/
theorem not_forall_listed_counts_merge :
    ¬ ∀ table payload listed, Payload.Lists table payload listed → ∀ k,
      let values := valuesListed (ownListed PartialRow.labelKey [listed] k)
      (values.map (·.2)).sum ≠ 0 →
        ∃ es, mergeListed .avg PartialRow.labelKey [listed] = .ok es ∧
          es.get? k = some (Binary64.total (values.map fun e => e.1 * .ofInt e.2) /
            .ofInt (values.map (·.2)).sum).roundCents := by
  intro h
  have hrows : Payload.rows "shipment_item"
      (.array [drawerData (.int 10) (.int (-1)), drawerData (.int 20) (.int 3)]) =
        .ok [drawerRow 10 (-1), drawerRow 20 3] := by
    decide +kernel
  have hmerged :
      mergeListed .avg PartialRow.labelKey
        [[(drawerRow 10 (-1), (-1 : Int)), (drawerRow 20 3, 3)]] =
      .ok [("Drawer", 20)] := by
    decide +kernel
  obtain ⟨es, hes, hvalue⟩ := h _ _ [(drawerRow 10 (-1), -1), (drawerRow 20 3, 3)]
    ⟨hrows, _, rfl, rfl⟩ "Drawer" (by decide)
  obtain rfl := Except.ok.inj (hmerged.symm.trans hes)
  revert hvalue
  decide +kernel

end PromptChart
