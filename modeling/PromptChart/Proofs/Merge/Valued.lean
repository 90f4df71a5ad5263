import PromptChart.Proofs.Merge.Calls
import PromptChart.Proofs.Merge.Formula

namespace PromptChart

namespace Merger

section Keyed

variable {κ ν : Type} [DecidableEq κ] [Arithmetic ν] {kind : Aggregation}
  {key : PartialRow ν → κ} {batches batches' : List (List (PartialRow ν))}
  {es : Entries κ ν} {k : κ}

omit [Arithmetic ν] in
theorem carries_eq_isSome (hkind : kind ≠ .count) :
    carries (ν := ν) kind = (·.value.isSome) := by
  funext row
  rw [carries, decide_eq_false hkind, Bool.or_false]

theorem mergeRows_congr_of_carries
    (h : batches.flatten.filter (carries kind) = batches'.flatten.filter (carries kind)) :
    mergeRows kind key batches = mergeRows kind key batches' := by
  have hkind : (start kind : Merger κ ν).kind = kind := rfl
  rw [mergeRows, mergeRows, addBatches_eq_takeBatch, addBatches_eq_takeBatch,
    takeBatch_eq_foldlM, takeBatch_eq_foldlM, hkind, h]

theorem mergeRows_congr_of_valued (hkind : kind ≠ .count)
    (h : batches.flatten.filter (·.value.isSome) = batches'.flatten.filter (·.value.isSome)) :
    mergeRows kind key batches = mergeRows kind key batches' := by
  apply mergeRows_congr_of_carries
  rwa [carries_eq_isSome hkind]

theorem mem_keys_mergeRows_iff (h : mergeRows kind key batches = .ok es) :
    k ∈ es.map (·.1) ↔
      ∃ row ∈ batches.flatten, key row = k ∧ (row.value.isSome = true ∨ kind = .count) := by
  rw [map_fst_mergeRows h, mem_keys_iff]
  apply exists_congr
  intro row
  apply and_congr_right
  intro _
  rw [carries, Bool.or_eq_true, decide_eq_true_eq]
  exact and_comm

end Keyed

variable {κ : Type} [DecidableEq κ] {kind : Aggregation} {key : PartialRow → κ} {m : Merger κ}
  {call : Call κ} {calls : List (Call κ)} {batches : List (List PartialRow)} {k : κ}

/-- Do the counts of rows all have a number? -/
def Fit (rows : List PartialRow) : Prop :=
  ∀ row ∈ rows, (Binary64.ofInt row.count).isFinite = true

omit [DecidableEq κ] in
theorem isRefused_of_fit (h : Fit call.rows) (kind : Aggregation) :
    call.isRefused kind = false := by
  rw [Call.isRefused_eq_false_iff]
  intro row hrow
  cases kind with
  | avg => simp [PartialRow.isRefused, h row hrow]
  | count => simp [PartialRow.isRefused, h row hrow]
  | _ => rfl

theorem succeeded_of_fit (h : ∀ call ∈ calls, Fit call.rows) (m : Merger κ) :
    m.succeeded calls = calls := by
  rw [succeeded_eq_accepted, Call.accepted, List.filter_eq_self]
  intro call hcall
  rw [isRefused_of_fit (h call hcall)]
  rfl

theorem carries_of_mem_rowsFor {row : PartialRow} (h : row ∈ rowsFor kind calls k) :
    carries kind row = true := by
  obtain ⟨item, hitem, rfl⟩ := List.mem_map.1 h
  obtain ⟨call, -, hcall⟩ := List.mem_flatMap.1 (List.mem_of_mem_filter hitem)
  obtain ⟨row, hrow, rfl⟩ := List.mem_map.1 hcall
  exact (List.mem_filter.1 hrow).2

/-- Where no call fails, there is a result unless the records of a mean are more than there are
numbers. -/
theorem failsOnly_result_of_fit (h : ∀ call ∈ calls, Fit call.rows) :
    FailsOnly (· = .tooLarge) ((start kind : Merger κ).after calls).result := by
  obtain ⟨cells, hcells, hafter⟩ :=
    after_start_eq fun call hcall => isRefused_of_fit (h call hcall) kind
  rw [hafter, result]
  apply failsOnly_mapM
  intro e he
  obtain ⟨k, hk, rfl⟩ := List.mem_map.1 he
  have hrows : rowsFor kind calls k ≠ [] := mem_keys_items_iff.1 (Text.mem_distinct.1 hk)
  have hvalue := value_eq_worth hrows (fun _ => carries_of_mem_rowsFor) (hcells k)
  dsimp only
  rw [hvalue]
  exact (Aggregation.failsOnly_worth kind _).bind fun _ _ => failsOnly_ok _

theorem exists_result_of_fit_iff (h : ∀ call ∈ calls, Fit call.rows) :
    (∃ es, ((start kind : Merger κ).after calls).result = .ok es) ↔
      (kind = .avg → ∀ k, (Binary64.ofInt (records calls k)).isFinite = true) := by
  by_cases havg : kind = .avg
  · subst havg
    rw [exists_result_avg_iff fun call hcall => isRefused_of_fit (h call hcall) .avg]
    exact ⟨fun hfinite _ => hfinite, fun hfinite => hfinite rfl⟩
  · refine iff_of_true (exists_result_of_ne_avg ?_) fun hkind => absurd hkind havg
    rwa [kind_after_start]

theorem addBatches_eq_after (h : ∀ batch ∈ batches, Fit batch) :
    m.addBatches key batches = .ok (m.after (batches.map (Call.mk key))) := by
  induction batches generalizing m with
  | nil => rfl
  | cons batch rest ih =>
    obtain ⟨hbatch, hrest⟩ := List.forall_mem_cons.1 h
    obtain ⟨m', htake⟩ := exists_takeBatch (m := m) key
      (Call.isRefused_eq_false_iff.1
        (isRefused_of_fit (show Fit (Call.mk key batch).rows from hbatch) m.kind))
    have hafter :
        m.after ((batch :: rest).map (Call.mk key)) = m'.after (rest.map (Call.mk key)) := by
      rw [List.map_cons, after, List.foldl_cons, addBatch_eq_of_takeBatch htake]
      rfl
    rw [addBatches, List.foldlM_cons, htake, ok_bind, hafter]
    exact ih hrest

theorem mergeRows_eq_result (h : ∀ batch ∈ batches, Fit batch) :
    mergeRows kind key batches = ((start kind).after (batches.map (Call.mk key))).result := by
  rw [mergeRows, addBatches_eq_after h, ok_bind]

end Merger

open Merger

/-- Rows without a value make no difference to a merge other than a count, and the cells of a
merge are those of its rows with a value, or of all its rows if they are counted. Where the
counts of all rows have a number, no call fails, and there is a result unless the records of a
mean have none, so that nothing is divided by zero. -/
theorem null_rows_carry_nothing {κ : Type} [DecidableEq κ] :
    (∀ (kind : Aggregation) (key : PartialRow → κ) (batches batches' : List (List PartialRow)),
      kind ≠ .count →
        batches.flatten.filter (·.value.isSome) = batches'.flatten.filter (·.value.isSome) →
        mergeRows kind key batches = mergeRows kind key batches') ∧
    (∀ (kind : Aggregation) (key : PartialRow → κ) (batches : List (List PartialRow))
      (es : Entries κ Binary64), mergeRows kind key batches = .ok es → ∀ k,
        k ∈ es.map (·.1) ↔
          ∃ row ∈ batches.flatten, key row = k ∧ (row.value.isSome = true ∨ kind = .count)) ∧
    (∀ (kind : Aggregation) (calls : List (Call κ)), (∀ call ∈ calls, Fit call.rows) →
      (start kind).succeeded calls = calls ∧
      FailsOnly (· = .tooLarge) ((start kind).after calls).result ∧
      ((∃ es, ((start kind).after calls).result = .ok es) ↔
        (kind = .avg → ∀ k, (Binary64.ofInt (records calls k)).isFinite = true))) ∧
    ∀ (kind : Aggregation) (key : PartialRow → κ) (batches : List (List PartialRow)),
      (∀ batch ∈ batches, Fit batch) →
        mergeRows kind key batches =
          ((start kind).after (batches.map (Call.mk key))).result := by
  refine ⟨?_, ?_, ?_, ?_⟩
  · intro kind key batches batches' hkind h
    exact mergeRows_congr_of_valued hkind h
  · intro kind key batches es h k
    exact mem_keys_mergeRows_iff h
  · intro kind calls h
    exact ⟨succeeded_of_fit h _, failsOnly_result_of_fit h, exists_result_of_fit_iff h⟩
  · intro kind key batches h
    exact mergeRows_eq_result h

/-- Two prices that count for no records, with nulls before, between and behind them. -/
def nullDrawers : List (List PartialRow) :=
  [[⟨none, none, some "Drawer", none, 5⟩, ⟨none, none, some "Drawer", some 10, 0⟩],
    [⟨none, none, some "Hinge", none, 1⟩, ⟨none, none, some "Drawer", some 20, -3⟩]]

theorem null_rows_carry_nothing_drawers :
    let priced : List (List PartialRow) :=
      [[⟨none, none, some "Drawer", some 10, 0⟩, ⟨none, none, some "Drawer", some 20, -3⟩], []]
    let calls := nullDrawers.map (Call.mk PartialRow.labelKey)
    nullDrawers.flatten.filter (·.value.isSome) = priced.flatten.filter (·.value.isSome) ∧
      mergeRows .avg PartialRow.labelKey nullDrawers =
        mergeRows .avg PartialRow.labelKey priced ∧
      mergeRows .avg PartialRow.labelKey nullDrawers = .ok [("Drawer", 15)] ∧
      (∀ k, k ∈ ["Drawer"] ↔ ∃ row ∈ nullDrawers.flatten, row.labelKey = k ∧
        (row.value.isSome = true ∨ Aggregation.avg = .count)) ∧
      (∀ batch ∈ nullDrawers, Fit batch) ∧
      (∀ k, (Binary64.ofInt (records calls k)).isFinite = true) ∧
      ∃ es, ((start .avg).after calls).result = .ok es := by
  intro priced calls
  obtain ⟨hsame, hkeys, hcalls, -⟩ := null_rows_carry_nothing (κ := String)
  have hvalued :
      nullDrawers.flatten.filter (·.value.isSome) = priced.flatten.filter (·.value.isSome) :=
    rfl
  have hmean : mergeRows .avg PartialRow.labelKey nullDrawers = .ok [("Drawer", 15)] := by
    decide +kernel
  have hfit : ∀ batch ∈ nullDrawers, Fit batch := by
    simp only [Fit]
    decide +kernel
  have hcounts : ∀ item ∈ calls.flatMap (·.items .avg), max item.2.count 0 = 0 := by
    decide +kernel
  have hrecords (k : String) : records calls k = 0 := by
    apply List.sum_eq_zero
    intro n hn
    obtain ⟨row, hrow, rfl⟩ := List.mem_map.1 hn
    obtain ⟨item, hitem, rfl⟩ := List.mem_map.1 hrow
    exact hcounts item (List.mem_of_mem_filter hitem)
  have hfinite (k : String) : (Binary64.ofInt (records calls k)).isFinite = true := by
    rw [hrecords]
    exact Binary64.isFinite_ofInt (by decide)
  obtain ⟨-, -, hresult⟩ := hcalls .avg calls fun call hcall => by
    obtain ⟨batch, hbatch, rfl⟩ := List.mem_map.1 hcall
    exact hfit batch hbatch
  exact ⟨hvalued, hsame .avg _ _ _ (by decide) hvalued, hmean, hkeys .avg _ nullDrawers _ hmean,
    hfit, hfinite, hresult.2 fun _ => hfinite⟩

end PromptChart
