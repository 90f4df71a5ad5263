import PromptChart.Proofs.Execute.Failure
import PromptChart.Proofs.Merge.Permutation
import PromptChart.Proofs.Merge.Refused

namespace PromptChart

theorem Arithmetic.ofInt?_eq_binary64 (n : Int) : Arithmetic.ofInt? n = Binary64.ofInt? n := rfl

def Binary64.total (xs : List Binary64) : Binary64 := xs.foldl (· + ·) (.ofInt 0)

namespace PartialRow

def weighted? (row : PartialRow) : Option Binary64 :=
  if 0 < row.count then row.value.map (· * .ofInt row.count) else none

def weight (rows : List PartialRow) : Int :=
  ((rows.filter (·.value.isSome)).map fun row => max row.count 0).sum

theorem weight_nonneg (rows : List PartialRow) : 0 ≤ weight rows := by
  apply List.sum_nonneg
  intro n hn
  obtain ⟨row, -, rfl⟩ := List.mem_map.1 hn
  exact Int.le_max_right _ _

theorem weighted?_of_none {row : PartialRow} (h : row.value = none) : row.weighted? = none := by
  rw [weighted?, h, Option.map_none, ite_self]

end PartialRow

namespace Aggregation

open PartialRow (weight)

/-- The mean of values, each weighted by the records it counts for; the plain mean if there are
none. -/
def mean (rows : List PartialRow) : Except Failure Binary64 :=
  if 0 < weight rows then
    (Binary64.ofInt? (weight rows)).map (Binary64.total (rows.filterMap (·.weighted?)) / ·)
  else .ok (Binary64.total (rows.filterMap (·.value)) /
    .ofInt (rows.filterMap (·.value)).length)

def worth (kind : Aggregation) (rows : List PartialRow) : Except Failure Binary64 :=
  match kind with
  | .sum => .ok (Binary64.total (rows.filterMap (·.value)))
  | .count => .ok (Binary64.total (rows.map fun row => .ofInt row.count))
  | .avg => mean rows
  | .min | .max => .ok ((combine kind.op (rows.filterMap (·.value))).getD (.ofInt 0))

variable {kind : Aggregation} {rows rows' : List PartialRow}

theorem failsOnly_worth (kind : Aggregation) (rows : List PartialRow) :
    FailsOnly (· = .tooLarge) (kind.worth rows) := by
  cases kind with
  | avg =>
    rw [worth, mean]
    split
    · exact (Binary64.failsOnly_ofInt? _).map _
    · exact failsOnly_ok _
  | _ => exact failsOnly_ok _

theorem exists_worth_iff : (∃ v, kind.worth rows = .ok v) ↔
    (kind = .avg → (Binary64.ofInt (weight rows)).isFinite = true) := by
  cases kind with
  | avg =>
    rw [worth, mean]
    by_cases hpos : 0 < weight rows
    · rw [if_pos hpos]
      cases hfinite : (Binary64.ofInt (weight rows)).isFinite with
      | true =>
        rw [Binary64.ofInt?_of_isFinite hfinite]
        exact iff_of_true ⟨_, rfl⟩ fun _ => rfl
      | false =>
        rw [Binary64.ofInt?_of_not_isFinite hfinite]
        exact iff_of_false nofun fun h => nomatch h rfl
    · have hzero : weight rows = 0 := Int.le_antisymm (Int.not_lt.1 hpos)
        (PartialRow.weight_nonneg rows)
      rw [if_neg hpos, hzero]
      exact iff_of_true ⟨_, rfl⟩ fun _ => Binary64.isFinite_ofInt (by decide)
  | _ => exact iff_of_true ⟨_, rfl⟩ nofun

theorem filterMap_filter_carries (kind : Aggregation) {f : PartialRow → Option Binary64}
    (hf : ∀ row, row.value = none → f row = none) :
    (rows.filter (Merger.carries kind)).filterMap f = rows.filterMap f := by
  rw [List.filterMap_filter]
  apply List.filterMap_congr
  intro row _
  cases hvalue : row.value with
  | none => rw [hf row hvalue, ite_self]
  | some v => rw [if_pos (by simp [Merger.carries, hvalue])]

theorem filter_isSome_filter_carries (kind : Aggregation) (rows : List PartialRow) :
    (rows.filter (Merger.carries kind)).filter (·.value.isSome) =
      rows.filter (·.value.isSome) := by
  rw [List.filter_filter]
  apply List.filter_congr
  intro row _
  rw [Merger.carries]
  cases row.value.isSome with
  | true => rfl
  | false => rfl

theorem worth_filter_carries (kind : Aggregation) (rows : List PartialRow) :
    kind.worth (rows.filter (Merger.carries kind)) = kind.worth rows := by
  have hvalues : (rows.filter (Merger.carries kind)).filterMap (·.value) =
      rows.filterMap (·.value) :=
    filterMap_filter_carries kind fun _ h => h
  cases kind with
  | sum => rw [worth, worth, hvalues]
  | count =>
    have hall : rows.filter (Merger.carries .count) = rows :=
      List.filter_eq_self.2 fun row _ => by simp [Merger.carries]
    rw [hall]
  | avg =>
    have hweighted : (rows.filter (Merger.carries .avg)).filterMap (·.weighted?) =
        rows.filterMap (·.weighted?) :=
      filterMap_filter_carries .avg fun _ => PartialRow.weighted?_of_none
    rw [worth, worth, mean, mean, weight, filter_isSome_filter_carries, hvalues, hweighted,
      weight]
  | min => rw [worth, worth, hvalues]
  | max => rw [worth, worth, hvalues]

theorem worth_map {f : PartialRow → PartialRow} (hvalue : ∀ row, (f row).value = row.value)
    (hcount : ∀ row, (f row).count = row.count) (kind : Aggregation) (rows : List PartialRow) :
    kind.worth (rows.map f) = kind.worth rows := by
  have hvalues : (rows.map f).filterMap (·.value) = rows.filterMap (·.value) := by
    simp only [List.filterMap_map, Function.comp_def, hvalue]
  have hweighted : (rows.map f).filterMap (·.weighted?) = rows.filterMap (·.weighted?) := by
    simp only [List.filterMap_map, Function.comp_def, PartialRow.weighted?, hvalue, hcount]
  have hweight : weight (rows.map f) = weight rows := by
    simp only [weight, List.filter_map, List.map_map, Function.comp_def, hvalue, hcount]
  cases kind with
  | sum => rw [worth, worth, hvalues]
  | count => simp only [worth, List.map_map, Function.comp_def, hcount]
  | avg => rw [worth, worth, mean, mean, hvalues, hweighted, hweight]
  | min => rw [worth, worth, hvalues]
  | max => rw [worth, worth, hvalues]

end Aggregation

namespace Cell

theorem plainTotal_empty {ν : Type} [Arithmetic ν] :
    (Cell.empty : Cell ν).plainTotal = Arithmetic.ofInt 0 := rfl

variable {kind : Aggregation} {cell cell' : Cell} {rows : List PartialRow}

theorem exists_addRows_of_carries (hcarries : ∀ row ∈ rows, Merger.carries kind row = true)
    (h : ∀ row ∈ rows, row.isRefused kind = false) (cell : Cell) :
    ∃ cell', cell.addRows kind rows = .ok cell' := by
  induction rows generalizing cell with
  | nil => exact ⟨cell, rfl⟩
  | cons row rest ih =>
    obtain ⟨hrow, hrest⟩ := List.forall_mem_cons.1 h
    obtain ⟨hfirst, hlater⟩ := List.forall_mem_cons.1 hcarries
    obtain ⟨first, hadd⟩ := exists_add hfirst hrow cell
    obtain ⟨cell', hcell'⟩ := ih hlater hrest first
    rw [addRows, List.foldlM_cons, hadd]
    exact ⟨cell', hcell'⟩

theorem addRows_of_isRefused (hcarries : ∀ row ∈ rows, Merger.carries kind row = true)
    (h : ∃ row ∈ rows, row.isRefused kind = true) (cell : Cell) :
    cell.addRows kind rows = .error .tooLarge := by
  induction rows generalizing cell with
  | nil =>
    obtain ⟨row, hrow, -⟩ := h
    cases hrow
  | cons row rest ih =>
    obtain ⟨hfirst, hlater⟩ := List.forall_mem_cons.1 hcarries
    rw [addRows, List.foldlM_cons]
    cases hrefused : row.isRefused kind with
    | true =>
      rw [add_of_isRefused hrefused]
      rfl
    | false =>
      obtain ⟨first, hadd⟩ := exists_add hfirst hrefused cell
      rw [hadd]
      apply ih hlater
      obtain ⟨other, hother, hbad⟩ := h
      rcases List.mem_cons.1 hother with rfl | hrest
      · rw [hrefused] at hbad
        cases hbad
      · exact ⟨other, hrest, hbad⟩

theorem total_of_addRows_sum (h : cell.addRows .sum rows = .ok cell') :
    cell'.total = (rows.map fun row => row.value.getD (Arithmetic.ofInt 0)).foldl (· + ·)
      cell.total := by
  induction rows generalizing cell with
  | nil =>
    cases h
    rfl
  | cons row rest ih =>
    obtain ⟨first, hfirst, hrest⟩ := bind_eq_ok.1 h
    cases hfirst
    exact ih hrest

theorem total_of_add_count {value : Binary64} {count : Int}
    (h : cell.add .count value count = .ok cell') :
    cell'.total = cell.total + .ofInt count := by
  obtain ⟨x, hx, -⟩ := bind_eq_ok.1 h
  obtain ⟨added, hadded, hholds⟩ := holds_add_count hx cell value
  obtain rfl : added = cell' := Except.ok.inj (hadded.symm.trans h)
  rw [hholds.total_eq, Binary64.eq_ofInt_of_ofInt? hx]

theorem total_of_addRows_count (h : cell.addRows .count rows = .ok cell') :
    cell'.total = (rows.map fun row => Binary64.ofInt row.count).foldl (· + ·) cell.total := by
  induction rows generalizing cell with
  | nil =>
    cases h
    rfl
  | cons row rest ih =>
    rw [addRows, List.foldlM_cons] at h
    obtain ⟨first, hfirst, hrest⟩ := bind_eq_ok.1 h
    rw [ih hrest, total_of_add_count hfirst, List.map_cons, List.foldl_cons]

theorem totals_of_add_avg {value : Binary64} {row : PartialRow}
    (hvalue : row.value = some value) (h : cell.add .avg value row.count = .ok cell') :
    cell'.total = row.weighted?.toList.foldl (· + ·) cell.total ∧
      cell'.plainTotal = cell.plainTotal + value := by
  rw [add, addWeighted] at h
  rw [PartialRow.weighted?, hvalue]
  split at h
  next hpos =>
    obtain ⟨x, hx, hcell⟩ := bind_eq_ok.1 h
    obtain rfl := Binary64.eq_ofInt_of_ofInt? hx
    cases hcell
    rw [if_pos hpos]
    exact ⟨rfl, rfl⟩
  next hpos =>
    cases h
    rw [if_neg hpos]
    exact ⟨rfl, rfl⟩

theorem totals_of_addRows_avg (hvalues : ∀ row ∈ rows, row.value.isSome = true)
    (h : cell.addRows .avg rows = .ok cell') :
    cell'.total = (rows.filterMap (·.weighted?)).foldl (· + ·) cell.total ∧
      cell'.plainTotal = (rows.filterMap (·.value)).foldl (· + ·) cell.plainTotal := by
  induction rows generalizing cell with
  | nil =>
    cases h
    exact ⟨rfl, rfl⟩
  | cons row rest ih =>
    obtain ⟨hrow, hlater⟩ := List.forall_mem_cons.1 hvalues
    obtain ⟨value, hvalue⟩ := Option.isSome_iff_exists.1 hrow
    obtain ⟨first, hfirst, hrest⟩ := bind_eq_ok.1 h
    have hadd :
        cell.add .avg value row.count = .ok first := by
      simpa only [hvalue, Option.getD_some] using hfirst
    obtain ⟨htotal, hplain⟩ := totals_of_add_avg hvalue hadd
    obtain ⟨htotals, hplains⟩ := ih hlater hrest
    constructor
    · rw [htotals, htotal, ← List.foldl_append, List.filterMap_cons]
      cases row.weighted? <;> rfl
    · rw [hplains, hplain, List.filterMap_cons_some hvalue, List.foldl_cons]

end Cell

namespace Merger

variable {κ : Type} [DecidableEq κ] {kind : Aggregation} {rows rows' : List PartialRow}

theorem value_eq_worth {cell : Cell} (hne : rows ≠ [])
    (hcarries : ∀ row ∈ rows, carries kind row = true)
    (h : Cell.empty.addRows kind rows = .ok cell) : cell.value kind = kind.worth rows := by
  have hall : rows.filter (carries kind) = rows := List.filter_eq_self.2 hcarries
  -- No start value is neutral for a minimum or maximum, so these two are read off a whole
  -- batch.
  have hextremum (hkind : kind = .min ∨ kind = .max) :
      ∃ v, cell.value kind = .ok v ∧ combine kind.op (rows.filterMap (·.value)) = some v := by
    have hbatch := batchValue_extremum hkind rows
    rw [batchValue, batchCell_eq, hall, if_neg hne, h] at hbatch
    obtain ⟨v, hv, hsome⟩ := map_eq_ok.1 hbatch
    exact ⟨v, hv, hsome.symm⟩
  have hvalued (hkind : kind ≠ .count) :
      (rows.map fun row => row.value.getD (Arithmetic.ofInt 0)) = rows.filterMap (·.value) := by
    rw [← map_value_filter_carries hkind, hall]
  have hzero :
      (Cell.empty : Cell).total = .ofInt 0 := by
    rw [Cell.total_empty, Arithmetic.ofInt_binary64]
  cases kind with
  | avg =>
    have hvalues : ∀ row ∈ rows, row.value.isSome = true := by simpa [carries] using hcarries
    have hplainZero : (Cell.empty : Cell).plainTotal = .ofInt 0 := by
      rw [Cell.plainTotal_empty, Arithmetic.ofInt_binary64]
    obtain ⟨htotal, hplain⟩ := Cell.totals_of_addRows_avg hvalues h
    obtain ⟨hcount, hlength⟩ := Cell.counts_of_addRows_avg h
    have hweight : PartialRow.weight rows = cell.count := by
      rw [PartialRow.weight, List.filter_eq_self.2 hvalues, hcount]
      exact (Int.zero_add _).symm
    have hplains : (rows.filterMap (·.value)).length = cell.plainCount := by
      rw [← hvalued (by decide), List.length_map, hlength]
      exact (Nat.zero_add _).symm
    have hsome : cell.plainCount ≠ 0 := by
      rw [hlength]
      exact mt Nat.eq_zero_of_add_eq_zero_left (mt List.length_eq_zero_iff.1 hne)
    rw [Cell.value, Aggregation.worth, Aggregation.mean, hweight, hplains, if_neg hsome, htotal,
      hplain, hzero, hplainZero, Arithmetic.ofInt?_eq_binary64, Arithmetic.ofInt_binary64,
      Binary64.total, Binary64.total]
  | sum =>
    have hvalue : cell.value .sum = .ok cell.total := rfl
    rw [hvalue, Aggregation.worth, Cell.total_of_addRows_sum h, hvalued (by decide), hzero,
      Binary64.total]
  | count =>
    have hvalue : cell.value .count = .ok cell.total := rfl
    rw [hvalue, Aggregation.worth, Cell.total_of_addRows_count h, hzero, Binary64.total]
  | min =>
    obtain ⟨v, hv, hsome⟩ := hextremum (.inl rfl)
    rw [hv, Aggregation.worth, hsome, Option.getD_some]
  | max =>
    obtain ⟨v, hv, hsome⟩ := hextremum (.inr rfl)
    rw [hv, Aggregation.worth, hsome, Option.getD_some]

/-- A batch of which no row is refused comes to what its rows come to, if any of them carry
something. -/
theorem batchValue_eq_worth (h : ∀ row ∈ rows, row.isRefused kind = false) :
    batchValue kind rows =
      if rows.filter (carries kind) = [] then .ok none else some <$> kind.worth rows := by
  rw [batchValue, batchCell_eq]
  by_cases hnil : rows.filter (carries kind) = []
  · rw [if_pos hnil, if_pos hnil]
    rfl
  · have hcarries : ∀ row ∈ rows.filter (carries kind), carries kind row = true :=
      fun _ hrow => (List.mem_filter.1 hrow).2
    obtain ⟨cell, hcell⟩ := Cell.empty.exists_addRows_of_carries hcarries
      fun row hrow => h row (List.mem_of_mem_filter hrow)
    rw [if_neg hnil, if_neg hnil, hcell, map_ok, ok_bind]
    dsimp only
    rw [value_eq_worth hnil hcarries hcell, Aggregation.worth_filter_carries]

theorem batchValue_of_isRefused (h : ∃ row ∈ rows, row.isRefused kind = true) :
    batchValue kind rows = .error .tooLarge := by
  obtain ⟨row, hrow, hrefused⟩ := h
  have hmem : row ∈ rows.filter (carries kind) :=
    List.mem_filter.2 ⟨hrow, carries_of_isRefused hrefused⟩
  rw [batchValue, batchCell_eq, if_neg (List.ne_nil_of_mem hmem),
    Cell.empty.addRows_of_isRefused (fun _ hr => (List.mem_filter.1 hr).2)
      ⟨row, hmem, hrefused⟩]
  rfl

/-- Rows come to something unless one of them is refused, or they count for more records than
there are numbers. -/
theorem exists_batchValue_iff : (∃ value?, batchValue kind rows = .ok value?) ↔
    (∀ row ∈ rows, row.isRefused kind = false) ∧ ∃ v, kind.worth rows = .ok v := by
  by_cases hrefused : ∀ row ∈ rows, row.isRefused kind = false
  · rw [batchValue_eq_worth hrefused]
    by_cases hnil : rows.filter (carries kind) = []
    · rw [if_pos hnil, ← Aggregation.worth_filter_carries, hnil]
      refine iff_of_true ⟨none, rfl⟩ ⟨hrefused, Aggregation.exists_worth_iff.2 fun _ => ?_⟩
      exact Binary64.isFinite_ofInt (by decide)
    · rw [if_neg hnil, exists_map_eq_ok, and_iff_right hrefused]
  · have hsome : ∃ row ∈ rows, row.isRefused kind = true := by simpa using hrefused
    rw [batchValue_of_isRefused hsome]
    exact iff_of_false nofun fun h => hrefused h.1

/-- A merge comes out well unless a row is refused, or the records of a mean are more than there
are numbers. -/
theorem exists_mergeRows_iff_worth {key : PartialRow → κ} {batches : List (List PartialRow)} :
    (∃ es, mergeRows kind key batches = .ok es) ↔
      (∀ row ∈ batches.flatten, row.isRefused kind = false) ∧ (kind = .avg → ∀ k,
        (Binary64.ofInt (PartialRow.weight (batches.flatten.filter (key · = k)))).isFinite =
          true) := by
  simp only [exists_mergeRows_iff, exists_batchValue_iff, Aggregation.exists_worth_iff]
  constructor
  · intro h
    refine ⟨fun row hrow => ?_, fun havg k => (h k).2 havg⟩
    exact (h (key row)).1 row (List.mem_filter.2 ⟨hrow, decide_eq_true rfl⟩)
  · rintro ⟨hrefused, hweight⟩ k
    exact ⟨fun row hrow => hrefused row (List.mem_of_mem_filter hrow),
      fun havg => hweight havg k⟩

theorem get?_mergeRows_worth {key : PartialRow → κ} {batches : List (List PartialRow)}
    {es : Entries κ Binary64} (h : mergeRows kind key batches = .ok es) (k : κ) :
    ∃ value?, (if (batches.flatten.filter (key · = k)).filter (carries kind) = [] then .ok none
      else some <$> kind.worth (batches.flatten.filter (key · = k))) = .ok value? ∧
        es.get? k = value?.map Binary64.roundCents := by
  obtain ⟨value?, hvalue⟩ := exists_batchValue_of_mergeRows h k
  obtain ⟨hrefused, -⟩ := exists_batchValue_iff.1 ⟨value?, hvalue⟩
  refine ⟨value?, ?_, get?_mergeRows h hvalue⟩
  rw [← batchValue_eq_worth hrefused, hvalue]

theorem failsOnly_mergeRows_tooLarge (kind : Aggregation) (key : PartialRow → κ)
    (batches : List (List PartialRow)) :
    FailsOnly (· = .tooLarge) (mergeRows kind key batches) := by
  intro f h
  rw [mergeRows, addBatches_eq_takeBatch] at h
  cases hm : (start kind).takeBatch key batches.flatten with
  | error g =>
    rw [hm] at h
    cases h
    exact failsOnly_takeBatch _ _ _ _ hm
  | ok m =>
    rw [hm, ok_bind] at h
    obtain ⟨cells, hcells, rfl⟩ := takeBatch_start_eq_ok.1 hm
    refine failsOnly_mapM (p := (· = .tooLarge)) ?_ f h
    intro e he
    obtain ⟨k, hk, rfl⟩ := List.mem_map.1 he
    have hne := mt (filter_carries_eq_nil kind key batches.flatten k).1 (not_not_intro hk)
    have hvalue := value_eq_worth hne (fun _ hrow => (List.mem_filter.1 hrow).2) (hcells k)
    dsimp only
    rw [hvalue]
    exact (Aggregation.failsOnly_worth kind _).bind fun _ _ => failsOnly_ok _

end Merger

end PromptChart
