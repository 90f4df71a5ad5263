import Mathlib.Algebra.BigOperators.Ring.Finset
import Mathlib.Algebra.Order.BigOperators.Group.List
import PromptChart.Proofs.Arithmetic.Rational
import PromptChart.Proofs.Merge.Batch
import PromptChart.Proofs.Store.Groups

namespace PromptChart

namespace Cell

theorem addRows_avg (cell : Cell ℚ) {rows : List (PartialRow ℚ)} (h : ∀ r ∈ rows, 0 < r.count) :
    ∃ cell', cell.addRows .avg rows = .ok cell' ∧
      cell'.total = cell.total + (rows.map fun r => r.value.getD 0 * (r.count : ℚ)).sum ∧
      cell'.count = cell.count + (rows.map (·.count)).sum := by
  induction rows generalizing cell with
  | nil => exact ⟨cell, rfl, by simp, by simp⟩
  | cons row rest ih =>
    have hzero : (Arithmetic.ofInt 0 : ℚ) = 0 := Int.cast_zero
    obtain ⟨first, hfirst, htotal, hcount⟩ : ∃ first,
        cell.add .avg (row.value.getD (Arithmetic.ofInt 0)) row.count = .ok first ∧
          first.total = cell.total + row.value.getD 0 * (row.count : ℚ) ∧
          first.count = cell.count + row.count := by
      simp only [add, addWeighted, h row (.head rest), ↓reduceIte, Arithmetic.ofInt?_rational,
        ok_bind, pure_eq_ok, hzero]
      exact ⟨_, rfl, rfl, rfl⟩
    obtain ⟨cell', hcell', htotal', hcount'⟩ := ih first fun r hr => h r (.tail row hr)
    refine ⟨cell', ?_, ?_, ?_⟩
    · rw [addRows, List.foldlM_cons, hfirst, ok_bind]
      exact hcell'
    · rw [htotal', htotal, List.map_cons, List.sum_cons, add_assoc]
    · rw [hcount', hcount, List.map_cons, List.sum_cons, add_assoc]

end Cell

theorem Merger.batchValue_avg {batch rows : List (PartialRow ℚ)} (h : ∀ r ∈ batch, 0 < r.count)
    (hrows : batch.filter (carries .avg) = rows) :
    batchValue .avg batch = .ok (if rows = [] then none else
      some ((rows.map fun r => r.value.getD 0 * (r.count : ℚ)).sum /
        (rows.map fun r => (r.count : ℚ)).sum)) := by
  have hpos : ∀ r ∈ rows, 0 < r.count := by
    intro r hr
    rw [← hrows] at hr
    exact h r (List.mem_filter.1 hr).1
  rw [batchValue, batchCell, hrows]
  cases rows with
  | nil => rfl
  | cons row rest =>
    obtain ⟨cell, hcell, htotal, hcount⟩ := Cell.addRows_avg Cell.empty hpos
    have hsum : 0 < cell.count := by
      have hrest : 0 ≤ (rest.map (·.count)).sum :=
        List.sum_nonneg fun n hn => by
          obtain ⟨r, hr, rfl⟩ := List.mem_map.1 hn
          exact Int.le_of_lt (hpos r (.tail row hr))
      have hrow := hpos row (.head rest)
      have hempty : (Cell.empty : Cell ℚ).count = 0 := rfl
      rw [hcount, hempty, List.map_cons, List.sum_cons]
      omega
    have hzero : (Cell.empty : Cell ℚ).total = 0 := Int.cast_zero
    have hnone : (Cell.empty : Cell ℚ).count = 0 := rfl
    rw [if_neg (List.cons_ne_nil row rest)]
    simp only [hcell, map_ok, ok_bind, Cell.value, hsum, ↓reduceIte, Arithmetic.ofInt?_rational,
      Except.map, htotal, hzero, zero_add]
    rw [hcount, hnone, Int.zero_add, Int.cast_list_sum, List.map_map]
    rfl

namespace Memory

variable {metric : String} {gs : Entries (List String) (List Json)}
  {e : List String × List Json}

def mean (ns : List Int) : ℚ := (ns.sum : ℚ) / ns.length

def valued (metric : String) (gs : Entries (List String) (List Json)) :
    Entries (List String) (List Json) :=
  gs.filter fun e => integers metric e.2 ≠ []

def weightedMean (metric : String) (gs : Entries (List String) (List Json)) : ℚ :=
  ((valued metric gs).map fun e => mean (integers metric e.2) * e.2.length).sum /
    ((valued metric gs).map fun e => (e.2.length : ℚ)).sum

theorem total_ofInt (ns : List Int) : total (ns.map (Arithmetic.ofInt (ν := ℚ))) = ns.sum := by
  have hzero : (Arithmetic.ofInt 0 : ℚ) = 0 := Int.cast_zero
  rw [Int.cast_list_sum, List.sum_eq_foldl, total, hzero]
  rfl

theorem value_groupRow_avg : (groupRow .avg metric e : PartialRow ℚ).value =
    if integers metric e.2 = [] then none else some (mean (integers metric e.2)) := by
  have hreduce (records : Nat) (v : ℚ) (rest : List ℚ) : reduce .avg records (v :: rest) =
      some (total (v :: rest) / Arithmetic.ofInt (v :: rest).length) := rfl
  change reduce .avg e.2.length ((integers metric e.2).map Arithmetic.ofInt) = _
  cases h : integers metric e.2 with
  | nil => rfl
  | cons n rest =>
    rw [if_neg (List.cons_ne_nil n rest), mean, ← total_ofInt, List.map_cons, hreduce,
      List.length_cons, List.length_cons, List.length_map]
    simp only [Arithmetic.ofInt_rational, Int.cast_natCast]

theorem filter_carries_avg (gs : Entries (List String) (List Json)) :
    (gs.map (groupRow .avg metric)).filter (Merger.carries .avg) =
      (valued metric gs).map (groupRow (ν := ℚ) .avg metric) := by
  rw [List.filter_map, valued]
  congr 1
  apply List.filter_congr
  intro e _
  rw [Function.comp_apply, Merger.carries, value_groupRow_avg]
  by_cases h : integers metric e.2 = []
  · simp [h]
  · simp [h]

theorem valued_eq_nil_iff :
    valued metric gs = [] ↔ integers metric (gs.flatMap (·.2)) = [] := by
  rw [integers_flatMap, List.flatMap_eq_nil_iff, valued, List.filter_eq_nil_iff]
  simp only [ne_eq, decide_not, Bool.not_eq_eq_eq_not, Bool.not_true, decide_eq_false_iff_not,
    not_not]

theorem batchValue_groupRow_avg (hne : ∀ e ∈ gs, e.2 ≠ []) :
    Merger.batchValue .avg (gs.map (groupRow .avg metric)) =
      .ok (if integers metric (gs.flatMap (·.2)) = [] then none
        else some (weightedMean metric gs)) := by
  have hcount : ∀ r ∈ gs.map (groupRow (ν := ℚ) .avg metric), 0 < r.count := by
    intro r hr
    obtain ⟨e, he, rfl⟩ := List.mem_map.1 hr
    exact Int.natCast_pos.2 (List.length_pos_iff.2 (hne e he))
  have hvalues : ((valued metric gs).map (groupRow (ν := ℚ) .avg metric)).map
      (fun r => r.value.getD 0 * (r.count : ℚ)) =
        (valued metric gs).map fun e => mean (integers metric e.2) * (e.2.length : ℚ) := by
    rw [List.map_map]
    apply List.map_congr_left
    intro e he
    have hsome : integers metric e.2 ≠ [] := by simpa using (List.mem_filter.1 he).2
    rw [Function.comp_apply, value_groupRow_avg, if_neg hsome, Option.getD_some]
    rfl
  have hcounts :
      ((valued metric gs).map (groupRow (ν := ℚ) .avg metric)).map (fun r => (r.count : ℚ)) =
      (valued metric gs).map fun e => (e.2.length : ℚ) := by
    rw [List.map_map]
    rfl
  rw [Merger.batchValue_avg hcount (filter_carries_avg gs), hvalues, hcounts, weightedMean]
  simp only [List.map_eq_nil_iff, valued_eq_nil_iff]

theorem weightedMean_perm {one other : Entries (List String) (List Json)} (h : one.Perm other) :
    weightedMean metric one = weightedMean metric other := by
  have hvalued : (valued metric one).Perm (valued metric other) := h.filter _
  rw [weightedMean, weightedMean, (hvalued.map _).sum_eq, (hvalued.map _).sum_eq]

theorem sum_valued (f : List String × List Json → ℚ)
    (hf : ∀ e, integers metric e.2 = [] → f e = 0) (gs : Entries (List String) (List Json)) :
    ((valued metric gs).map f).sum = (gs.map f).sum := by
  induction gs with
  | nil => rfl
  | cons e rest ih =>
    rw [valued] at ih ⊢
    by_cases he : integers metric e.2 = []
    · rw [List.filter_cons_of_neg (by simp [he]), List.map_cons, List.sum_cons, ih, hf e he,
        zero_add]
    · rw [List.filter_cons_of_pos (by simp [he]), List.map_cons, List.map_cons, List.sum_cons,
        List.sum_cons, ih]

theorem sum_integers (gs : Entries (List String) (List Json)) :
    (gs.map fun e => ((integers metric e.2).sum : ℚ)).sum =
      (integers metric (gs.flatMap (·.2))).sum := by
  induction gs with
  | nil => rfl
  | cons e rest ih =>
    rw [List.map_cons, List.sum_cons, ih, List.flatMap_cons, integers_append, List.sum_append,
      Int.cast_add]

theorem length_integers (gs : Entries (List String) (List Json)) :
    (gs.map fun e => ((integers metric e.2).length : ℚ)).sum =
      (integers metric (gs.flatMap (·.2))).length := by
  induction gs with
  | nil => rfl
  | cons e rest ih =>
    rw [List.map_cons, List.sum_cons, ih, List.flatMap_cons, integers_append,
      List.length_append, Nat.cast_add]

theorem weightedMean_eq_mean
    (h : ∀ e ∈ gs, integers metric e.2 = [] ∨ (integers metric e.2).length = e.2.length) :
    weightedMean metric gs = mean (integers metric (gs.flatMap (·.2))) := by
  have hlength (e : List String × List Json) (he : e ∈ valued metric gs) :
      (integers metric e.2).length = e.2.length ∧ ((integers metric e.2).length : ℚ) ≠ 0 := by
    obtain ⟨hmem, hsome⟩ := List.mem_filter.1 he
    have hsome : integers metric e.2 ≠ [] := by simpa using hsome
    have hpos := List.length_pos_iff.2 hsome
    exact ⟨(h e hmem).resolve_left hsome, by exact_mod_cast Nat.ne_of_gt hpos⟩
  have hsums : (valued metric gs).map (fun e => mean (integers metric e.2) * (e.2.length : ℚ)) =
      (valued metric gs).map fun e => ((integers metric e.2).sum : ℚ) := by
    apply List.map_congr_left
    intro e he
    obtain ⟨heq, hne⟩ := hlength e he
    rw [mean, ← heq, div_mul_cancel₀ _ hne]
  have hlengths : (valued metric gs).map (fun e => (e.2.length : ℚ)) =
      (valued metric gs).map fun e => ((integers metric e.2).length : ℚ) := by
    apply List.map_congr_left
    intro e he
    rw [(hlength e he).1]
  rw [weightedMean, hsums, hlengths, sum_valued _ (by intro e he; rw [he]; rfl),
    sum_valued _ (by intro e he; rw [he]; rfl), sum_integers, length_integers, mean]

end Memory

end PromptChart
