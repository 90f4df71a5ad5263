import Mathlib.Data.List.Flatten
import PromptChart.Proofs.Binary64.Rank
import PromptChart.Proofs.Merge.Formula

namespace PromptChart

namespace Aggregation

variable {kind : Aggregation}

def cents (kind : Aggregation) (rows : List PartialRow) : Except Failure Binary64 :=
  Binary64.roundCents <$> kind.worth rows

theorem isSelective_op (hkind : kind = .min ∨ kind = .max) :
    IsSelective (kind.op : Binary64 → Binary64 → Binary64) := by
  rcases hkind with rfl | rfl
  · exact isSelective_of_before Binary64.lt Binary64.not_lt_self
      fun _ _ _ => Binary64.lt_of_lt_of_lt
  · exact isSelective_of_before (fun b a => Binary64.lt a b) Binary64.not_lt_self
      fun _ _ _ hba hcb => Binary64.lt_of_lt_of_lt hcb hba

end Aggregation

namespace Merger

section Keys

variable {κ ν : Type} [DecidableEq κ] [Arithmetic ν] {kind : Aggregation}
  {key : PartialRow ν → κ} {batches batches' : List (List (PartialRow ν))}
  {es es' : Entries κ ν}

theorem mergeRows_ext (hkeys : keys kind key batches.flatten = keys kind key batches'.flatten)
    (h : mergeRows kind key batches = .ok es) (h' : mergeRows kind key batches' = .ok es')
    (hget : ∀ k, es.get? k = es'.get? k) : es = es' := by
  choose values hvalues using fun k => exists_batchValue_of_mergeRows h k
  choose values' hvalues' using fun k => exists_batchValue_of_mergeRows h' k
  rw [mergeRows_eq_ok hvalues] at h
  rw [mergeRows_eq_ok hvalues'] at h'
  obtain rfl := Except.ok.inj h
  obtain rfl := Except.ok.inj h'
  rw [hkeys]
  apply List.filterMap_congr
  intro k hk
  have hvalue := hget k
  rw [Entries.get?_ofOptions, Entries.get?_ofOptions, hkeys, if_pos hk, if_pos hk] at hvalue
  exact congrArg (Option.map (k, ·)) hvalue

def reported (kind : Aggregation) (rows : List (PartialRow ν)) : Except Failure (Option ν) :=
  Option.map Arithmetic.roundCents <$> batchValue kind rows

/-- Merges with the same keys are the same exactly if the same is reported for each of them. -/
theorem mergeRows_eq_ok_iff
    (hkeys : keys kind key batches.flatten = keys kind key batches'.flatten)
    (h' : mergeRows kind key batches' = .ok es') :
    mergeRows kind key batches = .ok es' ↔
      ∀ k, reported kind (batches.flatten.filter (key · = k)) =
      reported kind (batches'.flatten.filter (key · = k)) := by
  choose values' hvalues' using fun k => exists_batchValue_of_mergeRows h' k
  constructor
  · intro h k
    obtain ⟨value?, hvalue⟩ := exists_batchValue_of_mergeRows h k
    rw [reported, reported, hvalue, hvalues' k, map_ok, map_ok, ← get?_mergeRows h hvalue,
      ← get?_mergeRows h' (hvalues' k)]
  · intro hsame
    have hvalues :
        ∀ k, ∃ value?, batchValue kind (batches.flatten.filter (key · = k)) = .ok value? ∧
        value?.map Arithmetic.roundCents = (values' k).map Arithmetic.roundCents := by
      intro k
      have hk := hsame k
      rw [reported, reported, hvalues' k, map_ok] at hk
      exact map_eq_ok.1 hk
    choose values hvalues hcents using hvalues
    have h := mergeRows_eq_ok hvalues
    rw [h]
    congr 1
    apply mergeRows_ext hkeys h h'
    intro k
    rw [get?_mergeRows h (hvalues k), get?_mergeRows h' (hvalues' k), hcents]

end Keys

section Rows

variable {kind : Aggregation} {rows rows' : List PartialRow}

/-- If the same rows are there, however often, the same is reported for them exactly if they
come to the same. -/
theorem reported_eq_iff (hmem : ∀ row, row ∈ rows ↔ row ∈ rows')
    (h : ∃ value?, batchValue kind rows' = .ok value?) :
    reported kind rows = reported kind rows' ↔ kind.cents rows = kind.cents rows' := by
  obtain ⟨hrefused, -⟩ := exists_batchValue_iff.1 h
  have hnil : rows.filter (carries kind) = [] ↔ rows'.filter (carries kind) = [] := by
    simp only [List.filter_eq_nil_iff, hmem]
  rw [reported, reported, batchValue_eq_worth fun row hrow => hrefused row ((hmem row).1 hrow),
    batchValue_eq_worth hrefused]
  by_cases hrows : rows'.filter (carries kind) = []
  · have hworth : kind.worth rows = kind.worth rows' := by
      rw [← Aggregation.worth_filter_carries, ← Aggregation.worth_filter_carries kind rows',
        hnil.2 hrows, hrows]
    rw [if_pos hrows, if_pos (hnil.2 hrows), Aggregation.cents, Aggregation.cents, hworth]
    exact iff_of_true rfl rfl
  · have hsome (x : Except Failure Binary64) :
        Option.map Arithmetic.roundCents <$> (some <$> x) =
          some <$> (Binary64.roundCents <$> x) := by
      cases x <;> rfl
    rw [if_neg hrows, if_neg (mt hnil.1 hrows), hsome, hsome]
    exact ⟨fun h => eq_of_map_eq h fun _ _ _ _ => Option.some.inj, congrArg _⟩

theorem exists_batchValue_of_sublist (hmem : ∀ row, row ∈ rows ↔ row ∈ rows')
    (hsublist : rows'.Sublist rows) (h : ∃ value?, batchValue kind rows = .ok value?) :
    ∃ value?, batchValue kind rows' = .ok value? := by
  obtain ⟨hrefused, hworth⟩ := exists_batchValue_iff.1 h
  refine exists_batchValue_iff.2 ⟨fun row hrow => hrefused row ((hmem row).2 hrow), ?_⟩
  rw [Aggregation.exists_worth_iff] at hworth ⊢
  intro havg
  have hle : PartialRow.weight rows' ≤ PartialRow.weight rows := by
    apply List.Sublist.sum_le_sum ((hsublist.filter _).map _)
    intro n hn
    obtain ⟨row, -, rfl⟩ := List.mem_map.1 hn
    exact Int.le_max_right _ _
  obtain ⟨m, hm⟩ := Int.eq_ofNat_of_zero_le (PartialRow.weight_nonneg rows')
  obtain ⟨n, hn⟩ := Int.eq_ofNat_of_zero_le (PartialRow.weight_nonneg rows)
  have hfinite := hworth havg
  rw [hm, hn] at hle
  rw [hn] at hfinite
  rw [hm]
  exact Binary64.isFinite_ofInt_of_le (Int.ofNat_le.1 hle) hfinite

end Rows

section Terms

variable {κ ν : Type} [DecidableEq κ] {key : PartialRow ν → κ}
  {rows : String → List (PartialRow ν)} {terms : List String} {k : κ}

/-- The rows of a key among those of terms, where they come as often as their terms. -/
def rowsAt (key : PartialRow ν → κ) (rows : String → List (PartialRow ν))
    (terms : List String) (k : κ) : List (PartialRow ν) :=
  (terms.flatMap rows).filter (key · = k)

theorem rowsAt_eq_flatMap (key : PartialRow ν → κ) (rows : String → List (PartialRow ν))
    (terms : List String) (k : κ) :
    rowsAt key rows terms k = terms.flatMap fun term => (rows term).filter (key · = k) := by
  rw [rowsAt, List.filter_flatMap]

theorem mem_rowsAt_distinct (row : PartialRow ν) :
    row ∈ rowsAt key rows terms k ↔ row ∈ rowsAt key rows (Text.distinct terms) k := by
  simp only [rowsAt_eq_flatMap, List.mem_flatMap, Text.mem_distinct]

theorem rowsAt_distinct_sublist :
    (rowsAt key rows (Text.distinct terms) k).Sublist (rowsAt key rows terms k) := by
  apply List.Sublist.filter
  exact (Text.distinct_sublist terms).flatMap _

theorem rowsAt_of_named {key : PartialRow ν → String} {rows : String → List (PartialRow ν)}
    (hkey : ∀ term, ∀ row ∈ rows term, key row = term) (terms : List String) (term : String) :
    rowsAt key rows terms term = (List.replicate (terms.count term) (rows term)).flatten := by
  rw [rowsAt_eq_flatMap]
  induction terms with
  | nil => rfl
  | cons t rest ih =>
    rw [List.flatMap_cons, ih]
    by_cases ht : t = term
    · subst ht
      rw [List.count_cons_self, List.replicate_succ, List.flatten_cons, List.filter_eq_self.2]
      exact fun row hrow => decide_eq_true (hkey t row hrow)
    · rw [List.count_cons_of_ne ht, List.filter_eq_nil_iff.2, List.nil_append]
      intro row hrow hsame
      exact ht ((hkey t row hrow).symm.trans (of_decide_eq_true hsame))

theorem flatten_map_rows (rows : String → List (PartialRow ν)) (terms : List String) :
    (terms.map rows).flatten = terms.flatMap rows := List.flatMap_def.symm

theorem keys_flatten_distinct (kind : Aggregation) (key : PartialRow ν → κ)
    (rows : String → List (PartialRow ν)) (terms : List String) :
    keys kind key (terms.map rows).flatten =
      keys kind key ((Text.distinct terms).map rows).flatten := by
  simp only [keys, flatten_map_rows, List.filter_flatMap, List.map_flatMap]
  exact (Text.distinct_flatMap_distinct _ terms).symm

end Terms

section Repeats

variable {κ : Type} [DecidableEq κ] {kind : Aggregation} {key : PartialRow → κ}
  {rows : String → List PartialRow} {terms : List String} {k : κ}

theorem cents_rowsAt_distinct (hkind : kind = .min ∨ kind = .max) :
    kind.cents (rowsAt key rows terms k) =
      kind.cents (rowsAt key rows (Text.distinct terms) k) := by
  have hcombine : combine kind.op ((rowsAt key rows terms k).filterMap (·.value)) =
      combine kind.op ((rowsAt key rows (Text.distinct terms) k).filterMap (·.value)) := by
    simp only [rowsAt_eq_flatMap, List.filterMap_flatMap]
    exact ((Aggregation.isSelective_op hkind).combine_flatMap_distinct _ terms).symm
  rcases hkind with rfl | rfl
  · rw [Aggregation.cents, Aggregation.cents, Aggregation.worth, Aggregation.worth, hcombine]
  · rw [Aggregation.cents, Aggregation.cents, Aggregation.worth, Aggregation.worth, hcombine]

/-- With terms that come more than once, a merge fails exactly if it does with each of them
once, and is the same exactly if the rows of every key come to the same. -/
theorem mergeRows_distinct_iff_cents :
    mergeRows kind key (terms.map rows) = mergeRows kind key ((Text.distinct terms).map rows) ↔
      (∃ f, mergeRows kind key ((Text.distinct terms).map rows) = .error f) ∨
        ∀ k, kind.cents (rowsAt key rows terms k) =
          kind.cents (rowsAt key rows (Text.distinct terms) k) := by
  cases honce : mergeRows kind key ((Text.distinct terms).map rows) with
  | ok es =>
    have hsome := exists_batchValue_of_mergeRows honce
    rw [mergeRows_eq_ok_iff (keys_flatten_distinct kind key rows terms) honce,
      or_iff_right (by rintro ⟨f, ⟨⟩⟩)]
    simp only [flatten_map_rows] at hsome ⊢
    exact forall_congr' fun k => reported_eq_iff mem_rowsAt_distinct (hsome k)
  | error f =>
    -- More rows fail as well, and there is only one way to fail.
    refine iff_of_true ?_ (.inl ⟨f, rfl⟩)
    cases hmany : mergeRows kind key (terms.map rows) with
    | ok es =>
      have hsome := exists_batchValue_of_mergeRows hmany
      rw [flatten_map_rows] at hsome
      obtain ⟨es', hes'⟩ : ∃ es',
        mergeRows kind key ((Text.distinct terms).map rows) = .ok es' := by
        rw [exists_mergeRows_iff, flatten_map_rows]
        exact fun k => exists_batchValue_of_sublist mem_rowsAt_distinct
          rowsAt_distinct_sublist (hsome k)
      cases honce.symm.trans hes'
    | error f' =>
      obtain rfl := failsOnly_mergeRows_tooLarge _ _ _ _ hmany
      obtain rfl := failsOnly_mergeRows_tooLarge _ _ _ _ honce
      rfl

theorem mergeRows_distinct_iff :
    mergeRows kind key (terms.map rows) = mergeRows kind key ((Text.distinct terms).map rows) ↔
      kind = .min ∨ kind = .max ∨
        (∃ f, mergeRows kind key ((Text.distinct terms).map rows) = .error f) ∨
        ∀ k, kind.cents (rowsAt key rows terms k) =
          kind.cents (rowsAt key rows (Text.distinct terms) k) := by
  rw [mergeRows_distinct_iff_cents]
  constructor
  · intro h
    exact .inr (.inr h)
  · rintro (hmin | hmax | h)
    · exact .inr fun _ => cents_rowsAt_distinct (.inl hmin)
    · exact .inr fun _ => cents_rowsAt_distinct (.inr hmax)
    · exact h

end Repeats

section Exact

variable {rows : List (PartialRow ℚ)} {n : Nat}

def averaged (rows : List (PartialRow ℚ)) : Cell ℚ where
  total := (rows.map fun row => row.value.getD 0 * ((max row.count 0 : Int) : ℚ)).sum
  count := (rows.map fun row => max row.count 0).sum
  plainTotal := (rows.map fun row => row.value.getD 0).sum
  plainCount := rows.length
  seen := !rows.isEmpty

theorem addRows_averaged (rows : List (PartialRow ℚ)) :
    Cell.empty.addRows .avg rows = .ok (averaged rows) := by
  induction rows using List.reverseRecOn with
  | nil => rfl
  | append_singleton rows row ih =>
    rw [Cell.addRows] at ih ⊢
    rw [foldlM_concat, ih, ok_bind, Cell.add, Cell.addWeighted_rational]
    simp [averaged, Arithmetic.ofInt_rational]

theorem sum_map_replicate {α β : Type} [Semiring β] (n : Nat) (items : List α) (f : α → β) :
    ((List.replicate n items).flatten.map f).sum = n * (items.map f).sum := by
  rw [List.map_flatten, List.map_replicate, List.sum_flatten, List.map_replicate,
    List.sum_replicate, nsmul_eq_mul]

theorem value_averaged_replicate (hn : 0 < n) (rows : List (PartialRow ℚ)) :
    (averaged (List.replicate n rows).flatten).value .avg = (averaged rows).value .avg := by
  have hne : (n : ℚ) ≠ 0 := Nat.cast_ne_zero.2 hn.ne'
  have hlength : (List.replicate n rows).flatten.length = n * rows.length := by simp
  have hpos (m : Int) : 0 < (n : Int) * m ↔ 0 < m :=
    mul_pos_iff_of_pos_left (Int.natCast_pos.2 hn)
  have hzero : n * rows.length = 0 ↔ rows.length = 0 := by simp [hn.ne']
  simp only [Cell.value, averaged, sum_map_replicate, hlength, hpos, hzero,
    Arithmetic.ofInt?_rational, Arithmetic.ofInt_rational, Except.map, Int.cast_mul,
    Int.cast_natCast, Nat.cast_mul, mul_div_mul_left _ _ hne]

theorem batchValue_avg_replicate (hn : 0 < n) (rows : List (PartialRow ℚ)) :
    batchValue .avg (List.replicate n rows).flatten = batchValue .avg rows := by
  have hfilter : (List.replicate n rows).flatten.filter (carries .avg) =
      (List.replicate n (rows.filter (carries .avg))).flatten := by
    rw [List.filter_flatten, List.map_replicate]
  have hnil : (List.replicate n (rows.filter (carries .avg))).flatten = [] ↔
      rows.filter (carries .avg) = [] := by
    simp [hn.ne']
  simp only [batchValue, batchCell_eq, hfilter, hnil, addRows_averaged]
  split
  · rfl
  · simp only [map_ok, ok_bind, value_averaged_replicate hn]

end Exact

end Merger

end PromptChart
