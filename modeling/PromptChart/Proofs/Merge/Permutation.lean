import Mathlib.Algebra.Order.BigOperators.Group.List
import PromptChart.Proofs.Arithmetic.Rational
import PromptChart.Proofs.Binary64.Rank
import PromptChart.Proofs.Merge.Integer
import PromptChart.Proofs.Merge.Keyed

namespace PromptChart

/-- Entries with the same keys, each of them once, in any order, and with values that are
alike. -/
structure Entries.Alike {κ α : Type} [DecidableEq κ] (r : α → α → Prop)
    (one other : Entries κ α) : Prop where
  nodup_one : (one.map (·.1)).Nodup
  nodup_other : (other.map (·.1)).Nodup
  get?_rel : ∀ k, Option.Rel r (one.get? k) (other.get? k)

/-- Batches that are both merged, into cells that are alike. -/
def MergeAlike {κ ν : Type} [DecidableEq κ] [Arithmetic ν] (r : ν → ν → Prop)
    (kind : Aggregation) (key : PartialRow ν → κ) (one other : List (List (PartialRow ν))) :
    Prop :=
  ∃ cells cells', mergeRows kind key one = .ok cells ∧ mergeRows kind key other = .ok cells' ∧
    cells.Alike r cells'

theorem mergeAlike_of_perm {κ ν : Type} [DecidableEq κ] [Arithmetic ν] {kind : Aggregation}
    {key : PartialRow ν → κ} {r : ν → ν → Prop} {one other : List (List (PartialRow ν))}
    (h : one.flatten.Perm other.flatten)
    (hvalue : ∀ rows rows', rows.Sublist one.flatten → rows.Perm rows' →
      ∃ v v', Merger.batchValue kind rows = .ok v ∧ Merger.batchValue kind rows' = .ok v' ∧
        Option.Rel r (v.map Arithmetic.roundCents) (v'.map Arithmetic.roundCents)) :
    MergeAlike r kind key one other := by
  choose v v' hv hv' hrel using fun k =>
    hvalue _ _ List.filter_sublist (h.filter fun row => decide (key row = k))
  obtain ⟨cells, hcells⟩ := Merger.exists_mergeRows_iff.2 fun k => ⟨v k, hv k⟩
  obtain ⟨cells', hcells'⟩ := Merger.exists_mergeRows_iff.2 fun k => ⟨v' k, hv' k⟩
  refine ⟨cells, cells', hcells, hcells', Merger.nodup_keys_mergeRows hcells,
    Merger.nodup_keys_mergeRows hcells', fun k => ?_⟩
  rw [Merger.get?_mergeRows hcells (hv k), Merger.get?_mergeRows hcells' (hv' k)]
  exact hrel k

section Exact

variable {kind : Aggregation} {rows rows' : List (PartialRow ℚ)}

namespace Cell

theorem addWeighted_rational (cell : Cell ℚ) (value : ℚ) (count : Int) :
    cell.addWeighted value count =
      .ok ⟨cell.total + value * (max count 0 : Int), cell.count + max count 0,
      cell.plainTotal + value, cell.plainCount + 1, true⟩ := by
  by_cases h : 0 < count
  · rw [addWeighted, if_pos h, Arithmetic.ofInt?_rational, ok_bind, pure_eq_ok,
      Int.max_eq_left (Int.le_of_lt h)]
  · rw [addWeighted, if_neg h, pure_eq_ok, Int.max_eq_right (Int.not_lt.1 h), Int.cast_zero,
      mul_zero, add_zero, Int.add_zero]

theorem addBy_addBy {op : ℚ → ℚ → ℚ} [hassoc : Std.Associative op] [hcomm : Std.Commutative op]
    (cell : Cell ℚ) (v w : ℚ) (m n : Int) :
    (cell.addBy op v m).addBy op w n = (cell.addBy op w n).addBy op v m := by
  cases hseen : cell.seen with
  | false =>
    simp only [addBy, hseen, Bool.false_eq_true, ↓reduceIte, hcomm.comm v w, Int.add_right_comm]
  | true =>
    have htotal : op (op cell.total v) w = op (op cell.total w) v := by
      rw [hassoc.assoc, hcomm.comm v w, hassoc.assoc]
    simp only [addBy, hseen, ↓reduceIte, htotal, Int.add_right_comm]

theorem add_add_rational (kind : Aggregation) (cell : Cell ℚ) (v w : ℚ) (m n : Int) :
    (cell.add kind v m >>= (·.add kind w n)) = cell.add kind w n >>= (·.add kind v m) := by
  cases kind with
  | avg =>
    simp only [add, addWeighted_rational, ok_bind, add_right_comm]
  | sum =>
    simp only [add, ok_bind, add_right_comm]
  | count =>
    simp only [add, ok_bind, Arithmetic.ofInt?_rational, pure_eq_ok, add_right_comm]
  | min =>
    simp only [add, ok_bind, Arithmetic.min_rational, addBy_addBy cell v w]
  | max =>
    simp only [add, ok_bind, Arithmetic.max_rational, addBy_addBy cell v w]

theorem addRows_perm (h : rows.Perm rows') (cell : Cell ℚ) :
    cell.addRows kind rows = cell.addRows kind rows' := by
  apply foldlM_perm h
  intro cell row row'
  exact add_add_rational kind cell _ _ row.count row'.count

theorem exists_add_rational (kind : Aggregation) (cell : Cell ℚ) (value : ℚ) (count : Int) :
    ∃ cell', cell.add kind value count = .ok cell' ∧
      (kind = .avg → cell'.plainCount = cell.plainCount + 1) := by
  cases kind with
  | avg => exact ⟨_, addWeighted_rational cell value count, fun _ => rfl⟩
  | _ => exact ⟨_, rfl, nofun⟩

theorem exists_addRows_rational (kind : Aggregation) (cell : Cell ℚ)
    (rows : List (PartialRow ℚ)) :
    ∃ cell', cell.addRows kind rows = .ok cell' ∧
      (kind = .avg → cell'.plainCount = cell.plainCount + rows.length) := by
  induction rows generalizing cell with
  | nil => exact ⟨cell, rfl, fun _ => rfl⟩
  | cons row rest ih =>
    obtain ⟨first, hfirst, hone⟩ :=
      exists_add_rational kind cell (row.value.getD (Arithmetic.ofInt 0)) row.count
    obtain ⟨cell', hcell', hrest⟩ := ih first
    refine ⟨cell', ?_, fun havg => ?_⟩
    · rw [addRows, List.foldlM_cons, hfirst, ok_bind]
      exact hcell'
    · rw [hrest havg, hone havg, List.length_cons, Nat.add_assoc, Nat.add_comm 1]

theorem exists_value_rational {cell : Cell ℚ} (h : kind = .avg → cell.plainCount ≠ 0) :
    ∃ v, cell.value kind = .ok v := by
  cases kind with
  | avg =>
    rw [value, Arithmetic.ofInt?_rational]
    by_cases hcount : 0 < cell.count
    · exact ⟨_, if_pos hcount⟩
    · rw [if_neg hcount, if_neg (h rfl)]
      exact ⟨_, rfl⟩
  | _ => exact ⟨_, rfl⟩

end Cell

namespace Merger

theorem batchValue_perm (h : rows.Perm rows') :
    batchValue kind rows = batchValue kind rows' := by
  have hcarried := h.filter (carries kind)
  have hnil : rows.filter (carries kind) = [] ↔ rows'.filter (carries kind) = [] :=
    ⟨fun hone => (hone ▸ hcarried).symm.eq_nil, fun hother => (hother ▸ hcarried).eq_nil⟩
  simp only [batchValue, batchCell_eq, hnil, Cell.addRows_perm hcarried]

theorem exists_batchValue_rational (kind : Aggregation) (rows : List (PartialRow ℚ)) :
    ∃ value?, batchValue kind rows = .ok value? := by
  rw [batchValue, batchCell_eq]
  by_cases hnil : rows.filter (carries kind) = []
  · rw [if_pos hnil]
    exact ⟨none, rfl⟩
  · obtain ⟨cell, hcell, hplain⟩ := Cell.empty.exists_addRows_rational kind
      (rows.filter (carries kind))
    obtain ⟨v, hv⟩ : ∃ v, cell.value kind = .ok v := by
      apply Cell.exists_value_rational
      intro havg hzero
      rw [hplain havg] at hzero
      exact hnil (List.length_eq_zero_iff.1 (Nat.eq_zero_of_add_eq_zero_left hzero))
    rw [if_neg hnil, hcell]
    exact ⟨some v, map_eq_ok.2 ⟨v, hv, rfl⟩⟩

end Merger

end Exact

theorem Merger.batchValue_count {rows : List PartialRow}
    (h : (rows.map (·.count.natAbs)).sum < 2 ^ 53) :
    batchValue .count rows =
      .ok ((combine Aggregation.count.join (rows.map (·.count))).map .ofInt) := by
  have hall : rows.filter (carries .count) = rows := by
    rw [List.filter_eq_self]
    intro row _
    exact Bool.or_true _
  apply batchValue_eq_ok (by decide)
  · rw [hall, List.forall₂_map_right_iff, List.forall₂_same]
    exact fun row _ => rfl
  · rwa [List.map_map]

section Extrema

variable {ν : Type} [Arithmetic ν] {kind : Aggregation}

namespace Cell

theorem add_extremum (hkind : kind = .min ∨ kind = .max) (cell : Cell ν) (value : ν)
    (count : Int) :
    cell.add kind value count = .ok (cell.addBy kind.op value count) := by
  obtain rfl | rfl := hkind <;> rfl

theorem Holds.addRows_extremum (hkind : kind = .min ∨ kind = .max) {cell : Cell ν} {total : ν}
    (h : cell.Holds total) (rows : List (PartialRow ν)) :
    ∃ cell', cell.addRows kind rows = .ok cell' ∧
      cell'.Holds ((rows.map fun row => row.value.getD (Arithmetic.ofInt 0)).foldl kind.op
        total) := by
  induction rows generalizing cell total with
  | nil => exact ⟨cell, rfl, h⟩
  | cons row rest ih =>
    obtain ⟨cell', hcell', hholds⟩ :=
      ih (h.addBy kind.op (row.value.getD (Arithmetic.ofInt 0)) row.count)
    refine ⟨cell', ?_, hholds⟩
    rw [Cell.addRows, List.foldlM_cons, add_extremum hkind, ok_bind]
    exact hcell'

end Cell

namespace Merger

theorem map_value_filter_carries (hkind : kind ≠ .count) (rows : List (PartialRow ν)) :
    (rows.filter (carries kind)).map (fun row => row.value.getD (Arithmetic.ofInt 0)) =
      rows.filterMap (·.value) := by
  induction rows with
  | nil => rfl
  | cons row rest ih =>
    cases hvalue : row.value with
    | none =>
      have hcarries : ¬carries kind row = true := by simp [carries, hvalue, hkind]
      rw [List.filter_cons_of_neg hcarries, ih, List.filterMap_cons_none hvalue]
    | some v =>
      have hcarries : carries kind row = true := by simp [carries, hvalue]
      rw [List.filter_cons_of_pos hcarries, List.map_cons, ih, List.filterMap_cons_some hvalue,
        hvalue, Option.getD_some]

theorem batchValue_extremum (hkind : kind = .min ∨ kind = .max) (rows : List (PartialRow ν)) :
    batchValue kind rows = .ok (combine kind.op (rows.filterMap (·.value))) := by
  have hcount : kind ≠ .count := by
    obtain rfl | rfl := hkind <;> decide
  rw [← map_value_filter_carries hcount, batchValue, batchCell]
  cases rows.filter (carries kind) with
  | nil => rfl
  | cons row rest =>
    obtain ⟨cell, hcell, hholds⟩ :=
      (Cell.holds_addBy_first kind.op (row.value.getD (Arithmetic.ofInt 0))
      row.count).addRows_extremum hkind rest
    have hvalue : cell.value kind = .ok cell.total := by
      obtain rfl | rfl := hkind <;> rfl
    have hrows : Cell.empty.addRows kind (row :: rest) = .ok cell := by
      rw [Cell.addRows, List.foldlM_cons, Cell.add_extremum hkind, ok_bind]
      exact hcell
    simp only [hrows, map_ok, ok_bind, hvalue, hholds.total_eq, List.map_cons, combine]

end Merger

variable {a b : Binary64} {m n : Int}

theorem Aggregation.rank_op (hkind : kind = .min ∨ kind = .max) (ha : a.rank = some m)
    (hb : b.rank = some n) :
    (kind.op a b).rank = some (kind.join m n) := by
  obtain rfl | rfl := hkind
  · rw [op_min, Arithmetic.min, Arithmetic.lt_binary64, Binary64.lt_of_rank hb ha, join]
    by_cases h : n < m
    · rw [if_pos (decide_eq_true h), hb, Int.min_eq_right (Int.le_of_lt h)]
    · rw [if_neg (by simpa using h), ha, Int.min_eq_left (Int.not_lt.1 h)]
  · rw [op_max, Arithmetic.max, Arithmetic.lt_binary64, Binary64.lt_of_rank ha hb, join]
    by_cases h : m < n
    · rw [if_pos (decide_eq_true h), hb, Int.max_eq_right (Int.le_of_lt h)]
    · rw [if_neg (by simpa using h), ha, Int.max_eq_left (Int.not_lt.1 h)]

theorem rank_combine (hkind : kind = .min ∨ kind = .max) {vs : List Binary64} {ns : List Int}
    (h : List.Forall₂ (fun v n => v.rank = some n) vs ns) :
    Option.Rel (fun v n => v.rank = some n) (combine kind.op vs) (combine kind.join ns) := by
  cases h with
  | nil => exact .none
  | @cons v n vs ns hv hvs =>
    apply Option.Rel.some
    induction hvs generalizing v n with
    | nil => exact hv
    | cons hw _ ih => exact ih (Aggregation.rank_op hkind hv hw)

theorem combine_places (hkind : kind = .min ∨ kind = .max) {rows : List PartialRow}
    (h : ∀ row ∈ rows, row.value ≠ some .nan) :
    Option.Rel (fun v n => v.rank = some n) (combine kind.op (rows.filterMap (·.value)))
      (combine kind.join ((rows.filterMap (·.value)).map fun v => v.rank.getD 0)) := by
  apply rank_combine hkind
  rw [List.forall₂_map_right_iff, List.forall₂_same]
  intro v hv
  obtain ⟨row, hrow, hvalue⟩ := List.mem_filterMap.1 hv
  obtain ⟨n, hn⟩ := Binary64.exists_rank fun hnan => h row hrow (hnan ▸ hvalue)
  rw [hn, Option.getD_some]

theorem Merger.batchValue_extremum_perm (hkind : kind = .min ∨ kind = .max)
    {rows rows' : List PartialRow} (h : rows.Perm rows')
    (hvalues : ∀ row ∈ rows, row.value ≠ some .nan) :
    ∃ v v', batchValue kind rows = .ok v ∧ batchValue kind rows' = .ok v' ∧
      Option.Rel (fun x y => x.eq y = true) (v.map Arithmetic.roundCents)
        (v'.map Arithmetic.roundCents) := by
  refine ⟨_, _, batchValue_extremum hkind rows, batchValue_extremum hkind rows', ?_⟩
  have hone := combine_places hkind hvalues
  have hother := combine_places hkind fun row hrow => hvalues row (h.mem_iff.2 hrow)
  rw [← combine_perm ((h.filterMap (·.value)).map fun v => v.rank.getD 0)] at hother
  generalize combine kind.op (rows.filterMap (·.value)) = v at hone ⊢
  generalize combine kind.op (rows'.filterMap (·.value)) = w at hother ⊢
  generalize combine kind.join ((rows.filterMap (·.value)).map fun v => v.rank.getD 0) =
    n at hone hother
  cases hone with
  | none =>
    cases hother with
    | none => exact .none
  | some hv =>
    cases hother with
    | some hw => exact .some (Binary64.roundCents_eq_of_rank hv hw)

end Extrema

/-- The same rows, in whatever order and however they are cut into batches, are merged into the
same cells: exactly so without rounding, and with binary64 numbers for counts that stay exact
and, up to the sign of zero, for minima and maxima without nan. -/
theorem merge_order_independent {κ : Type} [DecidableEq κ] :
    (∀ (kind : Aggregation) (key : PartialRow ℚ → κ) (one other : List (List (PartialRow ℚ))),
        one.flatten.Perm other.flatten → MergeAlike (· = ·) kind key one other) ∧
      ∀ (key : PartialRow → κ) (one other : List (List PartialRow)),
        one.flatten.Perm other.flatten →
          ((one.flatten.map (·.count.natAbs)).sum < 2 ^ 53 →
            MergeAlike (· = ·) .count key one other) ∧
          ((∀ row ∈ one.flatten, row.value ≠ some .nan) → ∀ kind, kind = .min ∨ kind = .max →
            MergeAlike (fun x y => x.eq y = true) kind key one other) := by
  have hrefl {α : Type} (v : Option α) : Option.Rel (· = ·) v v := by
    cases v with
    | none => exact .none
    | some v => exact .some rfl
  refine ⟨fun kind key one other h => ?_,
    fun key one other h => ⟨fun hcounts => ?_, fun hvalues kind hkind => ?_⟩⟩
  · apply mergeAlike_of_perm h
    intro rows rows' _ hperm
    obtain ⟨v, hv⟩ := Merger.exists_batchValue_rational kind rows
    exact ⟨v, v, hv, Merger.batchValue_perm hperm ▸ hv, hrefl _⟩
  · apply mergeAlike_of_perm h
    intro rows rows' hrows hperm
    have hle := (hrows.map fun row => row.count.natAbs).sum_le_sum fun _ _ => Nat.zero_le _
    have hsum :
        (rows'.map fun row => row.count.natAbs).sum =
          (rows.map fun row => row.count.natAbs).sum :=
      (hperm.map _).symm.sum_nat
    refine ⟨_, _, Merger.batchValue_count (Nat.lt_of_le_of_lt hle hcounts),
      Merger.batchValue_count (by rw [hsum]; exact Nat.lt_of_le_of_lt hle hcounts), ?_⟩
    rw [combine_perm (hperm.map (·.count))]
    exact hrefl _
  · apply mergeAlike_of_perm h
    intro rows rows' hrows hperm
    exact Merger.batchValue_extremum_perm hkind hperm
      fun row hrow => hvalues row (hrows.subset hrow)

def drawerRows (ν : Type) [Arithmetic ν] : List (PartialRow ν) :=
  [⟨none, none, some "Drawer", some (Arithmetic.ofInt 5), 2⟩,
    ⟨none, none, some "Hinge", none, 3⟩,
    ⟨none, none, some "Drawer", some (Arithmetic.ofInt 4), 0⟩]

theorem merge_order_independent_drawerRows :
    let cut (ν : Type) [Arithmetic ν] :=
      [(drawerRows ν).reverse.take 1, [], (drawerRows ν).reverse.drop 1]
    MergeAlike (· = ·) .avg PartialRow.labelKey [drawerRows ℚ] (cut ℚ) ∧
      MergeAlike (· = ·) .count PartialRow.labelKey [drawerRows Binary64] (cut Binary64) ∧
      MergeAlike (fun x y => x.eq y = true) .max PartialRow.labelKey [drawerRows Binary64]
        (cut Binary64) := by
  intro cut
  have hcut (ν : Type) [Arithmetic ν] : [drawerRows ν].flatten.Perm (cut ν).flatten :=
    (List.reverse_perm (drawerRows ν)).symm
  obtain ⟨hexact, hdoubles⟩ := merge_order_independent (κ := String)
  obtain ⟨hcount, hextrema⟩ := hdoubles PartialRow.labelKey _ _ (hcut Binary64)
  exact ⟨hexact .avg PartialRow.labelKey _ _ (hcut ℚ), hcount (by decide),
    hextrema (by decide +kernel) .max (.inr rfl)⟩

end PromptChart
