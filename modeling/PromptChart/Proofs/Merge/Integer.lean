import PromptChart.Proofs.Binary64.Integer
import PromptChart.Proofs.Merge.Batch
import PromptChart.Proofs.Merge.Combine

namespace PromptChart

namespace Aggregation

def join : Aggregation → Int → Int → Int
  | .sum | .avg | .count => (· + ·)
  | .min => Min.min
  | .max => Max.max

instance (kind : Aggregation) : Std.Associative kind.join where
  assoc a b c := by
    cases kind <;> simp only [join] <;> omega

instance (kind : Aggregation) : Std.Commutative kind.join where
  comm a b := by
    cases kind <;> simp only [join] <;> omega

theorem natAbs_join_le (kind : Aggregation) (a b : Int) :
    (kind.join a b).natAbs ≤ a.natAbs + b.natAbs := by
  cases kind <;> simp only [join] <;> omega

end Aggregation

/-- A row that adds an integer to a merge. -/
def PartialRow.Adds (kind : Aggregation) (row : PartialRow) (n : Int) : Prop :=
  match kind with
  | .count => row.count = n
  | .avg => False
  | .sum | .min | .max => row.value = some (.ofInt n)

namespace Arithmetic

variable {m n : Int}

theorem ofInt_binary64 (n : Int) : (Arithmetic.ofInt n : Binary64) = .ofInt n := rfl

theorem ofInt?_binary64 (h : n.natAbs < 2 ^ 53) :
    Arithmetic.ofInt? n = .ok (Binary64.ofInt n) := by
  rw [← Binary64.ofInt?_eq_ok h]
  rfl

theorem read_int (h : n.natAbs < 2 ^ 53) :
    Arithmetic.read (.int n) = .ok (Arithmetic.ofInt n : Binary64) := by
  rw [ofInt_binary64, ← Binary64.ofInt?_eq_ok h]
  rfl

theorem lt_binary64 (a b : Binary64) : Arithmetic.lt a b = a.lt b := rfl

theorem roundCents_binary64 : (Arithmetic.roundCents : Binary64 → Binary64) = .roundCents := rfl

theorem min_ofInt (hm : m.natAbs < 2 ^ 53) (hn : n.natAbs < 2 ^ 53) :
    Arithmetic.min (Binary64.ofInt m) (.ofInt n) = .ofInt (Min.min m n) := by
  rw [Arithmetic.min, lt_binary64, Binary64.lt_ofInt hn hm]
  by_cases h : n < m
  · rw [if_pos (decide_eq_true h), Int.min_eq_right (Int.le_of_lt h)]
  · rw [if_neg (by simpa using h), Int.min_eq_left (Int.not_lt.1 h)]

theorem max_ofInt (hm : m.natAbs < 2 ^ 53) (hn : n.natAbs < 2 ^ 53) :
    Arithmetic.max (Binary64.ofInt m) (.ofInt n) = .ofInt (Max.max m n) := by
  rw [Arithmetic.max, lt_binary64, Binary64.lt_ofInt hm hn]
  by_cases h : m < n
  · rw [if_pos (decide_eq_true h), Int.max_eq_right (Int.le_of_lt h)]
  · rw [if_neg (by simpa using h), Int.max_eq_left (Int.not_lt.1 h)]

end Arithmetic

namespace Aggregation

variable {kind : Aggregation} {m n : Int} {ns : List Int}

def op {ν : Type} [Arithmetic ν] : Aggregation → ν → ν → ν
  | .sum | .avg | .count => (· + ·)
  | .min => Arithmetic.min
  | .max => Arithmetic.max

section

variable {ν : Type} [Arithmetic ν] (a b : ν)

theorem op_sum : sum.op a b = a + b := rfl

theorem op_avg : avg.op a b = a + b := rfl

theorem op_count : count.op a b = a + b := rfl

theorem op_min : min.op a b = Arithmetic.min a b := rfl

theorem op_max : max.op a b = Arithmetic.max a b := rfl

end

theorem op_ofInt (hm : m.natAbs < 2 ^ 53) (hn : n.natAbs < 2 ^ 53) :
    kind.op (Binary64.ofInt m) (.ofInt n) = .ofInt (kind.join m n) := by
  cases kind with
  | sum => rw [op_sum, Binary64.ofInt_add hm hn, join]
  | avg => rw [op_avg, Binary64.ofInt_add hm hn, join]
  | count => rw [op_count, Binary64.ofInt_add hm hn, join]
  | min => rw [op_min, Arithmetic.min_ofInt hm hn, join]
  | max => rw [op_max, Arithmetic.max_ofInt hm hn, join]

theorem foldl_op_ofInt (h : m.natAbs + (ns.map Int.natAbs).sum < 2 ^ 53) :
    (ns.map Binary64.ofInt).foldl kind.op (.ofInt m) = .ofInt (ns.foldl kind.join m) := by
  induction ns generalizing m with
  | nil => rw [List.map_nil, List.foldl_nil, List.foldl_nil]
  | cons n rest ih =>
    rw [List.map_cons, List.sum_cons] at h
    have hjoin := kind.natAbs_join_le m n
    rw [List.map_cons, List.foldl_cons, List.foldl_cons, op_ofInt (by omega) (by omega),
      ih (by omega)]

end Aggregation

namespace Cell

section

variable {ν : Type} [Arithmetic ν]

/-- A cell that has come to a total. -/
structure Holds (cell : Cell ν) (total : ν) : Prop where
  seen : cell.seen = true
  total_eq : cell.total = total

theorem total_empty : (Cell.empty : Cell ν).total = Arithmetic.ofInt 0 := rfl

theorem holds_add_sum (cell : Cell ν) (value : ν) (count : Int) :
    ∃ cell' : Cell ν, cell.add .sum value count = .ok cell' ∧
      cell'.Holds (cell.total + value) :=
  ⟨_, rfl, rfl, rfl⟩

theorem holds_add_count {count : Int} {x : ν} (h : Arithmetic.ofInt? count = .ok x)
    (cell : Cell ν) (value : ν) :
    ∃ cell' : Cell ν, cell.add .count value count = .ok cell' ∧
      cell'.Holds (cell.total + x) := by
  rw [add, h]
  exact ⟨_, rfl, rfl, rfl⟩

theorem holds_addBy_first (op : ν → ν → ν) (value : ν) (count : Int) :
    (Cell.empty.addBy op value count).Holds value :=
  ⟨rfl, rfl⟩

omit [Arithmetic ν] in
theorem Holds.addBy {cell : Cell ν} {total : ν} (h : cell.Holds total) (op : ν → ν → ν)
    (value : ν) (count : Int) : (cell.addBy op value count).Holds (op total value) := by
  refine ⟨rfl, ?_⟩
  rw [Cell.addBy, h.seen, if_pos rfl, h.total_eq]

end

variable {kind : Aggregation} {cell : Cell} {row : PartialRow} {rows : List PartialRow}
  {m n : Int} {ns : List Int}

theorem holds_add_first (h : row.Adds kind n) (hn : n.natAbs < 2 ^ 53) :
    ∃ cell : Cell,
      Cell.empty.add kind (row.value.getD (Arithmetic.ofInt 0)) row.count = .ok cell ∧
      cell.Holds (.ofInt n) := by
  have hzero : (Cell.empty : Cell).total + Binary64.ofInt n = .ofInt n := by
    rw [total_empty, Arithmetic.ofInt_binary64, Binary64.ofInt_add (by decide) hn, Int.zero_add]
  cases kind with
  | avg => cases h
  | count =>
    obtain rfl : row.count = n := h
    have hcount := holds_add_count (Arithmetic.ofInt?_binary64 hn) Cell.empty
      (row.value.getD (Arithmetic.ofInt 0))
    rwa [hzero] at hcount
  | sum =>
    have hsum := holds_add_sum Cell.empty (Binary64.ofInt n) row.count
    rw [hzero] at hsum
    rwa [h, Option.getD_some]
  | min =>
    rw [h, Option.getD_some]
    exact ⟨_, rfl, holds_addBy_first _ _ _⟩
  | max =>
    rw [h, Option.getD_some]
    exact ⟨_, rfl, holds_addBy_first _ _ _⟩

theorem Holds.add (hc : cell.Holds (.ofInt m)) (h : row.Adds kind n) (hm : m.natAbs < 2 ^ 53)
    (hn : n.natAbs < 2 ^ 53) :
    ∃ cell' : Cell, cell.add kind (row.value.getD (Arithmetic.ofInt 0)) row.count = .ok cell' ∧
      cell'.Holds (.ofInt (kind.join m n)) := by
  rw [← Aggregation.op_ofInt hm hn]
  cases kind with
  | avg => cases h
  | count =>
    obtain rfl : row.count = n := h
    have hcount := holds_add_count (Arithmetic.ofInt?_binary64 hn) cell
      (row.value.getD (Arithmetic.ofInt 0))
    rwa [hc.total_eq, ← Aggregation.op_count] at hcount
  | sum =>
    have hsum := holds_add_sum cell (Binary64.ofInt n) row.count
    rw [hc.total_eq, ← Aggregation.op_sum] at hsum
    rwa [h, Option.getD_some]
  | min =>
    rw [h, Option.getD_some, Aggregation.op_min]
    exact ⟨_, rfl, hc.addBy _ _ _⟩
  | max =>
    rw [h, Option.getD_some, Aggregation.op_max]
    exact ⟨_, rfl, hc.addBy _ _ _⟩

theorem Holds.addRows (hc : cell.Holds (.ofInt m))
    (h : List.Forall₂ (PartialRow.Adds kind) rows ns)
    (hbound : m.natAbs + (ns.map Int.natAbs).sum < 2 ^ 53) :
    ∃ cell' : Cell, cell.addRows kind rows = .ok cell' ∧
      cell'.Holds (.ofInt (ns.foldl kind.join m)) := by
  induction h generalizing cell m with
  | nil => exact ⟨cell, rfl, hc⟩
  | @cons row n rows ns hrow _ ih =>
    rw [List.map_cons, List.sum_cons] at hbound
    have hjoin := kind.natAbs_join_le m n
    obtain ⟨first, hfirst, hholds⟩ := hc.add hrow (by omega) (by omega)
    obtain ⟨cell', hcell', hholds'⟩ := ih hholds (by omega)
    refine ⟨cell', ?_, hholds'⟩
    rw [Cell.addRows, List.foldlM_cons, hfirst, ok_bind]
    exact hcell'

/-- Only a count that is beyond every number, or an average, keeps a row from being added. -/
theorem exists_addRows (cell : Cell) (hkind : kind ≠ .avg)
    (h : kind = .count → ∀ row ∈ rows, row.count.natAbs < 2 ^ 53) :
    ∃ cell', cell.addRows kind rows = .ok cell' := by
  induction rows generalizing cell with
  | nil => exact ⟨cell, rfl⟩
  | cons row rest ih =>
    obtain ⟨first, hfirst⟩ :
        ∃ cell', cell.add kind (row.value.getD (Arithmetic.ofInt 0)) row.count = .ok cell' := by
      cases kind with
      | avg => exact absurd rfl hkind
      | count =>
        obtain ⟨cell', hcell', -⟩ :=
          holds_add_count (Arithmetic.ofInt?_binary64 (h rfl row (.head rest)))
          cell (row.value.getD (Arithmetic.ofInt 0))
        exact ⟨cell', hcell'⟩
      | _ => exact ⟨_, rfl⟩
    obtain ⟨cell', hcell'⟩ := ih first fun hcount r hr => h hcount r (.tail row hr)
    refine ⟨cell', ?_⟩
    rw [Cell.addRows, List.foldlM_cons, hfirst, ok_bind]
    exact hcell'

theorem Holds.value (hc : cell.Holds (.ofInt n)) (hkind : kind ≠ .avg) :
    cell.value kind = .ok (.ofInt n) := by
  cases kind with
  | avg => exact absurd rfl hkind
  | _ => exact congrArg Except.ok hc.total_eq

end Cell

theorem Merger.exists_batchValue {kind : Aggregation} {batch : List PartialRow}
    (hkind : kind ≠ .avg) (h : kind = .count → ∀ row ∈ batch, row.count.natAbs < 2 ^ 53) :
    ∃ value?, batchValue kind batch = .ok value? := by
  have hfilter : batch.filter (carries kind) ⊆ batch :=
    fun row hrow => (List.mem_filter.1 hrow).1
  rw [batchValue, batchCell]
  generalize batch.filter (carries kind) = rows at hfilter
  cases rows with
  | nil => exact ⟨none, rfl⟩
  | cons row rest =>
    obtain ⟨cell, hcell⟩ :=
      Cell.empty.exists_addRows hkind fun hcount r hr => h hcount r (hfilter hr)
    obtain ⟨v, hv⟩ := cell.exists_value hkind
    exact ⟨some v, by simp only [hcell, map_ok, ok_bind, hv]⟩

theorem Merger.batchValue_eq_ok {kind : Aggregation} {batch : List PartialRow} {ns : List Int}
    (hkind : kind ≠ .avg)
    (h : List.Forall₂ (PartialRow.Adds kind) (batch.filter (carries kind)) ns)
    (hbound : (ns.map Int.natAbs).sum < 2 ^ 53) :
    batchValue kind batch = .ok ((combine kind.join ns).map .ofInt) := by
  rw [batchValue, batchCell]
  generalize batch.filter (carries kind) = rows at h
  cases h with
  | nil => rfl
  | @cons row n rows ns hrow hrows =>
    rw [List.map_cons, List.sum_cons] at hbound
    obtain ⟨first, hfirst, hholds⟩ := Cell.holds_add_first hrow (by omega)
    obtain ⟨cell, hcell, hholds'⟩ := hholds.addRows hrows hbound
    have hall : Cell.empty.addRows kind (row :: rows) = .ok cell := by
      rw [Cell.addRows, List.foldlM_cons, hfirst, ok_bind]
      exact hcell
    simp only [hall, map_ok, ok_bind, hholds'.value hkind, combine, Option.map_some]

end PromptChart
