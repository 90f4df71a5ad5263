import PromptChart.Proofs.Binary64.Integer
import PromptChart.Proofs.Merge.Keyed

namespace PromptChart

namespace Arithmetic

variable {n : Int}

theorem ofInt?_of_isFinite (h : (Binary64.ofInt n).isFinite = true) :
    (ofInt? n : Except Failure Binary64) = .ok (.ofInt n) := Binary64.ofInt?_of_isFinite h

theorem ofInt?_of_not_isFinite (h : (Binary64.ofInt n).isFinite = false) :
    (ofInt? n : Except Failure Binary64) = .error .tooLarge := Binary64.ofInt?_of_not_isFinite h

end Arithmetic

/-- Is a row one that cannot be added to any cell? Its count is needed as a number, and is
beyond every one. -/
def PartialRow.isRefused (kind : Aggregation) (row : PartialRow) : Bool :=
  match kind with
  | .avg => row.value.isSome && 0 < row.count && !(Binary64.ofInt row.count).isFinite
  | .count => !(Binary64.ofInt row.count).isFinite
  | _ => false

section Row

variable {kind : Aggregation} {row : PartialRow}

theorem Merger.carries_of_isRefused (h : row.isRefused kind = true) :
    carries kind row = true := by
  cases kind with
  | avg =>
    simp only [PartialRow.isRefused, Bool.and_eq_true] at h
    simp only [carries, h.1.1, Bool.true_or]
  | count => simp only [carries, decide_true, Bool.or_true]
  | _ => cases h

theorem Cell.add_of_isRefused (h : row.isRefused kind = true) (cell : Cell) :
    cell.add kind (row.value.getD (Arithmetic.ofInt 0)) row.count = .error .tooLarge := by
  cases kind with
  | avg =>
    simp only [PartialRow.isRefused, Bool.and_eq_true, decide_eq_true_eq,
      Bool.not_eq_true'] at h
    rw [add, addWeighted, if_pos h.1.2, Arithmetic.ofInt?_of_not_isFinite h.2]
    rfl
  | count =>
    simp only [PartialRow.isRefused, Bool.not_eq_true'] at h
    rw [add, Arithmetic.ofInt?_of_not_isFinite h]
    rfl
  | _ => cases h

theorem Cell.exists_add (hcarries : Merger.carries kind row = true)
    (h : row.isRefused kind = false) (cell : Cell) :
    ∃ cell', cell.add kind (row.value.getD (Arithmetic.ofInt 0)) row.count = .ok cell' := by
  cases kind with
  | avg =>
    rw [add, addWeighted]
    split
    next hpos =>
      have hvalue : row.value.isSome = true := by simpa [Merger.carries] using hcarries
      have hfinite : (Binary64.ofInt row.count).isFinite = true := by
        simpa [PartialRow.isRefused, hvalue, hpos] using h
      rw [Arithmetic.ofInt?_of_isFinite hfinite]
      exact ⟨_, rfl⟩
    · exact ⟨_, rfl⟩
  | count =>
    have hfinite : (Binary64.ofInt row.count).isFinite = true := by
      simpa [PartialRow.isRefused] using h
    rw [add, Arithmetic.ofInt?_of_isFinite hfinite]
    exact ⟨_, rfl⟩
  | _ => exact ⟨_, rfl⟩

/-- What an average counts: the records of a value, unless there are none, and the value
itself. -/
theorem Cell.counts_of_add_avg {cell cell' : Cell} {value : Binary64} {count : Int}
    (h : cell.add .avg value count = .ok cell') :
    cell'.count = cell.count + max count 0 ∧ cell'.plainCount = cell.plainCount + 1 := by
  rw [add, addWeighted] at h
  split at h
  next hpos =>
    obtain ⟨x, -, hcell⟩ := bind_eq_ok.1 h
    cases hcell
    exact ⟨by rw [Int.max_eq_left (Int.le_of_lt hpos)], rfl⟩
  next hpos =>
    cases h
    exact ⟨by rw [Int.max_eq_right (Int.not_lt.1 hpos), Int.add_zero], rfl⟩

theorem Cell.counts_of_addRows_avg {cell cell' : Cell} {rows : List PartialRow}
    (h : cell.addRows .avg rows = .ok cell') :
    cell'.count = cell.count + (rows.map fun row => max row.count 0).sum ∧
      cell'.plainCount = cell.plainCount + rows.length := by
  induction rows generalizing cell with
  | nil =>
    cases h
    exact ⟨(Int.add_zero _).symm, rfl⟩
  | cons row rest ih =>
    obtain ⟨first, hfirst, hrest⟩ := bind_eq_ok.1 h
    obtain ⟨hcount, hplain⟩ := counts_of_add_avg hfirst
    obtain ⟨hcounts, hplains⟩ := ih hrest
    constructor
    · rw [hcounts, hcount, List.map_cons, List.sum_cons, Int.add_assoc]
    · rw [hplains, hplain, List.length_cons, Nat.add_assoc, Nat.add_comm 1]

theorem Cell.exists_value_avg_iff {cell : Cell} (hcount : 0 ≤ cell.count)
    (hplain : cell.plainCount ≠ 0) :
    (∃ v, cell.value .avg = .ok v) ↔ (Binary64.ofInt cell.count).isFinite = true := by
  simp only [value, hplain, ↓reduceIte]
  split
  next hpos =>
    cases hfinite : (Binary64.ofInt cell.count).isFinite with
    | true =>
      rw [Arithmetic.ofInt?_of_isFinite hfinite]
      exact iff_of_true ⟨_, rfl⟩ rfl
    | false =>
      rw [Arithmetic.ofInt?_of_not_isFinite hfinite]
      exact iff_of_false nofun nofun
  next hpos =>
    have hzero : cell.count = 0 := Int.le_antisymm (Int.not_lt.1 hpos) hcount
    rw [hzero]
    exact iff_of_true ⟨_, rfl⟩ (Binary64.isFinite_ofInt (by decide))

end Row

namespace Merger

variable {κ : Type} [DecidableEq κ] {kind : Aggregation} {key : PartialRow → κ}
  {m m' : Merger κ} {row : PartialRow} {batch taken : List PartialRow}

theorem addBatch_eq_of_takeBatch (h : m.takeBatch key batch = .ok m') :
    m.addBatch key batch = (m', none) := by
  unfold takeBatch at h
  split at h
  next hbatch =>
    cases h
    exact hbatch
  · cases h

theorem addBatch_append (h : m.addBatch key taken = (m', none)) (rest : List PartialRow) :
    m.addBatch key (taken ++ rest) = m'.addBatch key rest := by
  induction taken generalizing m with
  | nil =>
    cases h
    rfl
  | cons row taken ih =>
    rw [List.cons_append, addBatch]
    rw [addBatch] at h
    split at h
    · exact ih h
    · cases h

theorem kind_addRow (key : PartialRow → κ) (m : Merger κ) (row : PartialRow) :
    (m.addRow key row).1.kind = m.kind := by
  unfold addRow
  split
  · dsimp only
    split <;> rfl
  · rfl

theorem kind_addBatch (key : PartialRow → κ) (m : Merger κ) (batch : List PartialRow) :
    (m.addBatch key batch).1.kind = m.kind := by
  induction batch generalizing m with
  | nil => rfl
  | cons row rest ih =>
    have hkind := kind_addRow key m row
    rw [addBatch]
    split
    next hrow =>
      rw [hrow] at hkind
      rw [ih, hkind]
    next hrow =>
      rw [hrow] at hkind
      exact hkind

theorem kind_of_takeBatch (h : m.takeBatch key batch = .ok m') : m'.kind = m.kind := by
  have hkind := kind_addBatch key m batch
  rwa [addBatch_eq_of_takeBatch h] at hkind

theorem exists_takeBatch (key : PartialRow → κ)
    (h : ∀ row ∈ batch, row.isRefused m.kind = false) :
    ∃ m', m.takeBatch key batch = .ok m' := by
  induction batch generalizing m with
  | nil => exact ⟨m, rfl⟩
  | cons row rest ih =>
    obtain ⟨hrow, hrest⟩ := List.forall_mem_cons.1 h
    cases hcarries : carries m.kind row with
    | false =>
      rw [takeBatch_cons_of_not_carries hcarries]
      exact ih hrest
    | true =>
      obtain ⟨cell, hcell⟩ :=
        Cell.exists_add hcarries hrow ((m.cells.get? (key row)).getD .empty)
      rw [takeBatch_cons_of_carries hcarries hcell]
      exact ih hrest

def touch (m : Merger κ) (k : κ) : Merger κ :=
  { m with cells := m.cells.put k ((m.cells.get? k).getD .empty) }

theorem touch_of_mem {k : κ} (h : k ∈ m.cells.map (·.1)) : m.touch k = m := by
  obtain ⟨cell, hcell⟩ := Entries.exists_get?_of_mem h
  rw [touch, hcell, Option.getD_some, Entries.put_of_get?_eq_some hcell]

theorem length_touch_of_not_mem {k : κ} (h : k ∉ m.cells.map (·.1)) :
    (m.touch k).cells.length = m.cells.length + 1 := by
  rw [touch, Entries.put_of_get?_eq_none (Entries.get?_eq_none h), List.length_append,
    List.length_singleton]

/-- A refused row fails the call, with the rows before it added and a cell under its own key. -/
theorem addBatch_of_isRefused (htaken : m.takeBatch key taken = .ok m')
    (hrow : row.isRefused m'.kind = true) (rest : List PartialRow) :
    m.addBatch key (taken ++ row :: rest) = (m'.touch (key row), some .tooLarge) := by
  have hadd := Cell.add_of_isRefused hrow ((m'.cells.get? (key row)).getD .empty)
  rw [addBatch_append (addBatch_eq_of_takeBatch htaken)]
  simp only [addBatch, addRow, carries_of_isRefused hrow, ↓reduceIte, hadd, touch]

theorem length_le_of_takeBatch (h : m.takeBatch key batch = .ok m') :
    m.cells.length ≤ m'.cells.length := by
  induction batch generalizing m with
  | nil =>
    cases h
    exact Nat.le_refl _
  | cons row rest ih =>
    obtain ⟨-, hrest⟩ | ⟨-, cell, -, hrest⟩ := takeBatch_cons_eq_ok h
    · exact ih hrest
    · exact Nat.le_trans (Entries.length_le_put _ _ _) (ih hrest)

/-- A failing call leaves the cells as they were exactly if the rows before the refused one
change nothing, and the refused one has a cell already. -/
theorem addBatch_fst_eq_self_iff (htaken : m.takeBatch key taken = .ok m')
    (hrow : row.isRefused m'.kind = true) (rest : List PartialRow) :
    (m.addBatch key (taken ++ row :: rest)).1 = m ↔ m' = m ∧ key row ∈ m.cells.map (·.1) := by
  rw [addBatch_of_isRefused htaken hrow]
  constructor
  · intro h
    -- Cells are never taken away, so that a new one cannot be made up for.
    have hmem : key row ∈ m'.cells.map (·.1) := by
      by_contra hnew
      have htouch := length_touch_of_not_mem hnew
      rw [show m'.touch (key row) = m from h] at htouch
      exact absurd (length_le_of_takeBatch htaken) (Nat.not_le.2 (by omega))
    rw [touch_of_mem hmem] at h
    exact ⟨h, h ▸ hmem⟩
  · rintro ⟨rfl, hmem⟩
    exact touch_of_mem hmem

def values (m : Merger κ) : Nat := (m.cells.map (·.2.plainCount)).sum

theorem sum_put {cells : Entries κ Cell} {k : κ} {cell : Cell}
    (h : cell.plainCount = ((cells.get? k).getD .empty).plainCount + 1) :
    ((cells.put k cell).map (·.2.plainCount)).sum = (cells.map (·.2.plainCount)).sum + 1 := by
  induction cells with
  | nil => simpa [Entries.put, Entries.get?, Cell.empty] using h
  | cons e rest ih =>
    by_cases he : e.1 = k
    · simp only [Entries.get?, he, ↓reduceIte, Option.getD_some] at h
      simp only [Entries.put, he, ↓reduceIte, List.map_cons, List.sum_cons, h]
      omega
    · simp only [Entries.get?, he, ↓reduceIte] at h
      simp only [Entries.put, he, ↓reduceIte, List.map_cons, List.sum_cons, ih h]
      omega

theorem values_of_takeBatch (hkind : m.kind = .avg) (h : m.takeBatch key batch = .ok m') :
    m'.values = m.values + (batch.filter (carries m.kind)).length := by
  induction batch generalizing m with
  | nil =>
    cases h
    rfl
  | cons row rest ih =>
    obtain ⟨hcarries, hrest⟩ | ⟨hcarries, cell, hcell, hrest⟩ := takeBatch_cons_eq_ok h
    · rw [ih hkind hrest, List.filter_cons_of_neg (Bool.eq_false_iff.1 hcarries)]
    · rw [hkind] at hcell
      have hput : Merger.values { m with cells := m.cells.put (key row) cell } = m.values + 1 :=
        sum_put (Cell.counts_of_add_avg hcell).2
      have hvalues := ih (m := { m with cells := m.cells.put (key row) cell }) hkind hrest
      rw [hvalues, hput, List.filter_cons_of_pos hcarries, List.length_cons, Nat.add_assoc,
        Nat.add_comm 1]

theorem takeBatch_avg_eq_self_iff (hkind : m.kind = .avg) (h : m.takeBatch key batch = .ok m') :
    m' = m ↔ ∀ row ∈ batch, row.value = none := by
  have hcarries : batch.filter (carries m.kind) = [] ↔ ∀ row ∈ batch, row.value = none := by
    simp [List.filter_eq_nil_iff, carries, hkind]
  rw [← hcarries]
  constructor
  · rintro rfl
    have hvalues := values_of_takeBatch hkind h
    exact List.length_eq_zero_iff.1 (by omega)
  · intro hnil
    rw [takeBatch_eq_foldlM, hnil] at h
    exact (Except.ok.inj h).symm

/-- What can come before a refused row and leave the cells as they were: no value of an average,
and counts that come to nothing. -/
theorem takeBatch_eq_self_iff (htaken : m.takeBatch key taken = .ok m')
    (hrow : row.isRefused m.kind = true) :
    m' = m ↔ (m.kind = .avg → ∀ r ∈ taken, r.value = none) ∧
      (m.kind = .count → (m.addBatch key taken).1 = m) := by
  rw [addBatch_eq_of_takeBatch htaken]
  cases hkind : m.kind with
  | avg => simp [takeBatch_avg_eq_self_iff hkind htaken]
  | count => simp
  | _ =>
    rw [hkind] at hrow
    cases hrow

end Merger

end PromptChart
