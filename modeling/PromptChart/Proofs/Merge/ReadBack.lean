import PromptChart.Proofs.Merge.Pivot

namespace PromptChart

/-- What a row shows beside its name: every value under that name, as it stands in the row, and
its own key. -/
def GroupedRow.shown (row : GroupedRow) : Entries (Json × String) Json :=
  (row.filter (·.1 ≠ Pivot.nameKey)).map
    fun e => (((Entries.get? Pivot.nameKey row).getD .null, e.1), e.2)

namespace Pivot

def readBack (rows : List GroupedRow) : Entries (Json × String) Json :=
  rows.flatMap GroupedRow.shown

def named (cells : Entries (String × String) Json) : Entries (Json × String) Json :=
  cells.map fun cell => ((.text cell.1.1, cell.1.2), cell.2)

variable {cells : Entries (String × String) Json}

theorem shown_rowOf {cells : Entries String Json} (hname : ∀ e ∈ cells, e.1 ≠ nameKey)
    (primary : String) :
    (rowOf primary cells).shown = cells.map fun e => ((.text primary, e.1), e.2) := by
  have hget : Entries.get? nameKey (rowOf primary cells) = some (.text primary) := if_pos rfl
  have hfilter : (rowOf primary cells).filter (·.1 ≠ nameKey) = cells := by
    rw [rowOf, List.filter_cons_of_neg (by simp), List.filter_eq_self]
    exact fun e he => decide_eq_true (hname e he)
  rw [GroupedRow.shown, hget, hfilter]
  rfl

theorem key_ne_of_mem_readBack {rows : List GroupedRow} {e : (Json × String) × Json}
    (h : e ∈ readBack rows) :
    e.1.2 ≠ nameKey := by
  obtain ⟨row, _, he⟩ := List.mem_flatMap.1 h
  obtain ⟨entry, hentry, rfl⟩ := List.mem_map.1 he
  exact of_decide_eq_true (List.mem_filter.1 hentry).2

theorem readBack_rows (hkeys : (cells.map (·.1)).Nodup)
    (hname : ∀ cell ∈ cells, cell.1.2 ≠ nameKey) :
    readBack (rows cells) =
      named ((Text.distinct (cells.map (·.1.1))).flatMap fun primary =>
        cells.filter (·.1.1 = primary)) := by
  have hgroup (primary : String) :
      (rowOf primary (cellsOf primary cells)).shown =
        named (cells.filter (·.1.1 = primary)) := by
    rw [shown_rowOf, cellsOf, List.map_map, named]
    · apply List.map_congr_left
      intro cell hcell
      rw [of_decide_eq_true (List.mem_filter.1 hcell).2]
      rfl
    · intro e he
      obtain ⟨cell, hcell, rfl⟩ := List.mem_map.1 he
      exact hname cell (List.mem_of_mem_filter hcell)
  rw [readBack, rows_eq hkeys hname, List.flatMap_map, named, List.map_flatMap]
  exact List.flatMap_congr fun primary _ => hgroup primary

/-- A pivot can be read back exactly if no secondary group has the key of the names. -/
theorem readBack_rows_perm_iff (hkeys : (cells.map (·.1)).Nodup) :
    (readBack (rows cells)).Perm (named cells) ↔ ∀ cell ∈ cells, cell.1.2 ≠ nameKey := by
  constructor
  · intro hperm cell hcell
    have hmem : ((Json.text cell.1.1, cell.1.2), cell.2) ∈ named cells :=
      List.mem_map.2 ⟨cell, hcell, rfl⟩
    exact key_ne_of_mem_readBack (hperm.mem_iff.2 hmem)
  · intro hname
    have hgroups : ((Text.distinct (cells.map (·.1.1))).flatMap fun primary =>
        cells.filter (·.1.1 = primary)).Perm cells := by
      apply Entries.flatMap_filter_perm (fun cell : (String × String) × Json => cell.1.1)
        (Text.nodup_distinct _)
      exact fun cell hcell => Text.mem_distinct.2 (List.mem_map.2 ⟨cell, hcell, rfl⟩)
    rw [readBack_rows hkeys hname]
    exact hgroups.map _

theorem readBack_rows_perm_carriers :
    (carrierCells.map (·.1)).Nodup ∧ (∀ cell ∈ carrierCells, cell.1.2 ≠ nameKey) ∧
      (readBack (rows carrierCells)).Perm (named carrierCells) := by
  have hkeys : (carrierCells.map (·.1)).Nodup := by decide
  have hname : ∀ cell ∈ carrierCells, cell.1.2 ≠ nameKey := by decide
  exact ⟨hkeys, hname, (readBack_rows_perm_iff hkeys).2 hname⟩

/-- A state with the key of the names takes the place of the carrier. -/
theorem not_forall_readBack_rows_perm :
    ¬ ∀ cells : Entries (String × String) Json, (cells.map (·.1)).Nodup →
      (readBack (rows cells)).Perm (named cells) := by
  intro h
  have hperm :=
    h [(("Saia", "primaryGroup"), .float (.ofInt 1)), (("Saia", "TX"), .float (.ofInt 2))]
      (by decide)
  exact absurd hperm.length_eq (by decide)

end Pivot

end PromptChart
