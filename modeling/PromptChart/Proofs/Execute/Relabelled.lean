import PromptChart.Proofs.Store.Counts

namespace PromptChart

namespace Merger

variable {κ : Type} [DecidableEq κ]

theorem exists_mergeRows_count_single (key : PartialRow → κ) {row : PartialRow}
    (h : row.count.natAbs < 2 ^ 53) :
    ∃ es, mergeRows .count key [[row]] = .ok es ∧
      es.get? (key row) = some (.ofInt row.count) := by
  have hrows : [[row]].flatten.filter (key · = key row) = [row] :=
    List.filter_cons_of_pos (decide_eq_true rfl)
  have hvalue : batchValue .count ([[row]].flatten.filter (key · = key row)) =
      .ok (some (.ofInt row.count)) := by
    rw [hrows, batchValue_count]
    · rfl
    · simpa using h
  have hrefused : ∀ r ∈ [[row]].flatten, r.isRefused .count = false := by
    simp [PartialRow.isRefused, Binary64.isFinite_ofInt h]
  obtain ⟨es, hes⟩ : ∃ es, mergeRows .count key [[row]] = .ok es :=
    exists_mergeRows_iff_worth.2 ⟨hrefused, fun hkind => absurd hkind (by decide)⟩
  refine ⟨es, hes, ?_⟩
  rw [get?_mergeRows hes hvalue, Option.map_some, Arithmetic.roundCents_binary64,
    Binary64.roundCents_ofInt h]

/-- Rows under a term are merged as the rows they were built out of, by their groups and all
together, exactly if none of these counts for zero. -/
theorem mergeRows_relabel_iff (term : String) (rows : List PartialRow) :
    (∀ kind own, own ⊆ rows →
      mergeRows kind PartialRow.pairKey [own.map (.relabel term)] =
        mergeRows kind (fun row => (row.relabel term).pairKey) [own] ∧
      mergeRows kind (fun _ => term) [own.map (.relabel term)] =
        mergeRows kind (fun _ => term) [own]) ↔
      ∀ row ∈ rows, row.count ≠ 0 := by
  constructor
  · intro h row hrow hzero
    obtain ⟨hsame, -⟩ := h .count [row] (List.cons_subset.2 ⟨hrow, List.nil_subset rows⟩)
    have hone : (row.relabel term).count = 1 := if_pos hzero
    obtain ⟨es, hes, hget⟩ := exists_mergeRows_count_single PartialRow.pairKey
      (show (row.relabel term).count.natAbs < 2 ^ 53 by rw [hone]; decide)
    obtain ⟨es', hes', hget'⟩ :=
      exists_mergeRows_count_single (fun row => (row.relabel term).pairKey)
      (show row.count.natAbs < 2 ^ 53 by rw [hzero]; decide)
    obtain rfl := Except.ok.inj (hes.symm.trans (hsame.trans hes'))
    rw [hget, hone, hzero] at hget'
    revert hget'
    decide +kernel
  · intro h kind own hown
    have hkept : ∀ row ∈ own, (row.relabel term).count = row.count :=
      fun row hrow => if_neg (h row (hown hrow))
    exact ⟨mergeRows_map fun row hrow => ⟨rfl, rfl, hkept row hrow⟩,
      mergeRows_map fun row hrow => ⟨rfl, rfl, hkept row hrow⟩⟩

end Merger

theorem Payload.count_ne_zero_iff {table : String} {payload : Json} {data : List Json}
    {read : List PartialRow} (hdata : raw table payload = .ok data)
    (hread : rows table payload = .ok read) :
    (∀ row ∈ read, row.count ≠ 0) ↔ ∀ d ∈ data, ¬ PartialRow.HasZeroText d := by
  obtain ⟨data', hdata', hchecked⟩ := rows_eq_ok.1 hread
  obtain rfl := Except.ok.inj (hdata.symm.trans hdata')
  constructor
  · intro h d hd
    obtain ⟨row, hrow, hcheck⟩ := exists_left_of_forall₂ hchecked.flip hd
    rw [← PartialRow.count_eq_zero_iff hcheck]
    exact h row hrow
  · intro h row hrow
    obtain ⟨d, hd, hcheck⟩ := exists_left_of_forall₂ hchecked hrow
    rw [ne_eq, PartialRow.count_eq_zero_iff hcheck]
    exact h d hd

/-- A row that is checked again comes back as it is, and keeps its value and count when it is
built again under a term, exactly if its count was not given as a text for zero; the second
check is always the last to change anything. Under its term, every part of what a payload is
read as comes to what a comparison makes of it, in the cells of a breakdown and as a whole,
exactly if no count in the payload is such a text. -/
theorem rows_checked_again (term : String) :
    (∀ d row, PartialRow.check d = .valid row →
      (PartialRow.check row.dump = .valid row ↔ ¬ PartialRow.HasZeroText d) ∧
      (∃ again, PartialRow.check row.dump = .valid again ∧
        PartialRow.check again.dump = .valid again) ∧
      PartialRow.check (row.rebuilt term) = .valid (row.relabel term) ∧
      (row.relabel term).value = row.value ∧
      ((row.relabel term).count = row.count ↔ ¬ PartialRow.HasZeroText d)) ∧
    ∀ table payload data rows, Payload.raw table payload = .ok data →
      Payload.rows table payload = .ok rows →
      ((∀ kind own, own ⊆ rows →
          mergeRows kind PartialRow.pairKey [own.map (.relabel term)] =
            mergeRows kind (fun row => (row.relabel term).pairKey) [own] ∧
          mergeRows kind (fun _ => term) [own.map (.relabel term)] =
            mergeRows kind (fun _ => term) [own]) ↔
        ∀ d ∈ data, ¬ PartialRow.HasZeroText d) := by
  constructor
  · intro d row h
    refine ⟨PartialRow.check_dump_iff h, ⟨row.counted, row.check_dump, ?_⟩,
      row.check_rebuilt term, rfl, ?_⟩
    · rw [PartialRow.check_dump, PartialRow.counted_eq_self_iff.2 row.count_counted_ne_zero]
    · rw [PartialRow.count_relabel_eq_iff, ne_eq, PartialRow.count_eq_zero_iff h]
  · intro table payload data rows hdata hrows
    rw [Merger.mergeRows_relabel_iff, Payload.count_ne_zero_iff hdata hrows]

theorem rows_checked_again_drawer :
    let d := drawerData (.int 10) (.text " 2.0 ")
    let row := drawerRow 10 2
    PartialRow.check d = .valid row ∧ PartialRow.check row.dump = .valid row ∧
      (row.relabel "Drawer").value = row.value ∧ (row.relabel "Drawer").count = row.count ∧
      Payload.rows "shipment_item" (.array [d]) = .ok [row] ∧
      mergeRows .avg PartialRow.pairKey [[row].map (.relabel "Drawer")] =
        mergeRows .avg (fun row => (row.relabel "Drawer").pairKey) [[row]] := by
  intro d row
  obtain ⟨hrow, hrows⟩ := rows_checked_again "Drawer"
  have hcheck : PartialRow.check d = .valid row := Checked.toExcept_eq_ok.1 (by decide +kernel)
  have hread : Payload.rows "shipment_item" (.array [d]) = .ok [row] := by decide +kernel
  have hnone : ¬ PartialRow.HasZeroText d := by
    rintro ⟨s, hs, hzero⟩
    cases hs
    cases hzero
  have hnone' : ∀ d' ∈ [d], ¬ PartialRow.HasZeroText d' := by
    intro d' hd'
    obtain rfl := List.mem_singleton.1 hd'
    exact hnone
  obtain ⟨hagain, -, -, hvalue, hcount⟩ := hrow d row hcheck
  have hmerged := (hrows "shipment_item" (.array [d]) [d] [row] rfl hread).2 hnone'
  exact ⟨hcheck, hagain.2 hnone, hvalue, hcount.2 hnone, hread,
    (hmerged .avg [row] (List.Subset.refl _)).1⟩

/-- A text for zero holds something, and is read as zero by the first check only. -/
theorem not_forall_rows_checked_again :
    ¬ ∀ d row, PartialRow.check d = .valid row → PartialRow.check row.dump = .valid row := by
  intro h
  have hagain := h (drawerData (.int 10) (.text "0")) (drawerRow 10 0)
    (Checked.toExcept_eq_ok.1 (by decide +kernel))
  rw [PartialRow.check_dump, Checked.valid.injEq] at hagain
  cases congrArg PartialRow.count hagain

end PromptChart
