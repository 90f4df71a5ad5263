import PromptChart.Proofs.Merge.Batch

namespace PromptChart

namespace Merger

variable {κ ν : Type} [DecidableEq κ] [Arithmetic ν] {kind : Aggregation}
  {key : PartialRow ν → κ} {m : Merger κ ν} {batch : List (PartialRow ν)}

theorem takeBatch_eq_foldlM (key : PartialRow ν → κ) (m : Merger κ ν)
    (batch : List (PartialRow ν)) :
    m.takeBatch key batch = Merger.mk m.kind <$>
      (batch.filter (carries m.kind)).foldlM (fun cells row =>
      (Entries.put (key row) · cells) <$> ((cells.get? (key row)).getD .empty).add m.kind
        (row.value.getD (Arithmetic.ofInt 0)) row.count) m.cells := by
  induction batch generalizing m with
  | nil => rfl
  | cons row rest ih =>
    cases hrow : carries m.kind row with
    | false =>
      rw [takeBatch_cons_of_not_carries hrow,
        List.filter_cons_of_neg (Bool.eq_false_iff.1 hrow), ih]
    | true =>
      rw [List.filter_cons_of_pos hrow, List.foldlM_cons]
      cases hcell : ((m.cells.get? (key row)).getD .empty).add m.kind
        (row.value.getD (Arithmetic.ofInt 0))
          row.count with
      | error f => rw [takeBatch_cons_of_error hrow hcell, map_error, error_bind, map_error]
      | ok cell => rw [takeBatch_cons_of_carries hrow hcell, ih, map_ok, ok_bind]

theorem takeBatch_append (key : PartialRow ν → κ) (m : Merger κ ν)
    (one other : List (PartialRow ν)) :
    m.takeBatch key (one ++ other) = m.takeBatch key one >>= (·.takeBatch key other) := by
  induction one generalizing m with
  | nil => rfl
  | cons row rest ih =>
    rw [List.cons_append]
    cases hrow : carries m.kind row with
    | false => rw [takeBatch_cons_of_not_carries hrow, takeBatch_cons_of_not_carries hrow, ih]
    | true =>
      cases hcell : ((m.cells.get? (key row)).getD .empty).add m.kind
        (row.value.getD (Arithmetic.ofInt 0))
          row.count with
      | error f =>
        rw [takeBatch_cons_of_error hrow hcell, takeBatch_cons_of_error hrow hcell, error_bind]
      | ok cell =>
        rw [takeBatch_cons_of_carries hrow hcell, takeBatch_cons_of_carries hrow hcell, ih]

theorem addBatches_eq_takeBatch (key : PartialRow ν → κ) (m : Merger κ ν)
    (batches : List (List (PartialRow ν))) :
    m.addBatches key batches = m.takeBatch key batches.flatten := by
  induction batches generalizing m with
  | nil => rfl
  | cons batch rest ih =>
    rw [List.flatten_cons, takeBatch_append, addBatches, List.foldlM_cons]
    congr 1
    funext m'
    exact ih m'

def keys (kind : Aggregation) (key : PartialRow ν → κ) (rows : List (PartialRow ν)) : List κ :=
  Text.distinct ((rows.filter (carries kind)).map key)

omit [Arithmetic ν] in
theorem filter_carries_eq_nil (kind : Aggregation) (key : PartialRow ν → κ)
    (batch : List (PartialRow ν)) (k : κ) :
    (batch.filter (key · = k)).filter (carries kind) = [] ↔ k ∉ keys kind key batch := by
  rw [List.filter_comm, List.filter_eq_nil_iff, keys, Text.mem_distinct]
  constructor
  · intro h hk
    obtain ⟨row, hrow, hkey⟩ := List.mem_map.1 hk
    exact h row hrow (decide_eq_true hkey)
  · intro h row hrow hkey
    exact h (List.mem_map.2 ⟨row, hrow, of_decide_eq_true hkey⟩)

theorem takeBatch_start_eq_ok :
    (start kind).takeBatch key batch = .ok m ↔
      ∃ cells : κ → Cell ν,
        (∀ k, Cell.empty.addRows kind ((batch.filter (key · = k)).filter (carries kind)) =
          .ok (cells k)) ∧
        m = ⟨kind, Entries.tabulate (keys kind key batch) cells⟩ := by
  have hgather : (start kind).takeBatch key batch =
      Merger.mk kind <$> Entries.gatherM key (fun _ => .empty) (fun cell row =>
        Cell.add kind cell (row.value.getD (Arithmetic.ofInt 0)) row.count)
        (batch.filter (carries kind)) :=
    takeBatch_eq_foldlM key (start kind) batch
  have hcomm (k : κ) : (batch.filter (carries kind)).filter (key · = k) =
      (batch.filter (key · = k)).filter (carries kind) := List.filter_comm ..
  simp only [hgather, map_eq_ok, Entries.gatherM_eq_ok, hcomm]
  constructor
  · rintro ⟨-, ⟨cells, hcells, rfl⟩, rfl⟩
    exact ⟨cells, hcells, rfl⟩
  · rintro ⟨cells, hcells, rfl⟩
    exact ⟨_, ⟨cells, hcells, rfl⟩, rfl⟩

theorem batchCell_eq (kind : Aggregation) (batch : List (PartialRow ν)) :
    batchCell kind batch = if batch.filter (carries kind) = [] then .ok none
      else some <$> Cell.empty.addRows kind (batch.filter (carries kind)) := by
  rw [batchCell]
  cases batch.filter (carries kind) with
  | nil => rfl
  | cons row rest => rfl

theorem batchCell_eq_ok {cell? : Option (Cell ν)} :
    batchCell kind batch = .ok cell? ↔
      ∃ cell : Cell ν, Cell.empty.addRows kind (batch.filter (carries kind)) = .ok cell ∧
        cell? = if batch.filter (carries kind) = [] then none else some cell := by
  rw [batchCell_eq]
  by_cases hnil : batch.filter (carries kind) = []
  · simp only [hnil, ↓reduceIte]
    constructor
    · intro h
      exact ⟨.empty, rfl, (Except.ok.inj h).symm⟩
    · rintro ⟨-, -, rfl⟩
      rfl
  · simp only [hnil, ↓reduceIte, map_eq_ok]
    exact exists_congr fun cell => and_congr_right fun _ => eq_comm

theorem mergeRows_eq_ok {values : κ → Option ν} {batches : List (List (PartialRow ν))}
    (h : ∀ k, batchValue kind (batches.flatten.filter (key · = k)) = .ok (values k)) :
    mergeRows kind key batches = .ok (Entries.ofOptions (keys kind key batches.flatten) fun k =>
      (values k).map Arithmetic.roundCents) := by
  have hcell : ∀ k, ∃ cell : Cell ν,
      Cell.empty.addRows kind ((batches.flatten.filter (key · = k)).filter (carries kind)) =
        .ok cell ∧
      (k ∈ keys kind key batches.flatten →
        ∃ v, cell.value kind = .ok v ∧ values k = some v) := by
    intro k
    obtain ⟨cell?, hcell?, hvalue⟩ := bind_eq_ok.1 (h k)
    obtain ⟨cell, hcell, rfl⟩ := batchCell_eq_ok.1 hcell?
    refine ⟨cell, hcell, fun hk => ?_⟩
    rw [if_neg (mt (filter_carries_eq_nil kind key _ k).1 (not_not_intro hk))] at hvalue
    obtain ⟨v, hv, hsome⟩ := map_eq_ok.1 hvalue
    exact ⟨v, hv, hsome.symm⟩
  choose cells hcells hvalues using hcell
  have hresult :
      Merger.result ⟨kind,
        Entries.ofOptions (keys kind key batches.flatten) fun k => some (cells k)⟩ =
      .ok (Entries.ofOptions (keys kind key batches.flatten)
        fun k => (values k).map Arithmetic.roundCents) := by
    apply result_eq_ok
    intro k hk
    obtain ⟨v, hv, hsome⟩ := hvalues k hk
    exact .inr ⟨cells k, v, rfl, hv, hsome⟩
  rw [mergeRows, addBatches_eq_takeBatch, takeBatch_start_eq_ok.2 ⟨cells, hcells, rfl⟩, ok_bind,
    Entries.tabulate_eq_ofOptions, hresult]

/-- If the rows of every key that there is come to a value, the cells of the merge are these
values. -/
theorem mergeRows_eq_tabulate (values : κ → ν) {batches : List (List (PartialRow ν))}
    (h : ∀ k ∈ keys kind key batches.flatten,
      batchValue kind (batches.flatten.filter (key · = k)) = .ok (some (values k))) :
    mergeRows kind key batches = .ok (Entries.tabulate (keys kind key batches.flatten) fun k =>
      Arithmetic.roundCents (values k)) := by
  have hvalue : ∀ k, batchValue kind (batches.flatten.filter (key · = k)) =
      .ok (if k ∈ keys kind key batches.flatten then some (values k) else none) := by
    intro k
    split
    next hk => exact h k hk
    next hk =>
      rw [batchValue, batchCell_eq, if_pos ((filter_carries_eq_nil kind key _ k).2 hk)]
      rfl
  rw [mergeRows_eq_ok hvalue, Entries.tabulate_eq_ofOptions]
  congr 1
  apply List.filterMap_congr
  intro k hk
  dsimp only
  rw [if_pos hk, Option.map_some]

theorem exists_batchValue_of_mergeRows {es : Entries κ ν} {batches : List (List (PartialRow ν))}
    (h : mergeRows kind key batches = .ok es) (k : κ) :
    ∃ value?, batchValue kind (batches.flatten.filter (key · = k)) = .ok value? := by
  obtain ⟨m, hm, hresult⟩ := bind_eq_ok.1 h
  rw [addBatches_eq_takeBatch] at hm
  obtain ⟨cells, hcells, rfl⟩ := takeBatch_start_eq_ok.1 hm
  rw [batchValue, batchCell_eq_ok.2 ⟨cells k, hcells k, rfl⟩, ok_bind]
  by_cases hk : k ∈ keys kind key batches.flatten
  · rw [if_neg (mt (filter_carries_eq_nil kind key _ k).1 (not_not_intro hk))]
    obtain ⟨e, -, he⟩ := exists_mem_of_mapM hresult (List.mem_map_of_mem hk)
    obtain ⟨v, hv, -⟩ := bind_eq_ok.1 he
    exact ⟨some v, map_eq_ok.2 ⟨v, hv, rfl⟩⟩
  · rw [if_pos ((filter_carries_eq_nil kind key _ k).2 hk)]
    exact ⟨none, rfl⟩

theorem exists_mergeRows_iff {batches : List (List (PartialRow ν))} :
    (∃ es, mergeRows kind key batches = .ok es) ↔
      ∀ k, ∃ value?, batchValue kind (batches.flatten.filter (key · = k)) = .ok value? := by
  constructor
  · rintro ⟨es, hes⟩ k
    exact exists_batchValue_of_mergeRows hes k
  · intro h
    choose values hvalues using h
    exact ⟨_, mergeRows_eq_ok hvalues⟩

theorem get?_mergeRows {es : Entries κ ν} {batches : List (List (PartialRow ν))} {k : κ}
    {value? : Option ν} (h : mergeRows kind key batches = .ok es)
    (hvalue : batchValue kind (batches.flatten.filter (key · = k)) = .ok value?) :
    es.get? k = value?.map Arithmetic.roundCents := by
  choose values hvalues using fun k => exists_batchValue_of_mergeRows h k
  rw [mergeRows_eq_ok hvalues] at h
  obtain rfl := Except.ok.inj h
  rw [hvalues k] at hvalue
  obtain rfl := Except.ok.inj hvalue
  rw [Entries.get?_ofOptions]
  split
  · rfl
  next hk =>
    have hnone := hvalues k
    rw [batchValue, batchCell_eq, if_pos ((filter_carries_eq_nil kind key _ k).2 hk)] at hnone
    rw [← Except.ok.inj hnone]
    rfl

theorem map_fst_mergeRows {es : Entries κ ν} {batches : List (List (PartialRow ν))}
    (h : mergeRows kind key batches = .ok es) :
    es.map (·.1) = keys kind key batches.flatten := by
  rw [mergeRows, addBatches_eq_takeBatch] at h
  obtain ⟨m, hm, hresult⟩ := bind_eq_ok.1 h
  obtain ⟨cells, -, rfl⟩ := takeBatch_start_eq_ok.1 hm
  rw [map_fst_of_result hresult, Entries.tabulate, List.map_map]
  exact List.map_id _

theorem nodup_keys_mergeRows {es : Entries κ ν} {batches : List (List (PartialRow ν))}
    (h : mergeRows kind key batches = .ok es) : (es.map (·.1)).Nodup := by
  rw [map_fst_mergeRows h]
  exact Text.nodup_distinct _

omit [Arithmetic ν] in
theorem mem_keys_iff {rows : List (PartialRow ν)} {k : κ} :
    k ∈ keys kind key rows ↔ ∃ row ∈ rows, carries kind row = true ∧ key row = k := by
  simp only [keys, Text.mem_distinct, List.mem_map, List.mem_filter, and_assoc]

theorem exists_row_of_mem_mergeRows {es : Entries κ ν} {batches : List (List (PartialRow ν))}
    {e : κ × ν} (h : mergeRows kind key batches = .ok es) (he : e ∈ es) :
    ∃ row ∈ batches.flatten, key row = e.1 := by
  have hkey := List.mem_map_of_mem (f := (·.1)) he
  rw [map_fst_mergeRows h, mem_keys_iff] at hkey
  obtain ⟨row, hrow, -, hk⟩ := hkey
  exact ⟨row, hrow, hk⟩

theorem mergeRows_flatten (kind : Aggregation) (key : PartialRow ν → κ)
    (batches : List (List (PartialRow ν))) :
    mergeRows kind key [batches.flatten] = mergeRows kind key batches := by
  rw [mergeRows, mergeRows, addBatches_eq_takeBatch, addBatches_eq_takeBatch,
    List.flatten_singleton]

section Pairs

variable {α β : Type} [DecidableEq α] [DecidableEq β] {key : PartialRow ν → α × β}
  {batches : List (List (PartialRow ν))}

omit [Arithmetic ν] in
theorem filter_fst_filter_snd (key : PartialRow ν → α × β) (rows : List (PartialRow ν))
    (a : α) (b : β) :
    (rows.filter fun row => (key row).1 = a).filter (fun row => (key row).2 = b) =
      rows.filter fun row => key row = (a, b) := by
  rw [List.filter_filter]
  apply List.filter_congr
  intro row _
  rw [Bool.eq_iff_iff]
  simp only [Bool.and_eq_true, decide_eq_true_eq, Prod.ext_iff]
  exact and_comm

omit [Arithmetic ν] in
theorem keys_filter_fst (kind : Aggregation) (key : PartialRow ν → α × β)
    (rows : List (PartialRow ν)) (a : α) :
    (keys kind key rows).filter (·.1 = a) =
      (keys kind (fun row => (key row).2) (rows.filter fun row => (key row).1 = a)).map (a,
        ·) := by
  have hpairs : ((rows.filter (carries kind)).map key).filter (·.1 = a) =
      (((rows.filter fun row => (key row).1 = a).filter (carries kind)).map fun row =>
        (key row).2).map (a, ·) := by
    rw [List.filter_map, List.map_map, List.filter_comm (carries kind)]
    apply List.map_congr_left
    intro row hrow
    obtain ⟨-, hfst⟩ := List.mem_filter.1 hrow
    exact Prod.ext (of_decide_eq_true hfst) rfl
  have hinjective : (fun b : β => (a, b)).Injective := fun b b' h => (Prod.mk.inj h).2
  rw [keys, keys, ← Text.distinct_filter, hpairs, Text.distinct_map hinjective]

theorem mergeRows_fst {es : Entries (α × β) ν} (h : mergeRows kind key batches = .ok es)
    (a : α) :
    mergeRows kind (fun row => (key row).2)
      [batches.flatten.filter fun row => (key row).1 = a] =
      .ok ((es.filter (·.1.1 = a)).map fun e => (e.1.2, e.2)) := by
  choose values hvalues using fun k => exists_batchValue_of_mergeRows h k
  rw [mergeRows_eq_ok hvalues] at h
  obtain rfl := Except.ok.inj h
  have hsecond (b : β) :
      batchValue kind ([batches.flatten.filter fun row => (key row).1 = a].flatten.filter
      fun row => (key row).2 = b) = .ok (values (a, b)) := by
    rw [List.flatten_singleton, filter_fst_filter_snd, hvalues]
  have hcells : (Entries.ofOptions (keys kind key batches.flatten) fun k =>
      (values k).map Arithmetic.roundCents).filter (·.1.1 = a) =
      (Entries.ofOptions (keys kind (fun row => (key row).2)
        (batches.flatten.filter fun row => (key row).1 = a))
        fun b => (values (a, b)).map Arithmetic.roundCents).map fun e => ((a, e.1), e.2) := by
    rw [← Entries.ofOptions_filter fun k : α × β => decide (k.1 = a), keys_filter_fst,
      Entries.ofOptions_map]
  rw [mergeRows_eq_ok hsecond, hcells, List.map_map, List.flatten_singleton]
  exact congrArg Except.ok (List.map_id _).symm

theorem exists_mergeRows_fst_iff :
    (∃ es, mergeRows kind key batches = .ok es) ↔
      ∀ a, ∃ es, mergeRows kind (fun row => (key row).2)
        [batches.flatten.filter fun row => (key row).1 = a] = .ok es := by
  simp only [exists_mergeRows_iff, List.flatten_singleton, filter_fst_filter_snd, Prod.forall]

end Pairs

section Relabel

variable {key key' : PartialRow ν → κ} {f : PartialRow ν → PartialRow ν}

/-- Rows that are named otherwise are merged alike if they keep their keys, values and
counts. -/
theorem takeBatch_map (h : ∀ row ∈ batch, key' (f row) = key row ∧ (f row).value = row.value ∧
    (f row).count = row.count) : m.takeBatch key' (batch.map f) = m.takeBatch key batch := by
  have hbatch : m.addBatch key' (batch.map f) = m.addBatch key batch := by
    induction batch generalizing m with
    | nil => rfl
    | cons row rest ih =>
      obtain ⟨⟨hkey, hvalue, hcount⟩, hrest⟩ := List.forall_mem_cons.1 h
      have hrow : m.addRow key' (f row) = m.addRow key row := by
        simp only [addRow, carries, hkey, hvalue, hcount]
        rfl
      simp only [List.map_cons, addBatch, hrow, ih hrest]
  rw [takeBatch, takeBatch, hbatch]

theorem mergeRows_map (h : ∀ row ∈ batch, key' (f row) = key row ∧ (f row).value = row.value ∧
    (f row).count = row.count) :
    mergeRows kind key' [batch.map f] = mergeRows kind key [batch] := by
  simp only [mergeRows, addBatches_eq_takeBatch, List.flatten_singleton, takeBatch_map h]

end Relabel

end Merger

end PromptChart
