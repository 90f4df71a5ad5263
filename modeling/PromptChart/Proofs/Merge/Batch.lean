import PromptChart.Execute.Run
import PromptChart.Proofs.Entries
import PromptChart.Proofs.Outcome

namespace PromptChart

namespace Cell

variable {ν : Type} [Arithmetic ν]

def addRows (kind : Aggregation) (cell : Cell ν) (rows : List (PartialRow ν)) :
    Except Failure (Cell ν) :=
  rows.foldlM (fun cell row => cell.add kind (row.value.getD (Arithmetic.ofInt 0)) row.count)
    cell

theorem exists_value {kind : Aggregation} (cell : Cell ν) (havg : kind ≠ .avg) :
    ∃ v, cell.value kind = .ok v := by
  cases kind with
  | avg => exact absurd rfl havg
  | _ => exact ⟨_, rfl⟩

end Cell

namespace Merger

variable {κ ν : Type} [DecidableEq κ] [Arithmetic ν] {kind : Aggregation} {k : κ}
  {key : PartialRow ν → κ} {m : Merger κ ν} {row : PartialRow ν} {batch : List (PartialRow ν)}
  {cell cell' : Cell ν}

/-- The cell of a batch; there is none if no row carries anything. -/
def batchCell (kind : Aggregation) (batch : List (PartialRow ν)) :
    Except Failure (Option (Cell ν)) :=
  match batch.filter (carries kind) with
  | [] => .ok none
  | rows => some <$> Cell.empty.addRows kind rows

/-- What a batch under one key comes to, before it is rounded. -/
def batchValue (kind : Aggregation) (batch : List (PartialRow ν)) :
    Except Failure (Option ν) := do
  match ← batchCell kind batch with
  | none => return none
  | some cell => some <$> cell.value kind

theorem takeBatch_cons_of_not_carries (h : carries m.kind row = false) :
    m.takeBatch key (row :: batch) = m.takeBatch key batch := by
  simp only [takeBatch, addBatch, addRow, h, Bool.false_eq_true, ↓reduceIte]

theorem takeBatch_cons_of_carries (h : carries m.kind row = true)
    (hcell : ((m.cells.get? (key row)).getD .empty).add m.kind
      (row.value.getD (Arithmetic.ofInt 0)) row.count = .ok cell) :
    m.takeBatch key (row :: batch) =
      Merger.takeBatch key { m with cells := m.cells.put (key row) cell } batch := by
  simp only [takeBatch, addBatch, addRow, h, ↓reduceIte, hcell]

theorem takeBatch_cons_of_error {f : Failure} (h : carries m.kind row = true)
    (hcell : ((m.cells.get? (key row)).getD .empty).add m.kind
      (row.value.getD (Arithmetic.ofInt 0)) row.count = .error f) :
    m.takeBatch key (row :: batch) = .error f := by
  simp only [takeBatch, addBatch, addRow, h, ↓reduceIte, hcell]

/-- A batch that is taken begins with a row that carries nothing, or with one that is added to
its cell. -/
theorem takeBatch_cons_eq_ok {m' : Merger κ ν} (h : m.takeBatch key (row :: batch) = .ok m') :
    (carries m.kind row = false ∧ m.takeBatch key batch = .ok m') ∨
      (carries m.kind row = true ∧ ∃ cell : Cell ν,
        ((m.cells.get? (key row)).getD .empty).add m.kind (row.value.getD (Arithmetic.ofInt 0))
          row.count = .ok cell ∧
          Merger.takeBatch key { m with cells := m.cells.put (key row) cell } batch =
            .ok m') := by
  cases hrow : carries m.kind row with
  | false =>
    rw [takeBatch_cons_of_not_carries hrow] at h
    exact .inl ⟨rfl, h⟩
  | true =>
    cases hcell : ((m.cells.get? (key row)).getD .empty).add m.kind
      (row.value.getD (Arithmetic.ofInt 0))
        row.count with
    | error f =>
      rw [takeBatch_cons_of_error hrow hcell] at h
      cases h
    | ok cell =>
      rw [takeBatch_cons_of_carries hrow hcell] at h
      exact .inr ⟨rfl, cell, rfl, h⟩

theorem takeBatch_of_filter_nil (h : batch.filter (carries m.kind) = []) :
    m.takeBatch (fun _ => k) batch = .ok m := by
  induction batch with
  | nil => rfl
  | cons row rest ih =>
    obtain ⟨hrow, hrest⟩ := List.forall_mem_cons.1 (List.filter_eq_nil_iff.1 h)
    rw [takeBatch_cons_of_not_carries (Bool.eq_false_iff.2 hrow)]
    exact ih (List.filter_eq_nil_iff.2 hrest)

theorem takeBatch_eq_ok (hne : batch.filter (carries m.kind) ≠ [])
    (h : ((m.cells.get? k).getD .empty).addRows m.kind (batch.filter (carries m.kind)) =
      .ok cell) :
    m.takeBatch (fun _ => k) batch = .ok { m with cells := m.cells.put k cell } := by
  induction batch generalizing m with
  | nil => exact absurd rfl hne
  | cons row rest ih =>
    by_cases hrow : carries m.kind row = true
    · rw [List.filter_cons_of_pos hrow] at h
      obtain ⟨first, hfirst, hrows⟩ := bind_eq_ok.1 h
      rw [takeBatch_cons_of_carries hrow hfirst]
      by_cases hnil : rest.filter (carries m.kind) = []
      · rw [hnil] at hrows
        cases hrows
        exact takeBatch_of_filter_nil hnil
      · have hrest := ih (m := { m with cells := m.cells.put k first }) hnil
          (by rw [Entries.get?_put_self]; exact hrows)
        rw [hrest, Entries.put_put]
    · rw [List.filter_cons_of_neg hrow] at h hne
      rw [takeBatch_cons_of_not_carries (Bool.eq_false_iff.2 hrow)]
      exact ih hne h

theorem takeBatch_of_batchCell {cell? : Option (Cell ν)} (hk : m.cells.get? k = none)
    (h : batchCell m.kind batch = .ok cell?) :
    m.takeBatch (fun _ => k) batch =
      .ok { m with cells := m.cells ++ (cell?.map (k, ·)).toList } := by
  by_cases hnil : batch.filter (carries m.kind) = []
  · rw [batchCell, hnil] at h
    cases h
    rw [takeBatch_of_filter_nil hnil, Option.map_none, Option.toList_none, List.append_nil]
  · have hrows :
        some <$> Cell.empty.addRows m.kind (batch.filter (carries m.kind)) = .ok cell? := by
      obtain ⟨row, rest, hcons⟩ := List.exists_cons_of_ne_nil hnil
      rw [batchCell, hcons] at h
      rw [hcons]
      exact h
    obtain ⟨cell, hcell, rfl⟩ := map_eq_ok.1 hrows
    have hfresh :
        ((m.cells.get? k).getD .empty).addRows m.kind (batch.filter (carries m.kind)) =
          .ok cell := by
      rw [hk]
      exact hcell
    rw [takeBatch_eq_ok hnil hfresh, Entries.put_of_get?_eq_none hk]
    rfl

theorem exists_addRows_of_takeBatch {m' : Merger κ ν}
    (h : m.takeBatch (fun _ => k) batch = .ok m') :
    ∃ cell, ((m.cells.get? k).getD .empty).addRows m.kind (batch.filter (carries m.kind)) =
      .ok cell := by
  induction batch generalizing m with
  | nil => exact ⟨_, rfl⟩
  | cons row rest ih =>
    obtain ⟨hrow, hrest⟩ | ⟨hrow, cell, hcell, hrest⟩ := takeBatch_cons_eq_ok h
    · rw [List.filter_cons_of_neg (Bool.eq_false_iff.1 hrow)]
      exact ih hrest
    · obtain ⟨last, hlast⟩ := ih hrest
      rw [Entries.get?_put_self, Option.getD_some] at hlast
      rw [List.filter_cons_of_pos hrow, Cell.addRows, List.foldlM_cons, hcell]
      exact ⟨last, hlast⟩

theorem exists_batchCell_of_takeBatch {m' : Merger κ ν} (hk : m.cells.get? k = none)
    (h : m.takeBatch (fun _ => k) batch = .ok m') :
    ∃ cell?, batchCell m.kind batch = .ok cell? := by
  obtain ⟨cell, hcell⟩ := exists_addRows_of_takeBatch h
  rw [hk, Option.getD_none] at hcell
  rw [batchCell]
  cases hrows : batch.filter (carries m.kind) with
  | nil => exact ⟨none, rfl⟩
  | cons row rest =>
    rw [hrows] at hcell
    dsimp only
    rw [hcell]
    exact ⟨some cell, rfl⟩

theorem addNamed_eq_ok {keys : List κ} {batches : κ → List (PartialRow ν)}
    {cells : κ → Option (Cell ν)} (hkeys : keys.Nodup)
    (hnew : ∀ k ∈ keys, m.cells.get? k = none)
    (h : ∀ k ∈ keys, batchCell m.kind (batches k) = .ok (cells k)) :
    m.addNamed (keys.map fun k => (k, batches k)) =
      .ok { m with cells := m.cells ++ Entries.ofOptions keys cells } := by
  induction keys generalizing m with
  | nil => rw [Entries.ofOptions, List.filterMap_nil, List.append_nil]; rfl
  | cons k rest ih =>
    obtain ⟨hk, hrest⟩ := List.nodup_cons.1 hkeys
    rw [List.map_cons, addNamed,
      takeBatch_of_batchCell (hnew k (.head rest)) (h k (.head rest)), ok_bind,
      ih hrest, List.append_assoc, Entries.ofOptions_cons]
    · intro key hkey
      have hne : k ≠ key := by
        rintro rfl
        exact hk hkey
      rw [Entries.get?_append_toList hne]
      exact hnew key (.tail k hkey)
    · exact fun key hkey => h key (.tail k hkey)

theorem exists_batchCell_of_addNamed {keys : List κ} {batches : κ → List (PartialRow ν)}
    {m' : Merger κ ν} (hkeys : keys.Nodup) (hnew : ∀ k ∈ keys, m.cells.get? k = none)
    (h : m.addNamed (keys.map fun k => (k, batches k)) = .ok m') :
    ∀ k ∈ keys, ∃ cell?, batchCell m.kind (batches k) = .ok cell? := by
  induction keys generalizing m with
  | nil =>
    intro k hk
    cases hk
  | cons k rest ih =>
    obtain ⟨hk, hrest⟩ := List.nodup_cons.1 hkeys
    rw [List.map_cons, addNamed] at h
    obtain ⟨first, hfirst, hlater⟩ := bind_eq_ok.1 h
    obtain ⟨cell?, hcell⟩ := exists_batchCell_of_takeBatch (hnew k (.head rest)) hfirst
    rw [takeBatch_of_batchCell (hnew k (.head rest)) hcell] at hfirst
    cases hfirst
    intro key hkey
    cases hkey with
    | head => exact ⟨cell?, hcell⟩
    | tail _ hkey =>
      refine ih hrest ?_ hlater key hkey
      intro other hother
      have hne : k ≠ other := by
        rintro rfl
        exact hk hother
      rw [Entries.get?_append_toList hne]
      exact hnew other (.tail k hother)

theorem mem_keys_of_takeBatch {m' : Merger κ ν} (h : m.takeBatch key batch = .ok m')
    (hk : k ∈ m'.cells.map (·.1)) : k ∈ m.cells.map (·.1) ∨ k ∈ batch.map key := by
  induction batch generalizing m with
  | nil =>
    cases h
    exact .inl hk
  | cons row rest ih =>
    rw [List.map_cons]
    obtain ⟨-, hrest⟩ | ⟨-, cell, -, hrest⟩ := takeBatch_cons_eq_ok h
    · exact (ih hrest).imp_right (.tail _)
    · obtain hput | hlater := ih hrest
      · obtain rfl | hold := Entries.mem_keys_of_put hput
        · exact .inr (.head _)
        · exact .inl hold
      · exact .inr (.tail _ hlater)

theorem mem_keys_of_addNamed {named : List (κ × List (PartialRow ν))} {m' : Merger κ ν}
    (h : m.addNamed named = .ok m') (hk : k ∈ m'.cells.map (·.1)) :
    k ∈ m.cells.map (·.1) ∨ k ∈ named.map (·.1) := by
  induction named generalizing m with
  | nil =>
    cases h
    exact .inl hk
  | cons first rest ih =>
    obtain ⟨m₁, hfirst, hrest⟩ := bind_eq_ok.1 h
    rw [List.map_cons]
    obtain hcells | hlater := ih hrest
    · obtain hold | hnew := mem_keys_of_takeBatch hfirst hcells
      · exact .inl hold
      · obtain ⟨-, -, rfl⟩ := List.mem_map.1 hnew
        exact .inr (.head _)
    · exact .inr (.tail _ hlater)

theorem addNamed_filter {keys : List κ} {batches : κ → List (PartialRow ν)} {p : κ → Bool}
    (h : ∀ k ∈ keys, p k = false → batches k = []) :
    m.addNamed (keys.map fun k => (k, batches k)) =
      m.addNamed ((keys.filter p).map fun k => (k, batches k)) := by
  induction keys generalizing m with
  | nil => rfl
  | cons k rest ih =>
    obtain ⟨hk, hrest⟩ := List.forall_mem_cons.1 h
    cases hp : p k with
    | false =>
      rw [List.filter_cons_of_neg (Bool.eq_false_iff.1 hp), List.map_cons, hk hp]
      exact ih hrest
    | true =>
      rw [List.filter_cons_of_pos hp, List.map_cons, List.map_cons, addNamed, addNamed]
      congr 1
      funext first
      exact ih hrest

omit [DecidableEq κ] in
theorem map_fst_of_result {es : Entries κ ν} (h : m.result = .ok es) :
    es.map (·.1) = m.cells.map (·.1) := by
  rw [← List.forall₂_eq_eq_eq, List.forall₂_map_left_iff, List.forall₂_map_right_iff]
  apply (mapM_eq_ok.1 h).flip.imp
  intro e cell hcell
  obtain ⟨v, -, he⟩ := bind_eq_ok.1 hcell
  cases he
  rfl

omit [DecidableEq κ] in
theorem result_eq_ok {keys : List κ} {cells : κ → Option (Cell ν)} {values : κ → Option ν}
    (h : ∀ k ∈ keys, (cells k = none ∧ values k = none) ∨
      ∃ cell v, cells k = some cell ∧ cell.value kind = .ok v ∧ values k = some v) :
    Merger.result ⟨kind, Entries.ofOptions keys cells⟩ =
      .ok (Entries.ofOptions keys fun k => (values k).map Arithmetic.roundCents) := by
  induction keys with
  | nil => rfl
  | cons k rest ih =>
    have ih := ih fun key hkey => h key (.tail k hkey)
    rw [result] at ih ⊢
    rw [Entries.ofOptions_cons, Entries.ofOptions_cons, List.mapM_append, ih]
    obtain ⟨hcell, hvalue⟩ | ⟨cell, v, hcell, hv, hvalue⟩ := h k (.head rest)
    · rw [hcell, hvalue]
      rfl
    · rw [hcell, hvalue]
      simp only [Option.map_some, Option.toList_some, List.mapM_cons, List.mapM_nil, hv,
        ok_bind, pure_eq_ok]

end Merger

namespace Comparison

variable {ν : Type} [Arithmetic ν] {x : Comparison}

theorem points_eq_ok {batches : Entries String (List (PartialRow ν))}
    {values : String → Option ν} (hterms : x.terms.Nodup)
    (h : ∀ t ∈ x.terms, Merger.batchValue x.aggregation ((batches.get? t).getD []) =
      .ok (values t)) :
    x.points batches =
      .ok (x.terms.filterMap fun t =>
        ((values t).map Arithmetic.roundCents).map (Point.mk t)) := by
  have hcell : ∀ t, ∃ cell?, t ∈ x.terms →
      Merger.batchCell x.aggregation ((batches.get? t).getD []) = .ok cell? ∧
      ((cell? = none ∧ values t = none) ∨
        ∃ cell v,
          cell? = some cell ∧ cell.value x.aggregation = .ok v ∧ values t = some v) := by
    intro t
    by_cases ht : t ∈ x.terms
    · obtain ⟨cell?, hcell, hvalue⟩ := bind_eq_ok.1 (h t ht)
      refine ⟨cell?, fun _ => ⟨hcell, ?_⟩⟩
      cases cell? with
      | none =>
        exact .inl ⟨rfl, (Except.ok.inj hvalue).symm⟩
      | some cell =>
        obtain ⟨v, hv, hsome⟩ := map_eq_ok.1 hvalue
        exact .inr ⟨cell, v, rfl, hv, hsome.symm⟩
    · exact ⟨none, fun hmem => absurd hmem ht⟩
  choose cells hcells using hcell
  have hadd := Merger.addNamed_eq_ok (m := Merger.start x.aggregation) hterms (fun _ _ => rfl)
    (fun t ht => (hcells t ht).1)
  have hresult := Merger.result_eq_ok fun t ht => (hcells t ht).2
  simp only [Merger.start, List.nil_append] at hadd
  rw [points, Merger.start, hadd, ok_bind, hresult, ok_bind, pure_eq_ok]
  congr 1
  apply List.filterMap_congr
  intro t ht
  rw [Entries.get?_ofOptions, if_pos ht]

/-- Only an average has a value that can be missing, so points come from batches that all have
one. -/
theorem exists_batchValue_of_points {batches : Entries String (List (PartialRow ν))}
    {points : List (Point ν)} (hterms : x.terms.Nodup) (havg : x.aggregation ≠ .avg)
    (h : x.points batches = .ok points) :
    ∀ t ∈ x.terms,
      ∃ value?, Merger.batchValue x.aggregation ((batches.get? t).getD []) = .ok value? := by
  intro t ht
  obtain ⟨m, hadd, -⟩ := bind_eq_ok.1 h
  obtain ⟨cell?, hcell⟩ := Merger.exists_batchCell_of_addNamed hterms (fun _ _ => rfl) hadd t ht
  rw [Merger.start] at hcell
  rw [Merger.batchValue, hcell, ok_bind]
  cases cell? with
  | none => exact ⟨none, rfl⟩
  | some cell =>
    obtain ⟨v, hv⟩ := cell.exists_value havg
    exact ⟨some v, map_eq_ok.2 ⟨v, hv, rfl⟩⟩

end Comparison

end PromptChart
