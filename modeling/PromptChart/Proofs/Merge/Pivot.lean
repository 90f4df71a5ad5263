import Mathlib.Data.List.Sort
import Mathlib.Data.String.Basic
import PromptChart.Merge.Pivot
import PromptChart.Proofs.Entries

namespace PromptChart

theorem Text.lt_iff_codes_lt {s t : String} :
    s < t ↔ s.toList.map Char.toNat < t.toList.map Char.toNat := by
  rw [String.lt_iff_toList_lt]
  generalize s.toList = x
  generalize t.toList = y
  induction x generalizing y with
  | nil => cases y <;> simp
  | cons a x ih =>
    cases y with
    | nil => simp
    | cons b y =>
      have hcode : a < b ↔ a.toNat < b.toNat := Iff.rfl
      rw [List.map_cons, List.map_cons, List.cons_lt_cons_iff, List.cons_lt_cons_iff, ih, hcode,
        Char.toNat_inj]

namespace GroupedRow

def name? (row : GroupedRow) : Option String := (row.lookup Pivot.nameKey).bind Json.text?

def values (row : GroupedRow) : List Binary64 :=
  row.filterMap fun
    | (key, .float x) => if key = Pivot.nameKey then none else some x
    | _ => none

end GroupedRow

def Grouped.row? (g : Grouped) (primary : String) : Option GroupedRow :=
  g.rows.find? fun row => row.name? = some primary

namespace Pivot

def rowOf (primary : String) (cells : Entries String Json) : GroupedRow :=
  (nameKey, .text primary) :: cells

theorem name?_rowOf (primary : String) (cells : Entries String Json) :
    (rowOf primary cells).name? = some primary := by
  simp only [GroupedRow.name?, rowOf, List.lookup_cons_self, Option.bind_some, Json.text?]

def cellsOf {α : Type} (primary : String) (cells : Entries (String × String) α) :
    Entries String α :=
  (cells.filter (·.1.1 = primary)).map fun cell => (cell.1.2, cell.2)

variable {cells : Entries (String × String) Json} {primary : String}

theorem nodup_cellsOf {α : Type} {cells : Entries (String × String) α}
    (hkeys : (cells.map (·.1)).Nodup) :
    ((cellsOf primary cells).map (·.1)).Nodup := by
  have hpairs : ((cells.filter (·.1.1 = primary)).map (·.1)).Nodup :=
    hkeys.sublist (List.filter_sublist.map Prod.fst)
  have hmap :
      (cellsOf primary cells).map (·.1) =
        ((cells.filter (·.1.1 = primary)).map (·.1)).map (·.2) := by
    rw [cellsOf, List.map_map, List.map_map]
    rfl
  have hprimary {k : String × String} (hk : k ∈ (cells.filter (·.1.1 = primary)).map (·.1)) :
      k.1 = primary := by
    obtain ⟨cell, hcell, rfl⟩ := List.mem_map.1 hk
    exact of_decide_eq_true (List.mem_filter.1 hcell).2
  rw [hmap]
  apply List.Nodup.map_on _ hpairs
  intro k hk k' hk' hsecond
  exact Prod.ext ((hprimary hk).trans (hprimary hk').symm) hsecond

theorem mem_keys_cellsOf {α : Type} {cells : Entries (String × String) α} {secondary : String} :
    secondary ∈ (cellsOf primary cells).map (·.1) ↔ (primary, secondary) ∈ cells.map (·.1) := by
  rw [cellsOf, List.map_map, List.mem_map, List.mem_map]
  constructor
  · rintro ⟨cell, hcell, rfl⟩
    obtain ⟨hcell, hprimary⟩ := List.mem_filter.1 hcell
    exact ⟨cell, hcell, Prod.ext (of_decide_eq_true hprimary) rfl⟩
  · rintro ⟨cell, hcell, hkey⟩
    exact ⟨cell, List.mem_filter.2 ⟨hcell, decide_eq_true (congrArg Prod.fst hkey)⟩,
      congrArg Prod.snd hkey⟩

theorem not_mem_keys_cellsOf (hname : ∀ cell ∈ cells, cell.1.2 ≠ nameKey) (primary : String) :
    nameKey ∉ (cellsOf primary cells).map (·.1) := by
  rw [mem_keys_cellsOf]
  intro hmem
  obtain ⟨cell, hcell, hkey⟩ := List.mem_map.1 hmem
  exact hname cell hcell (congrArg Prod.snd hkey)

theorem rows_eq_foldl : rows cells = (Text.distinct (cells.map (·.1.1))).map fun primary =>
    (cellsOf primary cells).foldl (fun row e => Entries.put e.1 e.2 row)
      [(nameKey, .text primary)] := by
  have hfold := Entries.foldl_put_eq_tabulate (fun cell : (String × String) × Json => cell.1.1)
    (fun primary => [(nameKey, Json.text primary)])
    (fun row cell => Entries.put cell.1.2 cell.2 row) cells
  rw [rows]
  simp only [addCell, hfold, Entries.tabulate, List.map_map, cellsOf, List.foldl_map]
  rfl

theorem rows_eq_nil_iff : rows cells = [] ↔ cells = [] := by
  rw [rows_eq_foldl, List.map_eq_nil_iff, Text.distinct_eq_nil_iff, List.map_eq_nil_iff]

theorem secondaries_eq_nil_iff : secondaries cells = [] ↔ cells = [] := by
  rw [secondaries, ← List.length_eq_zero_iff, List.length_mergeSort, List.length_eq_zero_iff,
    Text.distinct_eq_nil_iff, List.map_eq_nil_iff]

theorem rows_ofMerged_eq_nil_iff (raw : List PartialRow)
    (es : Entries (String × String) Binary64) :
    (ofMerged raw es).rows = [] ↔ (ofMerged raw es).secondaries = [] :=
  rows_eq_nil_iff.trans secondaries_eq_nil_iff.symm

theorem rows_eq (hkeys : (cells.map (·.1)).Nodup) (hname : ∀ cell ∈ cells, cell.1.2 ≠ nameKey) :
    rows cells =
      (Text.distinct (cells.map (·.1.1))).map fun primary =>
        rowOf primary (cellsOf primary cells) := by
  have hrow (primary : String) :
      (cellsOf primary cells).foldl (fun row e => Entries.put e.1 e.2 row)
      [(nameKey, Json.text primary)] = rowOf primary (cellsOf primary cells) := by
    have hnew := not_mem_keys_cellsOf hname primary
    exact Entries.foldl_put_eq_append (List.nodup_cons.2 ⟨hnew, nodup_cellsOf hkeys⟩)
  simp only [rows_eq_foldl, hrow]

theorem get?_cellsOf {α : Type} (cells : Entries (String × String) α)
    (primary secondary : String) :
    (cellsOf primary cells).get? secondary = cells.get? (primary, secondary) := by
  induction cells with
  | nil => rfl
  | cons cell rest ih =>
    rw [cellsOf] at ih ⊢
    rw [Entries.get?, ← ih]
    by_cases hprimary : cell.1.1 = primary
    · rw [List.filter_cons_of_pos (by simpa using hprimary), List.map_cons, Entries.get?]
      simp only [Prod.ext_iff, hprimary, true_and]
    · rw [List.filter_cons_of_neg (by simpa using hprimary), if_neg]
      exact fun hcell => hprimary (congrArg Prod.fst hcell)

/-- The row of a primary group: the name, and behind it the cells under their secondary groups,
in order. A cell under the key of the names stands in the place of the name. -/
structure IsRowOf (cells : Entries (String × String) Json) (primary : String)
    (row : GroupedRow) : Prop where
  keys : row.map (·.1) = nameKey :: ((cellsOf primary cells).map (·.1)).filter (· ≠ nameKey)
  get?_cell : ∀ secondary, (primary, secondary) ∈ cells.map (·.1) →
    Entries.get? secondary row = cells.get? (primary, secondary)
  get?_name : (primary, nameKey) ∉ cells.map (·.1) →
      Entries.get? nameKey row = some (.text primary)

theorem isRowOf_foldl (hkeys : (cells.map (·.1)).Nodup) (primary : String) :
    IsRowOf cells primary
      ((cellsOf primary cells).foldl (fun row e => Entries.put e.1 e.2 row)
        [(nameKey, .text primary)]) where
  keys := by
    have hname : ([(nameKey, Json.text primary)].map (·.1)).Nodup :=
      List.nodup_singleton nameKey
    rw [Entries.keys_foldl_put hname, List.map_singleton, List.singleton_append, Text.distinct,
      Text.distinct_of_nodup (nodup_cellsOf hkeys)]
  get?_cell := by
    intro secondary hmem
    obtain ⟨value, hvalue⟩ := Entries.exists_get?_of_mem hmem
    rw [Entries.get?_foldl_put (nodup_cellsOf hkeys), get?_cellsOf, hvalue, Option.some_or]
  get?_name := by
    intro hnew
    rw [Entries.get?_foldl_put (nodup_cellsOf hkeys), get?_cellsOf, Entries.get?_eq_none hnew,
      Option.none_or]
    exact if_pos rfl

theorem get?_eq_of_rows {cells' : Entries (String × String) Json}
    (hkeys : cells.map (·.1) = cells'.map (·.1)) (hnodup : (cells.map (·.1)).Nodup)
    (h : rows cells = rows cells') (k : String × String) :
    cells.get? k = cells'.get? k := by
  by_cases hk : k ∈ cells.map (·.1)
  · have hprimaries : cells.map (·.1.1) = cells'.map (·.1.1) := by
      simpa only [List.map_map, Function.comp_def] using congrArg (List.map Prod.fst) hkeys
    have hmem : k.1 ∈ Text.distinct (cells'.map (·.1.1)) := by
      obtain ⟨cell, hcell, rfl⟩ := List.mem_map.1 hk
      rw [Text.mem_distinct, ← hprimaries]
      exact List.mem_map.2 ⟨cell, hcell, rfl⟩
    rw [rows_eq_foldl, rows_eq_foldl, hprimaries] at h
    have hrow := List.map_inj_left.1 h k.1 hmem
    have hget := (isRowOf_foldl hnodup k.1).get?_cell k.2 hk
    rw [hrow, (isRowOf_foldl (hkeys ▸ hnodup) k.1).get?_cell k.2 (hkeys ▸ hk)] at hget
    exact hget.symm
  · rw [Entries.get?_eq_none hk, Entries.get?_eq_none (hkeys ▸ hk)]

def firstCell (cells : Entries (String × String) Json) (primary : String) : Nat :=
  cells.findIdx (·.1.1 = primary)

theorem secondaries_pairwise (cells : Entries (String × String) Json) :
    (secondaries cells).Pairwise fun s t =>
      s.toList.map Char.toNat < t.toList.map Char.toNat := by
  have hle : (secondaries cells).Pairwise (· ≤ ·) := List.pairwise_mergeSort' (· ≤ ·) _
  have hne : (secondaries cells).Nodup :=
    (List.mergeSort_perm _ _).nodup_iff.2 (Text.nodup_distinct _)
  exact (hle.and hne).imp fun h => Text.lt_iff_codes_lt.1 (lt_of_le_of_ne h.1 h.2)

theorem mem_secondaries_iff {secondary : String} :
    secondary ∈ secondaries cells ↔ ∃ cell ∈ cells, cell.1.2 = secondary := by
  rw [secondaries, (List.mergeSort_perm _ _).mem_iff, Text.mem_distinct, List.mem_map]

theorem IsRowOf.keys_of_ne {row : GroupedRow} (h : IsRowOf cells primary row)
    (hname : ∀ cell ∈ cells, cell.1.2 ≠ nameKey) :
    row.map (·.1) = nameKey :: (cellsOf primary cells).map (·.1) := by
  have hall : ((cellsOf primary cells).map (·.1)).filter (· ≠ nameKey) =
      (cellsOf primary cells).map (·.1) := by
    rw [List.filter_eq_self]
    intro secondary hmem
    exact decide_eq_true fun heq => not_mem_keys_cellsOf hname primary (heq ▸ hmem)
  rw [h.keys, hall]

/-- There is one row for every primary group, in the order of the first cells; the keys of a row
stand in the order of its cells, and the secondary groups in the order of their code points. -/
theorem exists_primaries (hkeys : (cells.map (·.1)).Nodup) :
    ∃ primaries : List String,
      (∀ primary, primary ∈ primaries ↔ ∃ cell ∈ cells, cell.1.1 = primary) ∧
      (primaries.Pairwise fun one other => firstCell cells one < firstCell cells other) ∧
      List.Forall₂
        (fun primary row => IsRowOf cells primary row ∧
          ((∀ cell ∈ cells, cell.1.2 ≠ nameKey) →
            row.map (·.1) = nameKey :: (cellsOf primary cells).map (·.1)))
        primaries (rows cells) ∧
      ((secondaries cells).Pairwise fun s t =>
        s.toList.map Char.toNat < t.toList.map Char.toNat) ∧
      ∀ secondary, secondary ∈ secondaries cells ↔ ∃ cell ∈ cells, cell.1.2 = secondary := by
  refine ⟨Text.distinct (cells.map (·.1.1)), fun primary => ?_, ?_, ?_,
    secondaries_pairwise cells, fun secondary => mem_secondaries_iff⟩
  · rw [Text.mem_distinct, List.mem_map]
  · exact Text.distinct_pairwise_findIdx (fun cell : (String × String) × Json => cell.1.1) cells
  · rw [rows_eq_foldl, List.forall₂_map_right_iff, List.forall₂_same]
    exact fun primary _ =>
      ⟨isRowOf_foldl hkeys primary, (isRowOf_foldl hkeys primary).keys_of_ne⟩

def carrierCells : Entries (String × String) Json :=
  [(("Saia", "TX"), .float (.ofInt 120)), (("Estes", "CA"), .float (.ofInt 80)),
    (("Saia", "CA"), .float (.ofInt 95))]

theorem exists_primaries_carriers :
    (carrierCells.map (·.1)).Nodup ∧ ∃ primaries : List String,
      (∀ primary, primary ∈ primaries ↔ primary = "Saia" ∨ primary = "Estes") ∧
      (primaries.Pairwise fun one other =>
        firstCell carrierCells one < firstCell carrierCells other) ∧
      List.Forall₂
        (fun primary row => row.map (·.1) = nameKey :: (cellsOf primary carrierCells).map (·.1))
        primaries (rows carrierCells) ∧
      ∀ secondary, secondary ∈ secondaries carrierCells ↔
        secondary = "TX" ∨ secondary = "CA" := by
  have hkeys : (carrierCells.map (·.1)).Nodup := by decide
  have hname : ∀ cell ∈ carrierCells, cell.1.2 ≠ nameKey := by decide
  obtain ⟨primaries, hmem, horder, hrows, -, hsecondaries⟩ := exists_primaries hkeys
  refine ⟨hkeys, primaries, fun primary => ?_, horder, hrows.imp fun _ _ h => h.2 hname,
    fun secondary => ?_⟩
  · rw [hmem]
    simp [carrierCells, eq_comm, or_comm, or_left_comm]
  · rw [hsecondaries]
    simp [carrierCells, eq_comm]

theorem find?_eq_self {α : Type} [DecidableEq α] {items : List α} {a : α} :
    items.find? (· = a) = if a ∈ items then some a else none := by
  induction items with
  | nil => rfl
  | cons b rest ih =>
    by_cases hb : b = a
    · simp [hb]
    · simp [hb, ih, Ne.symm hb]

variable {es : Entries (String × String) Binary64}

theorem cellsOf_float (primary : String) (es : Entries (String × String) Binary64) :
    cellsOf primary (es.map fun (k, x) => (k, Json.float x)) =
      (cellsOf primary es).map fun e => (e.1, Json.float e.2) := by
  rw [cellsOf, cellsOf, List.filter_map, List.map_map, List.map_map]
  rfl

theorem get?_eq_of_rows_ofMerged {es' : Entries (String × String) Binary64}
    {raw raw' : List PartialRow} (hkeys : es.map (·.1) = es'.map (·.1))
    (hnodup : (es.map (·.1)).Nodup) (h : (ofMerged raw es).rows = (ofMerged raw' es').rows)
    (k : String × String) : es.get? k = es'.get? k := by
  have hfst (es : Entries (String × String) Binary64) :
      (es.map fun (k, x) => (k, Json.float x)).map (·.1) = es.map (·.1) := by
    rw [List.map_map]
    rfl
  have hget := get?_eq_of_rows (by rw [hfst, hfst, hkeys]) (by rwa [hfst]) h k
  rw [Entries.get?_map_snd, Entries.get?_map_snd] at hget
  exact Option.map_injective (fun _ _ => Json.float.inj) hget

theorem row?_ofMerged (raw : List PartialRow) (hkeys : (es.map (·.1)).Nodup)
    (hname : ∀ e ∈ es, e.1.2 ≠ nameKey) (primary : String) :
    (ofMerged raw es).row? primary = if cellsOf primary es = [] then none
      else some (rowOf primary ((cellsOf primary es).map fun e => (e.1, .float e.2))) := by
  have hcells : ((es.map fun (k, x) => (k, Json.float x)).map (·.1)).Nodup := by
    rwa [List.map_map]
  have hnames : ∀ cell ∈ es.map fun (k, x) => (k, Json.float x), cell.1.2 ≠ nameKey := by
    intro cell hcell
    obtain ⟨e, he, rfl⟩ := List.mem_map.1 hcell
    exact hname e he
  have hmem : primary ∈ Text.distinct ((es.map fun (k, x) => (k, Json.float x)).map (·.1.1)) ↔
      cellsOf primary es ≠ [] := by
    rw [Text.mem_distinct, List.map_map, cellsOf, Ne, List.map_eq_nil_iff,
      List.filter_eq_nil_iff]
    simp
  rw [Grouped.row?, ofMerged, rows_eq hcells hnames, List.find?_map]
  simp only [Function.comp_def, name?_rowOf, Option.some.injEq, find?_eq_self, hmem]
  by_cases hnil : cellsOf primary es = []
  · simp only [hnil, ne_eq, not_true_eq_false, ↓reduceIte, Option.map_none]
  · simp only [hnil, ne_eq, not_false_eq_true, ↓reduceIte, Option.map_some, cellsOf_float]

theorem values_rowOf {cells : Entries String Binary64} (hname : ∀ e ∈ cells, e.1 ≠ nameKey)
    (primary : String) :
    (rowOf primary (cells.map fun e => (e.1, .float e.2))).values = cells.map (·.2) := by
  have hcells : (cells.map fun e => (e.1, Json.float e.2)).filterMap (fun
      | (key, .float x) => if key = nameKey then none else some x
      | _ => none) = cells.map (·.2) := by
    rw [List.filterMap_map, ← List.filterMap_eq_map]
    apply List.filterMap_congr
    intro e he
    simp only [Function.comp_apply, hname e he, ↓reduceIte]
  exact hcells

end Pivot

end PromptChart
