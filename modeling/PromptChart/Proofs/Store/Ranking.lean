import Mathlib.Algebra.BigOperators.Ring.Finset
import Mathlib.Data.Int.ConditionallyCompleteOrder
import Mathlib.Data.List.Sort
import Mathlib.Order.ConditionallyCompleteLattice.Basic
import Mathlib.Order.WithBot
import PromptChart.Catalog.Freight
import PromptChart.Proofs.Binary64.Rank
import PromptChart.Proofs.Order.Stable
import PromptChart.Proofs.Store.Reading

namespace PromptChart

/-- The place of a row's value. No value stands before all numbers. -/
def PartialRow.place (row : PartialRow) : WithBot Int :=
  match row.value.bind (·.rank) with
  | none => ⊥
  | some n => n

theorem PartialRow.place_of_none {row : PartialRow} (h : row.value = none) : row.place = ⊥ := by
  rw [place, h]
  rfl

theorem PartialRow.place_of_rank {row : PartialRow} {x : Binary64} {n : Int}
    (h : row.value = some x) (hx : x.rank = some n) : row.place = n := by
  rw [place, h, Option.bind_some, hx]

namespace Memory

def recordKey (request : Request) (record : Json) : List String :=
  request.grouping.fields.map (keyText record)

/-- The key that a row shows; a name that is missing is the empty text. -/
def rowKey (request : Request) (row : PartialRow) : List String :=
  match request.grouping with
  | .single _ => [row.label.getD ""]
  | .pair .. => [row.primary.getD "", row.secondary.getD ""]

def groupOf (request : Request) (records : List Json) (row : PartialRow) : List Json :=
  records.filter (recordKey request · = rowKey request row)

def firstSeen (request : Request) (records : List Json) (row : PartialRow) : Nat :=
  records.findIdx (recordKey request · = rowKey request row)

/-- Is one value at most another? No value is at most every value. -/
def valueLe : Option Binary64 → Option Binary64 → Bool
  | none, _ => true
  | some _, none => false
  | some x, some y => x.le y

/-- Are the rows the whole answer out of some records? -/
structure IsAnswer (request : Request) (records : List Json)
    (rows : List PartialRow) : Prop where
  /-- No two rows show the same key, and the keys that are shown are those of the records. -/
  nodup : (rows.map (rowKey request)).Nodup
  mem_keys_iff : ∀ key, key ∈ rows.map (rowKey request) ↔ key ∈ records.map (recordKey request)
  counted :
      ∀ record ∈ records, ∃! row, row ∈ rows ∧ rowKey request row = recordKey request record
  count_eq : ∀ row ∈ rows, row.count = (groupOf request records row).length
  sum_counts : (rows.map (·.count)).sum = records.length
  value_eq : ∀ row ∈ rows, row.value =
    reduce request.aggregation (groupOf request records row).length
      (numbers request.metric (groupOf request records row))
  descending : rows.Pairwise fun a b => valueLe b.value a.value = true
  firstSeen_lt : rows.Pairwise fun a b => valueLe a.value b.value = true →
    firstSeen request records a < firstSeen request records b

/-- Is the metric of every record null or a finite number? -/
def HasFinite (name : String) (records : List Json) : Prop :=
  ∀ record ∈ records, ((record.get name).isNull || (record.get name).number?.any (·.isFinite)) =
    true

variable {request : Request} {records : List Json} {a b : PartialRow}

theorem HasFinite.null_or_finite {name : String} (h : HasFinite name records) {record : Json}
    (hrecord : record ∈ records) :
    (record.get name).isNull = true ∨
      ∃ x, (record.get name).number? = some x ∧ x.isFinite = true := by
  have hfinite := h record hrecord
  rw [Bool.or_eq_true, Option.any_eq_true] at hfinite
  exact hfinite

section Values

variable {xs : List Binary64} {x : Binary64}

theorem total_ne_nan (h : ∀ x ∈ xs, x.isFinite = true) : total xs ≠ .nan :=
  List.foldlRecOn (motive := fun acc : Binary64 => acc ≠ .nan) xs _ (Binary64.ofInt_ne_nan 0)
    fun _ hacc x hx => Binary64.add_ne_nan hacc (h x hx)

theorem extremum_isFinite {rest : List Binary64} {op : Binary64 → Binary64 → Binary64}
    (hop : ∀ a b, op a b = a ∨ op a b = b) (h : ∀ y ∈ x :: rest, y.isFinite = true) :
    (rest.foldl op x).isFinite = true := by
  refine List.foldlRecOn (motive := fun acc => acc.isFinite = true) rest op
    (h x (.head rest)) ?_
  intro acc hacc y hy
  rcases hop acc y with he | he
  · rw [he]
    exact hacc
  · rw [he]
    exact h y (.tail _ hy)

theorem min_or (a b : Binary64) : Arithmetic.min a b = a ∨ Arithmetic.min a b = b := by
  rw [Arithmetic.min]
  split
  · exact .inr rfl
  · exact .inl rfl

theorem max_or (a b : Binary64) : Arithmetic.max a b = a ∨ Arithmetic.max a b = b := by
  rw [Arithmetic.max]
  split
  · exact .inr rfl
  · exact .inl rfl

theorem reduce_ne_nan {kind : Aggregation} {count : Nat} (h : ∀ x ∈ xs, x.isFinite = true)
    (hlength : kind = .avg → (Binary64.ofInt xs.length).isFinite = true)
    (hx : reduce kind count xs = some x) :
    x ≠ .nan := by
  cases kind with
  | count =>
    cases hx
    exact Binary64.ofInt_ne_nan _
  | sum =>
    cases xs with
    | nil => cases hx
    | cons y rest =>
      cases hx
      exact total_ne_nan h
  | avg =>
    cases xs with
    | nil => cases hx
    | cons y rest =>
      cases hx
      exact Binary64.div_ofInt_ne_nan (total_ne_nan h) (Nat.succ_pos _) (hlength rfl)
  | min =>
    cases xs with
    | nil => cases hx
    | cons y rest =>
      cases hx
      exact Binary64.ne_nan_of_isFinite (extremum_isFinite min_or h)
  | max =>
    cases xs with
    | nil => cases hx
    | cons y rest =>
      cases hx
      exact Binary64.ne_nan_of_isFinite (extremum_isFinite max_or h)

end Values

section Places

variable (ha : ∀ x, a.value = some x → x ≠ .nan) (hb : ∀ x, b.value = some x → x ≠ .nan)

include ha hb

theorem rowLess_iff : rowLess a b = true ↔ a.place < b.place := by
  cases hav : a.value with
  | none =>
    cases hbv : b.value with
    | none => simp [rowLess, hav, hbv, PartialRow.place_of_none]
    | some y =>
      obtain ⟨n, hn⟩ := Binary64.exists_rank (hb y hbv)
      simp [rowLess, hav, hbv, PartialRow.place_of_none hav, PartialRow.place_of_rank hbv hn]
  | some x =>
    obtain ⟨m, hm⟩ := Binary64.exists_rank (ha x hav)
    cases hbv : b.value with
    | none => simp [rowLess, hav, hbv, PartialRow.place_of_none hbv]
    | some y =>
      obtain ⟨n, hn⟩ := Binary64.exists_rank (hb y hbv)
      rw [PartialRow.place_of_rank hav hm, PartialRow.place_of_rank hbv hn, WithBot.coe_lt_coe,
        rowLess, hav, hbv]
      change x.lt y = true ↔ _
      rw [Binary64.lt_of_rank hm hn, decide_eq_true_iff]

theorem valueLe_iff : valueLe a.value b.value = true ↔ a.place ≤ b.place := by
  cases hav : a.value with
  | none => simp [valueLe, PartialRow.place_of_none hav]
  | some x =>
    obtain ⟨m, hm⟩ := Binary64.exists_rank (ha x hav)
    cases hbv : b.value with
    | none => simp [valueLe, PartialRow.place_of_rank hav hm, PartialRow.place_of_none hbv]
    | some y =>
      obtain ⟨n, hn⟩ := Binary64.exists_rank (hb y hbv)
      rw [PartialRow.place_of_rank hav hm, PartialRow.place_of_rank hbv hn, WithBot.coe_le_coe,
        valueLe, Binary64.le, hm, hn, decide_eq_true_iff]

end Places

theorem getD_name? (part : String) : (name? part).getD "" = part := by
  rw [name?]
  split
  next h => exact (String.isEmpty_iff.1 h).symm
  · rfl

theorem rowKey_rowWith {kind : Aggregation} {key : List String} {count : Nat}
    {xs : List Binary64} (h : key.length = request.grouping.fields.length) :
    rowKey request (rowWith kind key count xs) = key := by
  cases hgrouping : request.grouping with
  | single field =>
    rw [hgrouping] at h
    obtain ⟨part, rfl⟩ := List.length_eq_one_iff.1 h
    simp only [rowKey, hgrouping, rowWith, List.headD_cons, getD_name?]
  | pair primary secondary =>
    rw [hgrouping] at h
    obtain ⟨first, second, rfl⟩ := List.length_eq_two.1 h
    simp only [rowKey, hgrouping, rowWith, getD_name?]

theorem value_rowWith (kind : Aggregation) (key : List String) (count : Nat)
    (xs : List Binary64) :
    (rowWith kind key count xs).value = reduce kind count xs ∧
      (rowWith kind key count xs).count = count := by
  match key with
  | [] => exact ⟨rfl, rfl⟩
  | [_] => exact ⟨rfl, rfl⟩
  | [_, _] => exact ⟨rfl, rfl⟩
  | _ :: _ :: _ :: _ => exact ⟨rfl, rfl⟩

def rowsOf (request : Request) (records : List Json) : List PartialRow :=
  (grouped request.grouping.fields records).map (rowOf request)

def rowOfKey (request : Request) (records : List Json) (key : List String) : PartialRow :=
  rowOf request (key, records.filter (recordKey request · = key))

theorem rowsOf_eq_map (request : Request) (records : List Json) :
    rowsOf request records =
      (Text.distinct (records.map (recordKey request))).map (rowOfKey request records) := by
  rw [rowsOf, grouped, Entries.gather_eq_tabulate, Entries.tabulate, List.map_map]
  rfl

theorem rowKey_rowOfKey {key : List String} (h : key ∈ records.map (recordKey request)) :
    rowKey request (rowOfKey request records key) = key := by
  obtain ⟨record, -, rfl⟩ := List.mem_map.1 h
  exact rowKey_rowWith (List.length_map _)

theorem map_rowKey_rowsOf (request : Request) (records : List Json) :
    (rowsOf request records).map (rowKey request) =
      Text.distinct (records.map (recordKey request)) := by
  rw [rowsOf_eq_map, List.map_map]
  refine (List.map_congr_left fun key hkey => ?_).trans (List.map_id _)
  exact rowKey_rowOfKey (Text.mem_distinct.1 hkey)

theorem mem_rowsOf {row : PartialRow} (h : row ∈ rowsOf request records) :
    row = rowOfKey request records (rowKey request row) := by
  rw [rowsOf_eq_map] at h
  obtain ⟨key, hkey, rfl⟩ := List.mem_map.1 h
  rw [rowKey_rowOfKey (Text.mem_distinct.1 hkey)]

theorem value_of_mem_rowsOf {row : PartialRow} (h : row ∈ rowsOf request records) :
    row.value = reduce request.aggregation (groupOf request records row).length
      (numbers request.metric (groupOf request records row)) := by
  conv_lhs => rw [mem_rowsOf h]
  exact (value_rowWith ..).1

theorem count_of_mem_rowsOf {row : PartialRow} (h : row ∈ rowsOf request records) :
    row.count = (groupOf request records row).length := by
  conv_lhs => rw [mem_rowsOf h]
  exact (value_rowWith ..).2

theorem sum_count_rowsOf (request : Request) (records : List Json) :
    ((rowsOf request records).map (·.count)).sum = records.length := by
  have hcounts : (rowsOf request records).map (·.count) =
      (grouped request.grouping.fields records).map fun e => (e.2.length : Int) := by
    rw [rowsOf, List.map_map]
    exact List.map_congr_left fun e _ => (value_rowWith ..).2
  have hperm :=
    flatMap_perm_of_grouped (List.Perm.refl (grouped request.grouping.fields records))
  rw [hcounts, ← hperm.length_eq, List.length_flatMap, Nat.cast_list_sum, List.map_map]
  rfl

theorem firstSeen_rowsOf (request : Request) (records : List Json) :
    (rowsOf request records).Pairwise fun a b =>
      firstSeen request records a < firstSeen request records b := by
  have hkeys := Text.distinct_pairwise_findIdx (recordKey request) records
  rw [← map_rowKey_rowsOf, List.pairwise_map] at hkeys
  exact hkeys

section Answer

variable (hread : HasFinite request.metric records)
  (hlong : request.aggregation = .avg → (Binary64.ofInt records.length).isFinite = true)

include hread hlong

theorem value_ne_nan {row : PartialRow} (hrow : row ∈ rowsOf request records) :
    ∀ x, row.value = some x → x ≠ .nan := by
  intro x hx
  rw [value_of_mem_rowsOf hrow] at hx
  refine reduce_ne_nan ?_ ?_ hx
  · intro y hy
    obtain ⟨r, hr, hy⟩ := List.mem_filterMap.1 hy
    obtain hnull | ⟨z, hz, hfinite⟩ := hread.null_or_finite (List.mem_filter.1 hr).1
    · cases (number?_of_isNull hnull).symm.trans hy
    · cases hz.symm.trans hy
      exact hfinite
  · intro havg
    apply Binary64.isFinite_ofInt_of_le _ (hlong havg)
    exact (List.length_filterMap_le _ _).trans (List.length_filter_le _ _)

theorem goesBy_place :
    Order.GoesBy rowLess PartialRow.place (rowsOf request records).reverse := by
  intro a ha b hb
  exact rowLess_iff (value_ne_nan hread hlong (List.mem_reverse.1 ha))
    (value_ne_nan hread hlong (List.mem_reverse.1 hb))

theorem isAnswer_ordered : IsAnswer request records (ordered (rowsOf request records)) := by
  have hperm := ordered_perm (rowsOf request records)
  have hkeys : ((ordered (rowsOf request records)).map (rowKey request)).Perm
      (Text.distinct (records.map (recordKey request))) := by
    rw [← map_rowKey_rowsOf]
    exact hperm.map _
  have hnodup := hkeys.nodup_iff.2 (Text.nodup_distinct _)
  have hmem : ∀ row, row ∈ ordered (rowsOf request records) ↔ row ∈ rowsOf request records :=
    fun _ => hperm.mem_iff
  have hvalue : ∀ row ∈ ordered (rowsOf request records), ∀ x, row.value = some x → x ≠ .nan :=
    fun row hrow => value_ne_nan hread hlong ((hmem row).1 hrow)
  -- The rows are reversed, sorted stably and reversed back, so that ties end up in their old
  -- order.
  have hgoes := goesBy_place hread hlong
  have hsorted := List.pairwise_reverse.2 (Order.sort_pairwise hgoes)
  constructor
  · exact hnodup
  · intro key
    rw [hkeys.mem_iff, Text.mem_distinct]
  · intro record hrecord
    obtain ⟨row, hrow, hkey⟩ : ∃ row ∈ ordered (rowsOf request records),
        rowKey request row = recordKey request record := by
      rw [← List.mem_map, hkeys.mem_iff, Text.mem_distinct]
      exact List.mem_map_of_mem hrecord
    refine ⟨row, ⟨hrow, hkey⟩, ?_⟩
    rintro other ⟨hother, hsame⟩
    exact List.inj_on_of_nodup_map hnodup hother hrow (hsame.trans hkey.symm)
  · intro row hrow
    exact count_of_mem_rowsOf ((hmem row).1 hrow)
  · rw [(hperm.map _).sum_eq, sum_count_rowsOf]
  · intro row hrow
    exact value_of_mem_rowsOf ((hmem row).1 hrow)
  · refine hsorted.imp_of_mem fun ha hb hle => ?_
    exact (valueLe_iff (hvalue _ hb) (hvalue _ ha)).2 hle
  · have hties := List.pairwise_reverse.2
      (Order.sort_pairwise_of_key hgoes
        (List.pairwise_reverse.2 (firstSeen_rowsOf request records)))
    refine (hsorted.and hties).imp_of_mem fun ha hb hboth hle => hboth.2 ?_
    exact hboth.1.antisymm ((valueLe_iff (hvalue _ ha) (hvalue _ hb)).1 hle)

end Answer

/-- Where no filter of a request overflows on a record of the scope, and the metric of those
that match is null or a finite number, the store has one row for every group, in falling order
of the values, and returns as many of them as the limit allows. (An average divides by how many
numbers there are; no list in memory is so long that this is beyond every number.) -/
theorem exists_isAnswer (c : Catalog) (tables : Tables) (request : Request) (scope : Scope)
    {table : List Json} (htable : tables.get? request.table = some table) (h : IsTable table)
    (hfilters : ∀ r ∈ table,
      owns scope r = true → tripsAny (scopedFilters c scope request.filters) r = false)
    (hread : HasFinite request.metric
      (matching scope (scopedFilters c scope request.filters) table))
    (hlong : request.aggregation = .avg → (Binary64.ofInt
      (matching scope (scopedFilters c scope request.filters) table).length).isFinite = true) :
    let records := matching scope (scopedFilters c scope request.filters) table
    ∃ rows, allRows c table request scope = .ok rows ∧ IsAnswer request records rows ∧
      store c tables request scope = .ok (rows.take request.limit) ∧
      (rows.take request.limit).length =
        min request.limit (Text.distinct (records.map (recordKey request))).length ∧
      ∀ kept ∈ rows.take request.limit, ∀ dropped ∈ rows.drop request.limit,
        valueLe dropped.value kept.value = true := by
  intro records
  have hrecords : IsTable records := h.mono (List.filter_subset_self _)
  have hnone :
      (table.any fun r => owns scope r && tripsAny (scopedFilters c scope request.filters) r) =
        false := by
    apply List.any_eq_false.2
    intro r hr hboth
    obtain ⟨howns, htrips⟩ := Bool.and_eq_true_iff.1 hboth
    cases htrips.symm.trans (hfilters r hr howns)
  have hselect : select scope (scopedFilters c scope request.filters) table = .ok records := by
    rw [select_eq_matching _ h, hnone]
    rfl
  have hrow : ∀ e ∈ grouped request.grouping.fields records,
      row request e.1 e.2 = .ok (rowOf request e) := by
    intro e he
    apply row_eq_rowOf (isTable_of_mem_grouped hrecords he)
    intro r hr
    rw [isUnread_eq_false_iff]
    exact (hread.null_or_finite (Entries.mem_of_mem_gather he hr)).imp_right fun ⟨x, hx, _⟩ =>
      ⟨x, hx⟩
  have hanswer := isAnswer_ordered hread hlong
  refine ⟨ordered (rowsOf request records), allRows_eq_ok_of_rows hselect hrecords hrow,
    hanswer, store_eq_ok_of_rows htable hselect hrecords hrow, ?_, ?_⟩
  · have hlength := (ordered_perm (rowsOf request records)).length_eq
    rw [List.length_take, hlength, ← map_rowKey_rowsOf, List.length_map]
  · have hdescending := hanswer.descending
    rw [← List.take_append_drop request.limit (ordered (rowsOf request records)),
      List.pairwise_append] at hdescending
    exact hdescending.2.2

def shipmentOf (carrier retail mode : Json) : Json :=
  .object [("carrier_name", carrier), ("retail", retail), ("mode_name", mode)]

def carrierShipments : List Json :=
  [shipmentOf (.text "Saia") (.int 5) (.text "LTL"), shipmentOf .null (.int 7) (.text "LTL"),
    shipmentOf (.text "") (.int 3) (.text "LTL"), shipmentOf (.text "XPO") .null (.text "LTL"),
    shipmentOf (.text "Roadie") (.text "unknown") (.text "FTL")]

def carrierRequest : Request where
  table := "shipment"
  grouping := .single "carrier_name"
  metric := "retail"
  aggregation := .avg
  filters := [⟨"mode_name", .eq, .text "LTL", false⟩]
  limit := 2
  limit_pos := by decide

theorem isTable_carrierShipments : IsTable carrierShipments := by
  intro r hr
  simp only [carrierShipments, List.mem_cons, List.not_mem_nil, or_false] at hr
  rcases hr with rfl | rfl | rfl | rfl | rfl <;> exact ⟨_, rfl⟩

theorem exists_isAnswer_carriers :
    let filters := scopedFilters .freight .admin carrierRequest.filters
    let records := matching .admin filters carrierShipments
    (IsTable carrierShipments ∧
      (∀ r ∈ carrierShipments, owns .admin r = true → tripsAny filters r = false) ∧
      HasFinite "retail" records ∧ (Binary64.ofInt records.length).isFinite = true) ∧
    (∃ rows, IsAnswer carrierRequest records rows ∧
      store .freight [("shipment", carrierShipments)] carrierRequest .admin =
        .ok (rows.take 2)) ∧
    store .freight [("shipment", carrierShipments)] carrierRequest .admin =
      .ok [⟨none, none, some "Saia", some (5 : Binary64), 1⟩,
        ⟨none, none, none, some 5, 2⟩] := by
  intro filters records
  have hfilters :
      ∀ r ∈ carrierShipments, owns .admin r = true → tripsAny filters r = false := by
    decide +kernel
  have hread : HasFinite "retail" records := by
    unfold HasFinite
    decide +kernel
  have hlong : (Binary64.ofInt records.length).isFinite = true := by decide +kernel
  obtain ⟨rows, -, hanswer, hstore, -, -⟩ :=
    exists_isAnswer .freight [("shipment", carrierShipments)] carrierRequest
    .admin rfl isTable_carrierShipments hfilters hread fun _ => hlong
  exact ⟨⟨isTable_carrierShipments, hfilters, hread, hlong⟩,
    ⟨rows, hanswer, hstore⟩, by decide +kernel⟩

end Memory

end PromptChart
