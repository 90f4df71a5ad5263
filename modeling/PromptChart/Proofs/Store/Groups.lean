import PromptChart.Proofs.Entries
import PromptChart.Proofs.Order.Stable
import PromptChart.Proofs.Store.Selection

namespace PromptChart.Memory

def integers (name : String) (records : List Json) : List Int :=
  records.filterMap fun r => match r.get name with
    | .int n => some n
    | _ => none

/-- Is a field null or an integer in all records? -/
def HasIntegers (name : String) (records : List Json) : Prop :=
  ∀ record ∈ records, record.get name = .null ∨ ∃ n, record.get name = .int n

def texts (name : String) (records : List Json) : List String :=
  Text.distinct (records.map fun r => (r.get name).plain)

/-- A part of the key of a record; null is the empty text. -/
def keyText (record : Json) (name : String) : String :=
  match record.get name with
  | .null => ""
  | v => v.plain

def grouped (fields : List String) (records : List Json) : Entries (List String) (List Json) :=
  Entries.gather (fun r => fields.map (keyText r)) records

variable {ν : Type} [Arithmetic ν] {records : List Json} {metric : String}

def groupRow (kind : Aggregation) (metric : String) (e : List String × List Json) :
    PartialRow ν :=
  ⟨none, none, name? (e.1.headD ""),
    reduce kind e.2.length ((integers metric e.2).map Arithmetic.ofInt), e.2.length⟩

def pairRow (kind : Aggregation) (metric : String) (e : List String × List Json) :
    PartialRow ν :=
  { (groupRow kind metric e : PartialRow ν) with
    primary := name? (e.1.headD "")
    secondary := name? (e.1.getD 1 "")
    label := none }

theorem integers_sublist (name : String) {one other : List Json} (h : one.Sublist other) :
    (integers name one).Sublist (integers name other) :=
  h.filterMap _

theorem integers_perm (name : String) {one other : List Json} (h : one.Perm other) :
    (integers name one).Perm (integers name other) :=
  h.filterMap _

theorem integers_append (name : String) (one other : List Json) :
    integers name (one ++ other) = integers name one ++ integers name other :=
  List.filterMap_append

theorem integers_flatMap (name : String) (gs : Entries (List String) (List Json)) :
    integers name (gs.flatMap (·.2)) = gs.flatMap fun e => integers name e.2 :=
  List.filterMap_flatMap ..

theorem flatMap_perm_of_grouped {fields : List String} {gs : Entries (List String) (List Json)}
    {records : List Json} (h : gs.Perm (grouped fields records)) :
    (gs.flatMap (·.2)).Perm records :=
  (h.flatMap_right (·.2)).trans (Entries.gather_flatMap_perm _ records)

theorem IsTable.mono {some : List Json} (h : IsTable records) (hsome : some ⊆ records) :
    IsTable some :=
  fun r hr => h r (hsome hr)

theorem HasIntegers.mono {some : List Json} (h : HasIntegers metric records)
    (hsome : some ⊆ records) :
    HasIntegers metric some :=
  fun r hr => h r (hsome hr)

theorem ordered_perm (rows : List (PartialRow ν)) : (ordered rows).Perm rows := by
  rw [ordered]
  exact (List.reverse_perm _).trans ((Order.sort_perm _ _).trans (List.reverse_perm rows))

theorem groups_eq_ok (fields : List String) (h : IsTable records) :
    groups fields records = .ok (grouped fields records) := by
  apply foldlM_eq_ok_foldl
  intro acc record hrecord
  obtain ⟨members, rfl⟩ := h record hrecord
  have hkey :
      fields.mapM (keyPart (.object members)) =
        .ok (fields.map (keyText (.object members))) := by
    apply mapM_eq_ok_map
    intro name hname
    rw [keyPart, field_object, ok_bind, keyText]
    cases (Json.object members).get name <;> rfl
  rw [hkey, ok_bind, pure_eq_ok]

theorem values_eq_ok (h : IsTable records) (hint : HasIntegers metric records)
    (hread : ∀ n ∈ integers metric records,
      Arithmetic.read (.int n) = .ok (Arithmetic.ofInt n : ν)) :
    values metric records =
      .ok ((integers metric records).map (Arithmetic.ofInt (ν := ν))) := by
  induction records with
  | nil => rfl
  | cons record rest ih =>
    obtain ⟨members, rfl⟩ := h record (.head rest)
    have htail : IsTable rest := h.mono (List.subset_cons_self _ _)
    have htailint : HasIntegers metric rest := hint.mono (List.subset_cons_self _ _)
    rw [values, field_object, ok_bind]
    obtain hnull | ⟨n, hn⟩ := hint _ (.head rest)
    · have hskip : integers metric (.object members :: rest) = integers metric rest := by
        simp only [integers, List.filterMap_cons, hnull]
      rw [hskip] at hread ⊢
      rw [hnull]
      exact ih htail htailint hread
    · have hcons : integers metric (.object members :: rest) = n :: integers metric rest := by
        simp only [integers, List.filterMap_cons, hn]
      rw [hcons] at hread ⊢
      rw [hn]
      dsimp only
      rw [hread n (.head _), ok_bind, ih htail htailint (fun m hm => hread m (.tail n hm)),
        ok_bind, pure_eq_ok, List.map_cons]

theorem row_eq_ok {request : Request} {e : List String × List Json}
    (hkey : e.1.length = 1) (h : IsTable e.2) (hint : HasIntegers request.metric e.2)
    (hread : ∀ n ∈ integers request.metric e.2,
      Arithmetic.read (.int n) = .ok (Arithmetic.ofInt n : ν)) :
    row request e.1 e.2 = .ok (groupRow (ν := ν) request.aggregation request.metric e) := by
  obtain ⟨key, members⟩ := e
  obtain ⟨part, rfl⟩ := List.length_eq_one_iff.1 hkey
  rw [row, values_eq_ok h hint hread, ok_bind]
  rfl

theorem row_pair_eq_ok {request : Request} {e : List String × List Json}
    (hkey : e.1.length = 2) (h : IsTable e.2) (hint : HasIntegers request.metric e.2)
    (hread : ∀ n ∈ integers request.metric e.2,
      Arithmetic.read (.int n) = .ok (Arithmetic.ofInt n : ν)) :
    row request e.1 e.2 = .ok (pairRow (ν := ν) request.aggregation request.metric e) := by
  obtain ⟨key, members⟩ := e
  obtain ⟨primary, secondary, rfl⟩ := List.length_eq_two.1 hkey
  rw [row, values_eq_ok h hint hread, ok_bind]
  rfl

theorem length_key_of_mem_grouped {fields : List String} {e : List String × List Json}
    (he : e ∈ grouped fields records) : e.1.length = fields.length := by
  rw [grouped, Entries.gather_eq_tabulate] at he
  obtain ⟨k, hk, rfl⟩ := List.mem_map.1 he
  obtain ⟨r, -, rfl⟩ := List.mem_map.1 (Text.mem_distinct.1 hk)
  exact List.length_map _

variable {c : Catalog} {tables : Tables} {request : Request} {scope : Scope} {table : List Json}
  {name : String}

theorem allRows_eq_ok_of_rows {rowOf : List String × List Json → PartialRow ν}
    (hselect : select scope (scopedFilters c scope request.filters) table = .ok records)
    (h : IsTable records)
    (hrow : ∀ e ∈ grouped request.grouping.fields records,
      row request e.1 e.2 = .ok (rowOf e)) :
    allRows c table request scope =
      .ok (ordered ((grouped request.grouping.fields records).map rowOf)) := by
  rw [allRows, hselect, ok_bind, groups_eq_ok _ h, ok_bind,
    mapM_eq_ok_map (fun e he => hrow e he), ok_bind, pure_eq_ok]

theorem store_eq_ok_of_rows {rowOf : List String × List Json → PartialRow ν}
    (htable : tables.get? request.table = some table)
    (hselect : select scope (scopedFilters c scope request.filters) table = .ok records)
    (h : IsTable records)
    (hrow : ∀ e ∈ grouped request.grouping.fields records,
      row request e.1 e.2 = .ok (rowOf e)) :
    store c tables request scope =
      .ok ((ordered ((grouped request.grouping.fields records).map rowOf)).take
        request.limit) := by
  simp only [store, htable, allRows_eq_ok_of_rows hselect h hrow, ok_bind, pure_eq_ok]

/-- The store's answer on a field that is grouped by: one row for every group, as many as the
limit allows. -/
theorem store_eq_ok (htable : tables.get? request.table = some table)
    (hgrouping : request.grouping = .single name)
    (hselect : select scope (scopedFilters c scope request.filters) table = .ok records)
    (h : IsTable records) (hint : HasIntegers request.metric records)
    (hread : ∀ n ∈ integers request.metric records,
      Arithmetic.read (.int n) = .ok (Arithmetic.ofInt n : ν)) :
    (store c tables request scope : Except Failure (List (PartialRow ν))) =
      .ok ((ordered ((grouped [name] records).map
        (groupRow request.aggregation request.metric))).take request.limit) := by
  have hfields : request.grouping.fields = [name] := by rw [hgrouping, Grouping.fields]
  rw [← hfields]
  apply store_eq_ok_of_rows htable hselect h
  intro e he
  have hsub : e.2 ⊆ records := fun r hr => Entries.mem_of_mem_gather he hr
  apply row_eq_ok (by rw [length_key_of_mem_grouped he, hfields]; rfl) (h.mono hsub)
    (hint.mono hsub)
  exact fun n hn => hread n (List.filterMap_subset _ hsub hn)

theorem store_pair_eq_ok {primary secondary : String}
    (htable : tables.get? request.table = some table)
    (hgrouping : request.grouping = .pair primary secondary)
    (hselect : select scope (scopedFilters c scope request.filters) table = .ok records)
    (h : IsTable records) (hint : HasIntegers request.metric records)
    (hread : ∀ n ∈ integers request.metric records,
      Arithmetic.read (.int n) = .ok (Arithmetic.ofInt n : ν)) :
    (store c tables request scope : Except Failure (List (PartialRow ν))) =
      .ok ((ordered ((grouped [primary, secondary] records).map
        (pairRow request.aggregation request.metric))).take request.limit) := by
  have hfields : request.grouping.fields = [primary, secondary] := by
    rw [hgrouping, Grouping.fields]
  rw [← hfields]
  apply store_eq_ok_of_rows htable hselect h
  intro e he
  have hsub : e.2 ⊆ records := fun r hr => Entries.mem_of_mem_gather he hr
  apply row_pair_eq_ok (by rw [length_key_of_mem_grouped he, hfields]; rfl) (h.mono hsub)
    (hint.mono hsub)
  exact fun n hn => hread n (List.filterMap_subset _ hsub hn)

theorem length_grouped (hnull : ∀ r ∈ records, (r.get name).isNull = false) :
    (grouped [name] records).length = (texts name records).length := by
  have hkeys : records.map (fun r => [name].map (keyText r)) =
      (records.map fun r => (r.get name).plain).map ([·]) := by
    rw [List.map_map]
    apply List.map_congr_left
    intro r hr
    have hr := hnull r hr
    rw [List.map_cons, List.map_nil, Function.comp_apply, keyText]
    cases hj : r.get name with
    | null =>
      rw [hj] at hr
      cases hr
    | _ => rfl
  rw [grouped, Entries.length_gather, hkeys, Text.distinct_map (List.singleton_injective),
    List.length_map, texts]

theorem length_grouped_le_pair (primary secondary : String) (records : List Json) :
    (grouped [primary] records).length ≤ (grouped [primary, secondary] records).length := by
  have hkeys : records.map (fun r => [primary].map (keyText r)) =
      (records.map fun r => [primary, secondary].map (keyText r)).map (List.take 1) := by
    rw [List.map_map]
    rfl
  rw [grouped, grouped, Entries.length_gather, Entries.length_gather, hkeys]
  exact Text.length_distinct_map_le _ _

end PromptChart.Memory
