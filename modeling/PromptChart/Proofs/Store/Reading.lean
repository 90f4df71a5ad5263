import PromptChart.Proofs.Execute.Failure
import PromptChart.Proofs.Store.Filtering
import PromptChart.Proofs.Store.Groups

namespace PromptChart.Memory

def numbers (name : String) (records : List Json) : List Binary64 :=
  records.filterMap (·.get name |>.number?)

def isUnread (name : String) (record : Json) : Bool :=
  !(record.get name).isNull && (record.get name).number?.isNone

def isObstacle (c : Catalog) (request : Request) (scope : Scope) (record : Json) : Bool :=
  let filters := scopedFilters c scope request.filters
  owns scope record &&
    (tripsAny filters record || (holdsAll filters record && isUnread request.metric record))

/-- Is there no way to answer a request, although its table is there? -/
def IsBlocked (c : Catalog) (tables : Tables) (request : Request) (scope : Scope) : Prop :=
  ∃ records, tables.get? request.table = some records ∧
    ∃ r ∈ records, isObstacle c request scope r = true

def rowWith (kind : Aggregation) (key : List String) (count : Nat) (xs : List Binary64) :
    PartialRow :=
  match key with
  | [primary, secondary] => ⟨name? primary, name? secondary, none, reduce kind count xs, count⟩
  | key => ⟨none, none, name? (key.headD ""), reduce kind count xs, count⟩

def rowOf (request : Request) (e : List String × List Json) : PartialRow :=
  rowWith request.aggregation e.1 e.2.length (numbers request.metric e.2)

variable {c : Catalog} {tables : Tables} {request : Request} {scope : Scope} {record : Json}
  {records : List Json} {members : List (String × Json)} {name : String}

theorem number?_eq_some {j : Json} {x : Binary64} : j.number? = some x ↔ j.number = .ok x := by
  rw [Json.number?]
  cases j.number <;> simp [Except.toOption]

theorem number?_of_isNull {j : Json} (h : j.isNull = true) : j.number? = none := by
  cases j with
  | null => rfl
  | _ => cases h

theorem failsOnly_number (j : Json) : FailsOnly (·.isFatal = true) j.number := by
  cases j with
  | int n =>
    exact (Binary64.failsOnly_ofInt? n).mono fun _ h => Failure.IsNumeric.isFatal (.inl h)
  | text s =>
    rw [Json.number]
    split
    · exact failsOnly_ok _
    · exact failsOnly_error rfl
  | bool => exact failsOnly_ok _
  | float => exact failsOnly_ok _
  | _ => exact failsOnly_error rfl

theorem isUnread_eq_false_iff : isUnread name record = false ↔
    (record.get name).isNull = true ∨ ∃ x, (record.get name).number? = some x := by
  rw [isUnread, Bool.and_eq_false_iff, Bool.not_eq_false', Option.isNone_eq_false_iff,
    Option.isSome_iff_exists]

theorem values_cons_of_isNull (rest : List Json)
    (h : ((Json.object members).get name).isNull = true) :
    (values name (.object members :: rest) : Except Failure (List Binary64)) =
      values name rest := by
  rw [values, field_object, ok_bind]
  cases hfield : (Json.object members).get name with
  | null => rfl
  | _ =>
    rw [hfield] at h
    cases h

theorem values_cons_of_not_isNull (rest : List Json)
    (h : ((Json.object members).get name).isNull = false) :
    values name (.object members :: rest) =
      ((Json.object members).get name).number >>= fun x => (x :: ·) <$> values name rest := by
  rw [values, field_object, ok_bind]
  cases hfield : (Json.object members).get name with
  | null =>
    rw [hfield] at h
    cases h
  | _ => rfl

theorem values_eq_numbers (h : IsTable records)
    (hread : ∀ r ∈ records, isUnread name r = false) :
    values name records = .ok (numbers name records) := by
  induction records with
  | nil => rfl
  | cons record rest ih =>
    obtain ⟨⟨members, rfl⟩, hrest⟩ := List.forall_mem_cons.1 h
    obtain ⟨hrecord, hlater⟩ := List.forall_mem_cons.1 hread
    rw [numbers, List.filterMap_cons]
    cases hnull : ((Json.object members).get name).isNull with
    | true =>
      rw [values_cons_of_isNull rest hnull, ih hrest hlater, number?_of_isNull hnull]
      rfl
    | false =>
      obtain hnull' | ⟨x, hx⟩ := isUnread_eq_false_iff.1 hrecord
      · cases hnull.symm.trans hnull'
      · rw [values_cons_of_not_isNull rest hnull, number?_eq_some.1 hx, ok_bind,
          ih hrest hlater, hx]
        rfl

theorem exists_values_iff (h : IsTable records) :
    (∃ xs : List Binary64, values name records = .ok xs) ↔
      ∀ r ∈ records, isUnread name r = false := by
  constructor
  · intro hvalues
    induction records with
    | nil => exact nofun
    | cons record rest ih =>
      obtain ⟨⟨members, rfl⟩, hrest⟩ := List.forall_mem_cons.1 h
      rw [List.forall_mem_cons, isUnread_eq_false_iff]
      cases hnull : ((Json.object members).get name).isNull with
      | true =>
        rw [values_cons_of_isNull rest hnull] at hvalues
        exact ⟨.inl rfl, ih hrest hvalues⟩
      | false =>
        obtain ⟨xs, hxs⟩ := hvalues
        rw [values_cons_of_not_isNull rest hnull] at hxs
        obtain ⟨x, hx, hxs⟩ := bind_eq_ok.1 hxs
        obtain ⟨later, hlater, -⟩ := map_eq_ok.1 hxs
        exact ⟨.inr ⟨x, number?_eq_some.2 hx⟩, ih hrest ⟨later, hlater⟩⟩
  · exact fun hread => ⟨_, values_eq_numbers h hread⟩

theorem failsOnly_values (h : IsTable records) :
    FailsOnly (·.isFatal = true) (values name records : Except Failure (List Binary64)) := by
  induction records with
  | nil => exact failsOnly_ok []
  | cons record rest ih =>
    obtain ⟨⟨members, rfl⟩, hrest⟩ := List.forall_mem_cons.1 h
    cases hnull : ((Json.object members).get name).isNull with
    | true =>
      rw [values_cons_of_isNull rest hnull]
      exact ih hrest
    | false =>
      rw [values_cons_of_not_isNull rest hnull]
      exact (failsOnly_number _).bind fun x _ => (ih hrest).map _

theorem row_eq_map (request : Request) (key : List String) (group : List Json) :
    row request key group = rowWith request.aggregation key group.length <$>
      values request.metric group := by
  rw [row]
  cases (values request.metric group : Except Failure (List Binary64)) with
  | error f => rfl
  | ok xs =>
    rcases key with _ | ⟨first, _ | ⟨second, _ | ⟨third, rest⟩⟩⟩ <;> rfl

theorem row_eq_rowOf {e : List String × List Json} (h : IsTable e.2)
    (hread : ∀ r ∈ e.2, isUnread request.metric r = false) :
    row request e.1 e.2 = .ok (rowOf request e) := by
  rw [row_eq_map, values_eq_numbers h hread]
  rfl

theorem isTable_of_mem_grouped {fields : List String} (h : IsTable records)
    {e : List String × List Json} (he : e ∈ grouped fields records) : IsTable e.2 :=
  h.mono fun _ hr => Entries.mem_of_mem_gather he hr

theorem forall_mem_grouped (fields : List String) {p : Json → Prop} :
    (∀ e ∈ grouped fields records, ∀ r ∈ e.2, p r) ↔ ∀ r ∈ records, p r := by
  have hperm := flatMap_perm_of_grouped (List.Perm.refl (grouped fields records))
  constructor
  · intro h r hr
    obtain ⟨e, he, hr⟩ := List.mem_flatMap.1 (hperm.mem_iff.2 hr)
    exact h e he r hr
  · exact fun h e he r hr => h r (Entries.mem_of_mem_gather he hr)

/-- The rows of groups can be made exactly if the metric can be read in all of their records. -/
theorem exists_rows_iff (request : Request) (fields : List String) (h : IsTable records) :
    (∃ rows : List PartialRow,
      ((grouped fields records).mapM fun e => row request e.1 e.2) = .ok rows) ↔
      ∀ r ∈ records, isUnread request.metric r = false := by
  rw [exists_mapM_iff, ← forall_mem_grouped fields]
  refine forall₂_congr fun e he => ?_
  rw [row_eq_map, exists_map_eq_ok]
  exact exists_values_iff (isTable_of_mem_grouped h he)

theorem isObstacle_eq_false_iff :
    isObstacle c request scope record = false ↔ (owns scope record = true →
    tripsAny (scopedFilters c scope request.filters) record = false ∧
      (holdsAll (scopedFilters c scope request.filters) record = true →
        isUnread request.metric record = false)) := by
  rw [isObstacle, Bool.and_eq_false_iff, Bool.or_eq_false_iff, Bool.and_eq_false_iff,
    ← Bool.not_eq_true (owns _ _), ← Bool.not_eq_true (holdsAll _ _), ← imp_iff_not_or,
    ← imp_iff_not_or]

theorem mem_matching {filters : List Filter} : record ∈ matching scope filters records ↔
    record ∈ records ∧ owns scope record = true ∧ holdsAll filters record = true := by
  rw [matching, List.mem_filter, Bool.and_eq_true]

theorem exists_allRows_iff (h : IsTable records) :
    (∃ rows : List PartialRow, allRows c records request scope = .ok rows) ↔
      ∀ r ∈ records, isObstacle c request scope r = false := by
  simp only [isObstacle_eq_false_iff]
  rw [allRows, select_eq_matching _ h]
  cases htrips : records.any
    fun r => owns scope r && tripsAny (scopedFilters c scope request.filters) r with
  | true =>
    obtain ⟨r, hr, htrips⟩ := List.any_eq_true.1 htrips
    obtain ⟨howns, htrips⟩ := Bool.and_eq_true_iff.1 htrips
    constructor
    · rintro ⟨rows, hrows⟩
      cases hrows
    · intro hfree
      cases htrips.symm.trans (hfree r hr howns).1
  | false =>
    have hkept : IsTable (matching scope (scopedFilters c scope request.filters) records) :=
      h.mono (List.filter_subset_self _)
    have hnone : ∀ r ∈ records, owns scope r = true →
        tripsAny (scopedFilters c scope request.filters) r = false := by
      intro r hr howns
      have hr := List.any_eq_false.1 htrips r hr
      rwa [howns, Bool.true_and, Bool.not_eq_true] at hr
    have hrows := exists_rows_iff request request.grouping.fields hkept
    simp only [Bool.false_eq_true, ↓reduceIte, ok_bind, groups_eq_ok _ hkept, pure_eq_ok]
    constructor
    · rintro ⟨rows, h⟩ r hr howns
      obtain ⟨made, hmade, -⟩ := bind_eq_ok.1 h
      exact ⟨hnone r hr howns,
        fun hholds => hrows.1 ⟨made, hmade⟩ r (mem_matching.2 ⟨hr, howns, hholds⟩)⟩
    · intro hfree
      obtain ⟨made, hmade⟩ := hrows.2 fun r hr => by
        obtain ⟨hr, howns, hholds⟩ := mem_matching.1 hr
        exact (hfree r hr howns).2 hholds
      exact ⟨ordered made, by rw [hmade, ok_bind]⟩

theorem failsOnly_allRows (h : IsTable records) :
    FailsOnly (·.isFatal = true)
      (allRows c records request scope : Except Failure (List PartialRow)) := by
  have hkept : IsTable (matching scope (scopedFilters c scope request.filters) records) :=
    h.mono (List.filter_subset_self _)
  rw [allRows, select_eq_matching _ h]
  split
  · exact failsOnly_error rfl
  · rw [ok_bind, groups_eq_ok _ hkept, ok_bind]
    refine (failsOnly_mapM fun e he => ?_).bind fun rows _ => failsOnly_ok (ordered rows)
    dsimp only
    rw [row_eq_map]
    exact (failsOnly_values (isTable_of_mem_grouped hkept he)).map _

section

variable (htables : ∀ e ∈ tables, IsTable e.2)

include htables

theorem isTable_of_get? (htable : tables.get? request.table = some records) : IsTable records :=
  htables _ (Entries.mem_of_get? htable)

theorem store_of_isBlocked (h : IsBlocked c tables request scope) :
    ∃ f, (store c tables request scope : Except Failure (List PartialRow)) = .error f ∧
      f.isFatal = true := by
  obtain ⟨records, htable, r, hr, hobstacle⟩ := h
  have hrecords := isTable_of_get? htables htable
  simp only [store, htable]
  cases hrows : (allRows c records request scope : Except Failure (List PartialRow)) with
  | ok rows =>
    have hfree := exists_allRows_iff hrecords |>.1 ⟨rows, hrows⟩ r hr
    cases hobstacle.symm.trans hfree
  | error f => exact ⟨f, rfl, failsOnly_allRows hrecords f hrows⟩

theorem failsOnly_store (h : ¬ IsBlocked c tables request scope) :
    FailsOnly (· = .query request.table "unknown table")
      (store c tables request scope : Except Failure (List PartialRow)) := by
  unfold store
  cases htable : tables.get? request.table with
  | none => exact failsOnly_error rfl
  | some records =>
    have hfree : ∀ r ∈ records, isObstacle c request scope r = false := by
      intro r hr
      apply Bool.eq_false_iff.2
      intro hobstacle
      exact h ⟨records, htable, r, hr, hobstacle⟩
    obtain ⟨rows, hrows⟩ := (exists_allRows_iff (isTable_of_get? htables htable)).2 hfree
    simp only [hrows, ok_bind]
    exact failsOnly_ok _

end

end PromptChart.Memory
