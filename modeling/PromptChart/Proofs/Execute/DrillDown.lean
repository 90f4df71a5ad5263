import PromptChart.Proofs.Execute.Exact
import PromptChart.Proofs.Json.Display
import PromptChart.Proofs.Merge.Pivot
import PromptChart.Proofs.Store.Parts

namespace PromptChart

theorem PartialRow.pairKey_relabel {term : String} (hterm : term ≠ "") (row : PartialRow) :
    (row.relabel term).pairKey = (term, row.pairKey.2) := by
  have hname : nonempty? (some term) = some term := by
    rw [nonempty?, Option.filter_some, if_pos]
    rw [Bool.not_eq_true', Bool.eq_false_iff, Ne, String.isEmpty_iff]
    exact hterm
  have hsecond : nonempty? (some ((nonempty? row.secondary).getD unknownGroup)) =
      some ((nonempty? row.secondary).getD unknownGroup) := by
    cases hs : nonempty? row.secondary with
    | none => rfl
    | some name =>
      obtain ⟨-, hne⟩ := Option.filter_eq_some_iff.1 hs
      rw [Option.getD_some, nonempty?, Option.filter_some, if_pos hne]
  rw [pairKey, relabel, hname, hsecond]
  rfl

theorem Merger.mergeRows_relabel {kind : Aggregation} {term : String} {rows : List PartialRow}
    (hterm : term ≠ "") (hcount : ∀ row ∈ rows, row.count ≠ 0) :
    mergeRows kind (fun row => row.pairKey.2) [rows.map (.relabel term)] =
      mergeRows kind (fun row => row.pairKey.2) [rows] := by
  apply mergeRows_map
  intro row hrow
  rw [PartialRow.pairKey_relabel hterm]
  -- Only a count of zero would be replaced.
  exact ⟨rfl, rfl, if_neg (hcount row hrow)⟩

theorem PartialRow.filter_relabelled {terms : List String} (rows : String → List PartialRow)
    (hterms : terms.Nodup) (hempty : ∀ t ∈ terms, t ≠ "") (term : String) :
    (terms.map fun t => (rows t).map (PartialRow.relabel t)).flatten.filter
      (fun row => row.pairKey.1 = term) =
      if term ∈ terms then (rows term).map (PartialRow.relabel term) else [] := by
  induction terms with
  | nil => rfl
  | cons t rest ih =>
    obtain ⟨hnew, hrest⟩ := List.nodup_cons.1 hterms
    obtain ⟨ht, hothers⟩ := List.forall_mem_cons.1 hempty
    have hkey (row : PartialRow) : (row.relabel t).pairKey.1 = t := by rw [pairKey_relabel ht]
    rw [List.map_cons, List.flatten_cons, List.filter_append, ih hrest hothers, List.filter_map]
    by_cases he : t = term
    · subst he
      rw [if_neg hnew, if_pos (.head rest), List.append_nil, List.filter_eq_self.2]
      intro row _
      exact decide_eq_true (hkey row)
    · have hmem : term ∈ t :: rest ↔ term ∈ rest := by
        rw [List.mem_cons, or_iff_right (Ne.symm he)]
      have hnone :
          (rows t).filter ((fun row => decide (row.pairKey.1 = term)) ∘ PartialRow.relabel t) =
            [] := by
        rw [List.filter_eq_nil_iff]
        intro row _
        rw [Function.comp_apply, hkey, decide_eq_true_eq]
        exact he
      rw [hnone, List.map_nil, List.nil_append, if_congr hmem rfl rfl]

theorem Memory.secondaryName_ne {primary field : String} {records : List Json}
    {e : List String × List Json} (he : e ∈ Memory.grouped [primary, field] records)
    (hvalues : ∀ r ∈ records, r.get field ≠ .text Pivot.nameKey) :
    Memory.secondaryName e ≠ Pivot.nameKey := by
  obtain ⟨r, hr, hkey⟩ : ∃ r ∈ records, [keyText r primary, keyText r field] = e.1 := by
    rw [grouped, Entries.gather_eq_tabulate] at he
    obtain ⟨k, hk, rfl⟩ := List.mem_map.1 he
    exact List.mem_map.1 (Text.mem_distinct.1 hk)
  have htext : keyText r field ≠ Pivot.nameKey := by
    intro htext
    have hplain : (r.get field).plain = Pivot.nameKey := by
      rw [keyText] at htext
      split at htext
      · exact absurd htext (by decide)
      · exact htext
    have hvalue := Json.eq_text_of_plain (j := r.get field) (by rw [hplain]; rfl)
    rw [hplain] at hvalue
    exact hvalues r hr hvalue
  rw [secondaryName, ← hkey, List.getD_cons_succ, List.getD_cons_zero, name?]
  split
  · exact fun h => absurd h (by decide)
  · rw [PartialRow.nonempty?, Option.filter_some]
    split
    · exact htext
    · exact fun h => absurd h (by decide)

namespace Comparison

variable {x : Comparison} {s : Settings} {tables : Tables} {scope : Scope}
  {range : Option DateRange} {secondary metric : String} {records : List Json}

def drillDown (x : Comparison) (secondary metric : String) : Breakdown :=
  ⟨Catalog.freight.textField, secondary, metric, x.aggregation, x.terms⟩

/-- The request for a term asks for both fields, and looks at the day before the term. -/
def drillRequest (x : Comparison) (s : Settings) (range : Option DateRange)
    (secondary metric term : String) : Request :=
  { x.termRequest s range metric term with
    grouping := .pair Catalog.freight.textField secondary
    filters := DateRange.filters .freight range ++ [Filter.ofTerm .freight term] }

def pairRows (x : Comparison) (s : Settings) (secondary metric : String) (records : List Json) :
    List PartialRow :=
  (Memory.ordered ((Memory.grouped [Catalog.freight.textField, secondary] records).map
    (Memory.pairRow x.aggregation metric))).take s.categoryLimit.toNat

/-- Can the drill-down be answered? The limit allows requests, and no record of the scope has an
integer beyond every number where the range looks for its day. -/
structure Drillable (s : Settings) (scope : Scope) (range : Option DateRange)
    (records : List Json) : Prop where
  limit_pos : 0 < s.categoryLimit
  hasHugeDate_eq_false : ∀ r ∈ records, Memory.hasHugeDate .freight scope range r = false

/-- The values in the row of a term come together to the value of its point; there is a row
exactly if there is a point. -/
structure Agree (kind : Aggregation) (term : String) (points : List Point)
    (g : Grouped) : Prop where
  combine_eq : (g.row? term).bind (fun row => combine kind.op row.values) =
    (points.find? (·.label = term)).map (·.value)
  isSome_eq : (g.row? term).isSome = (points.find? (·.label = term)).isSome

/-- Do the cells of records under a second field come together to what the records come to
without it? -/
def PartsAgree (x : Comparison) (s : Settings) (secondary metric : String)
    (records : List Json) : Prop :=
  ∃ value? cells, Merger.batchValue x.aggregation (x.termRows s metric records) = .ok value? ∧
    mergeRows x.aggregation (fun row => row.pairKey.2) [x.pairRows s secondary metric records] =
      .ok cells ∧
    combine x.aggregation.op (cells.map (·.2)) = value?.map Arithmetic.roundCents

theorem Drillable.answerable (h : Drillable s scope range records) :
    x.Answerable s scope range records where
  limit_pos _ := h.limit_pos
  hasHugeDay_eq_false t _ r hr := by
    have hdate := h.hasHugeDate_eq_false r hr
    rw [Memory.hasHugeDate] at hdate
    rw [Memory.hasHugeDay, Bool.and_assoc, Bool.and_left_comm, hdate, Bool.and_false]

theorem scopedFilters_range_term (term : String) :
    scopedFilters .freight scope
      (DateRange.filters .freight range ++ [Filter.ofTerm .freight term]) =
      DateRange.filters .freight range ++ [Filter.ofTerm .freight term] := by
  rw [scopedFilters_append, Memory.scopedFilters_ofTerm textField_not_restricted,
    Memory.scopedFilters_range dateField_not_restricted]

theorem isPerTerm_drillDown (hterms : x.terms ≠ []) :
    (x.drillDown secondary metric).isPerTerm .freight = true := by
  simp only [Breakdown.isPerTerm, drillDown, decide_true, Bool.and_true, Bool.not_eq_true',
    List.isEmpty_eq_false_iff]
  exact hterms

theorem table_drillDown :
    (x.drillDown secondary metric).table .freight = .ok "shipment_item" := by
  simp only [Breakdown.table, drillDown, decide_true, Bool.true_or, ↓reduceIte]
  rfl

theorem OverIntegers.plan_drillDown (h : x.OverIntegers s tables scope range metric records)
    (hterms : x.terms ≠ []) (hlimit : 0 < s.categoryLimit) :
    (x.drillDown secondary metric).plan .freight s range =
      .ok (.perTerm (Entries.tabulate x.terms (x.drillRequest s range secondary metric))) := by
  have hmax : max 1 s.categoryLimit.toNat = s.categoryLimit.toNat := by omega
  simp only [Breakdown.plan, table_drillDown, ok_bind, isPerTerm_drillDown hterms, ↓reduceIte]
  rw [Plan.forTerms_of_forall (r := x.drillRequest s range secondary metric)]
  · have hdistinct : Text.distinct (x.drillDown secondary metric).terms = x.terms :=
      Text.distinct_of_nodup h.terms_nodup
    rw [hdistinct]
    rfl
  · intro t _
    simp only [Request.make_of_pos hlimit, drillRequest, termRequest, hmax]
    rfl

theorem limit_pos_of_drillDown {plan : Plan} (hterms : x.terms ≠ [])
    (h : (x.drillDown secondary metric).plan .freight s range = .ok plan) :
    0 < s.categoryLimit := by
  obtain ⟨table, -, ⟨-, es, -, hes⟩ | ⟨hper, -⟩⟩ := Breakdown.plan_cases h
  · obtain ⟨t, ht⟩ := List.exists_mem_of_ne_nil _ hterms
    obtain ⟨e, -, -, hmake⟩ := Plan.exists_mem_of_forTerms hes ht
    exact (Request.make_eq_ok hmake).1
  · rw [isPerTerm_drillDown hterms] at hper
    cases hper

theorem OverIntegers.store_drillRequest (h : x.OverIntegers s tables scope range metric records)
    (hx : Drillable s scope range records) {term : String} (hterm : term ∈ x.terms)
    (hread : ∀ n ∈
      Memory.integers metric (Memory.termRecords .freight scope range term records),
      Arithmetic.read (.int n) = .ok (Arithmetic.ofInt n : Binary64)) :
    Memory.store .freight tables (x.drillRequest s range secondary metric term) scope =
      .ok (x.pairRows s secondary metric
        (Memory.termRecords .freight scope range term records)) := by
  have hpos := hx.limit_pos
  have hmax : max 1 s.categoryLimit.toNat = s.categoryLimit.toNat := by omega
  have hhuge : records.any (Memory.hasHugeDate .freight scope range) = false :=
    List.any_eq_false.2 fun r hr => Bool.eq_false_iff.1 (hx.hasHugeDate_eq_false r hr)
  rw [pairRows, ← hmax]
  apply Memory.store_pair_eq_ok h.table_eq rfl
  · rw [drillRequest, scopedFilters_range_term, Memory.select_range_term h.isTable, hhuge]
    rfl
  · exact h.isTable.mono (List.filter_subset_self _)
  · exact h.hasIntegers term hterm
  · exact hread

theorem OverIntegers.store_drillRequest_of_huge
    (h : x.OverIntegers s tables scope range metric records)
    (hhuge : records.any (Memory.hasHugeDate .freight scope range) = true) (term : String) :
    (Memory.store .freight tables (x.drillRequest s range secondary metric term) scope :
      Except Failure (List PartialRow)) = .error .tooLarge := by
  have hselect : Memory.select scope (scopedFilters .freight scope
      (DateRange.filters .freight range ++ [Filter.ofTerm .freight term])) records =
      .error .tooLarge := by
    rw [scopedFilters_range_term, Memory.select_range_term h.isTable, hhuge]
    rfl
  simp only [Memory.store, drillRequest, termRequest, h.table_eq, Memory.allRows, hselect,
    error_bind]

def drillBatches (x : Comparison) (s : Settings) (scope : Scope) (range : Option DateRange)
    (secondary metric : String) (records : List Json) : List (List PartialRow) :=
  x.terms.map fun t =>
    (x.pairRows s secondary metric (Memory.termRecords .freight scope range t records)).map
      (.relabel t)

theorem OverIntegers.run_drillDown (h : x.OverIntegers s tables scope range metric records)
    (hterms : x.terms ≠ []) (hx : Drillable s scope range records)
    (hread : ∀ t ∈ x.terms,
      ∀ n ∈ Memory.integers metric (Memory.termRecords .freight scope range t records),
      Arithmetic.read (.int n) = .ok (Arithmetic.ofInt n : Binary64)) :
    ((x.drillDown secondary metric).run .freight s (Memory.store .freight tables)
      scope range).result =
      (x.drillDown secondary metric).merge (x.drillBatches s scope range secondary
        metric records) := by
  have hcollect := collect_eq_ok (fun _ request => Memory.store .freight tables request scope)
    (x.drillRequest s range secondary metric)
    fun t ht => h.store_drillRequest hx ht (hread t ht)
  have hrelabelled :
      (x.drillDown secondary metric).relabelled (Entries.tabulate x.terms fun t =>
      x.pairRows s secondary metric (Memory.termRecords .freight scope range t records)) =
        x.drillBatches s scope range secondary metric records := by
    apply List.map_congr_left
    intro t ht
    have ht : t ∈ x.terms := ht
    rw [Entries.get?_tabulate, if_pos ht, Option.getD_some]
  simp only [Breakdown.run, h.plan_drillDown hterms hx.limit_pos, Breakdown.answer, hcollect,
    ok_bind, hrelabelled]

/-- A day that cannot be compared fails the whole drill-down, whether its record has a term or
not. -/
theorem OverIntegers.run_drillDown_of_huge
    (h : x.OverIntegers s tables scope range metric records) (hterms : x.terms ≠ [])
    (hlimit : 0 < s.categoryLimit)
    (hhuge : records.any (Memory.hasHugeDate .freight scope range) = true) :
    ((x.drillDown secondary metric).run .freight s (Memory.store .freight tables)
      scope range).result = .error .tooLarge := by
  have hstore (t : String) :
      Memory.store .freight tables (x.drillRequest s range secondary metric t) scope =
      (.error .tooLarge : Except Failure (List PartialRow)) :=
    h.store_drillRequest_of_huge hhuge t
  obtain ⟨t, ht⟩ := List.exists_mem_of_ne_nil _ hterms
  have hcollect :=
    collect_of_tooLarge
      (fun _ request => Memory.store (ν := Binary64) .freight tables request scope)
    (x.drillRequest s range secondary metric) (fun t _ => .inr (hstore t)) ⟨t, ht, hstore t⟩
  simp only [Breakdown.run, h.plan_drillDown hterms hlimit, Breakdown.answer, hcollect,
    error_bind]

theorem OverIntegers.drillable (h : x.OverIntegers s tables scope range metric records)
    (hterms : x.terms ≠ []) {g : Grouped}
    (hresult : ((x.drillDown secondary metric).run .freight s (Memory.store .freight tables)
      scope range).result = .ok g) : Drillable s scope range records := by
  obtain ⟨plan, hplan, -⟩ := Breakdown.exists_plan_of_run hresult
  have hlimit := limit_pos_of_drillDown hterms hplan
  refine ⟨hlimit, fun r hr => ?_⟩
  by_contra hhuge
  have hany : records.any (Memory.hasHugeDate .freight scope range) = true :=
    List.any_eq_true.2 ⟨r, hr, Bool.eq_true_of_not_eq_false hhuge⟩
  rw [h.run_drillDown_of_huge hterms hlimit hany] at hresult
  cases hresult

theorem exists_pairRows_eq (x : Comparison) (s : Settings) (secondary metric : String)
    (records : List Json) :
    ∃ gs : Entries (List String) (List Json),
      gs.Perm (Memory.grouped [Catalog.freight.textField, secondary] records) ∧
      x.pairRows s secondary metric records =
        (gs.take s.categoryLimit.toNat).map (Memory.pairRow x.aggregation metric) :=
  Memory.exists_take_ordered_eq _ _ _

theorem exists_group_of_mem_pairRows {row : PartialRow}
    (hrow : row ∈ x.pairRows s secondary metric records) :
    ∃ e ∈ Memory.grouped [Catalog.freight.textField, secondary] records,
      row = Memory.pairRow x.aggregation metric e := by
  obtain ⟨e, he, rfl⟩ :=
    List.mem_map.1 ((Memory.ordered_perm _).mem_iff.1 (List.mem_of_mem_take hrow))
  exact ⟨e, he, rfl⟩

theorem count_ne_zero_of_mem_pairRows {row : PartialRow}
    (hrow : row ∈ x.pairRows s secondary metric records) :
    row.count ≠ 0 := by
  obtain ⟨e, he, rfl⟩ := exists_group_of_mem_pairRows hrow
  have hpos := List.length_pos_iff.2 (Entries.ne_nil_of_mem_gather he)
  change (e.2.length : Int) ≠ 0
  omega

theorem secondary_ne_of_mem_pairRows {row : PartialRow}
    (hrow : row ∈ x.pairRows s secondary metric records)
    (hvalues : ∀ r ∈ records, r.get secondary ≠ .text Pivot.nameKey) :
    row.pairKey.2 ≠ Pivot.nameKey := by
  obtain ⟨e, he, rfl⟩ := exists_group_of_mem_pairRows hrow
  exact Memory.secondaryName_ne he hvalues

theorem mergeRows_filter_drillBatches (hnodup : x.terms.Nodup) (hempty : ∀ t ∈ x.terms, t ≠ "")
    {term : String} (hterm : term ∈ x.terms) :
    mergeRows x.aggregation (fun row => row.pairKey.2)
      [(x.drillBatches s scope range secondary metric records).flatten.filter fun row =>
        row.pairKey.1 = term] = mergeRows x.aggregation (fun row => row.pairKey.2)
          [x.pairRows s secondary metric
            (Memory.termRecords .freight scope range term records)] := by
  rw [drillBatches, PartialRow.filter_relabelled _ hnodup hempty, if_pos hterm,
    Merger.mergeRows_relabel (hempty term hterm)
      fun row hrow => count_ne_zero_of_mem_pairRows hrow]

theorem exists_merge_drillBatches (hnodup : x.terms.Nodup) (hempty : ∀ t ∈ x.terms, t ≠ "")
    (hcells : ∀ t ∈ x.terms, ∃ cells, mergeRows x.aggregation (fun row => row.pairKey.2)
      [x.pairRows s secondary metric (Memory.termRecords .freight scope range t records)] =
      .ok cells) :
    ∃ g, (x.drillDown secondary metric).merge (x.drillBatches s scope range secondary
      metric records) = .ok g := by
  have hall : ∃ es, mergeRows x.aggregation PartialRow.pairKey
      (x.drillBatches s scope range secondary metric records) = .ok es := by
    rw [Merger.exists_mergeRows_fst_iff]
    intro term
    by_cases hterm : term ∈ x.terms
    · rw [mergeRows_filter_drillBatches hnodup hempty hterm]
      exact hcells term hterm
    · rw [drillBatches, PartialRow.filter_relabelled _ hnodup hempty, if_neg hterm]
      exact ⟨[], rfl⟩
  obtain ⟨es, hes⟩ := hall
  exact ⟨_, map_eq_ok.2 ⟨es, hes, rfl⟩⟩

theorem exists_cells_of_merge (hnodup : x.terms.Nodup) (hempty : ∀ t ∈ x.terms, t ≠ "")
    (hvalues : ∀ r ∈ records, r.get secondary ≠ .text Pivot.nameKey) {g : Grouped}
    (h : (x.drillDown secondary metric).merge (x.drillBatches s scope range secondary
      metric records) = .ok g)
    {term : String} (hterm : term ∈ x.terms) :
    ∃ cells, mergeRows x.aggregation (fun row => row.pairKey.2)
        [x.pairRows s secondary metric (Memory.termRecords .freight scope range term records)] =
        .ok cells ∧
      (g.row? term).map (·.values) = if cells = [] then none else some (cells.map (·.2)) := by
  obtain ⟨es, hes, rfl⟩ := map_eq_ok.1 h
  -- A cell under the key of the name would take the place of the name.
  have hname : ∀ e ∈ es, e.1.2 ≠ Pivot.nameKey := by
    intro e he
    obtain ⟨row, hrow, hkey⟩ := Merger.exists_row_of_mem_mergeRows hes he
    obtain ⟨batch, hbatch, hrow⟩ := List.mem_flatten.1 hrow
    obtain ⟨t, ht, rfl⟩ := List.mem_map.1 hbatch
    obtain ⟨own, hown, rfl⟩ := List.mem_map.1 hrow
    rw [← hkey, PartialRow.pairKey_relabel (hempty t ht)]
    exact secondary_ne_of_mem_pairRows hown fun r hr => hvalues r (List.mem_of_mem_filter hr)
  have hcells : ∀ e ∈ Pivot.cellsOf term es, e.1 ≠ Pivot.nameKey := by
    intro e he
    obtain ⟨cell, hcell, rfl⟩ := List.mem_map.1 he
    exact hname cell (List.mem_of_mem_filter hcell)
  refine ⟨Pivot.cellsOf term es, ?_, ?_⟩
  · rw [← mergeRows_filter_drillBatches hnodup hempty hterm]
    exact Merger.mergeRows_fst hes term
  · rw [Pivot.row?_ofMerged _ (Merger.nodup_keys_mergeRows hes) hname]
    split
    · rfl
    · rw [Option.map_some, Pivot.values_rowOf hcells]

theorem agree_iff {kind : Aggregation} {points : List Point} {g : Grouped} {term : String}
    {cells : Entries String Binary64} {value? : Option Binary64}
    (hrow : (g.row? term).map (·.values) = if cells = [] then none else some (cells.map (·.2)))
    (hpoint : (points.find? (·.label = term)).map (·.value) = value?) :
    Agree kind term points g ↔ combine kind.op (cells.map (·.2)) = value? := by
  have hcombine : (g.row? term).bind (fun row => combine kind.op row.values) =
      combine kind.op (cells.map (·.2)) := by
    have hmap : (g.row? term).bind (fun row => combine kind.op row.values) =
        ((g.row? term).map (·.values)).bind (combine kind.op) := by
      cases g.row? term <;> rfl
    rw [hmap, hrow]
    cases cells <;> rfl
  have hsome : (g.row? term).isSome = (combine kind.op (cells.map (·.2))).isSome := by
    rw [← Option.isSome_map, hrow]
    cases cells <;> rfl
  constructor
  · intro h
    rw [← hcombine, h.combine_eq, hpoint]
  · intro h
    refine ⟨?_, ?_⟩
    · rw [hcombine, h, hpoint]
    · rw [hsome, h, ← hpoint, Option.isSome_map]

/-- Where both runs have an outcome, a term has its parts agree exactly if the outcomes agree on
it. -/
theorem OverIntegers.agree_iff_partsAgree
    (h : x.OverIntegers s tables scope range metric records) (havg : x.aggregation ≠ .avg)
    (hempty : ∀ t ∈ x.terms, t ≠ "")
    (hvalues : ∀ r ∈ records, r.get secondary ≠ .text Pivot.nameKey)
    (hx : Drillable s scope range records)
    (hread : ∀ t ∈ x.terms,
      ∀ n ∈ Memory.integers metric (Memory.termRecords .freight scope range t records),
      Arithmetic.read (.int n) = .ok (Arithmetic.ofInt n : Binary64)) {points : List Point}
      {g : Grouped}
    (hpoints : (x.run .freight s (Memory.store .freight tables) scope range metric).result =
      .ok points)
    (hg : ((x.drillDown secondary metric).run .freight s (Memory.store .freight tables)
      scope range).result = .ok g)
    {term : String} (hterm : term ∈ x.terms) :
    Agree x.aggregation term points g ↔
      x.PartsAgree s secondary metric
        (Memory.termRecords .freight scope range term records) := by
  choose! values hbatch using h.exists_batchValue havg hx.answerable hread hpoints
  rw [h.run_eq_ok hx.answerable hread hbatch] at hpoints
  obtain rfl := Except.ok.inj hpoints
  rw [h.run_drillDown (List.ne_nil_of_mem hterm) hx hread] at hg
  obtain ⟨cells, hcells, hrow⟩ := exists_cells_of_merge h.terms_nodup hempty hvalues hg hterm
  have hpoint :
      ((x.terms.filterMap fun t =>
        ((values t).map Arithmetic.roundCents).map (Point.mk t)).find?
      (·.label = term)).map (·.value) = (values term).map Arithmetic.roundCents := by
    rw [find?_filterMap_label _ h.terms_nodup hterm, Option.map_map]
    exact Option.map_id_apply
  rw [agree_iff hrow hpoint]
  constructor
  · intro hcombine
    exact ⟨values term, cells, hbatch term hterm, hcells, hcombine⟩
  · rintro ⟨value?, cells', hvalue, hcells', hcombine⟩
    rw [hbatch term hterm] at hvalue
    rw [hcells] at hcells'
    cases hvalue
    cases hcells'
    exact hcombine

theorem partsAgree (havg : x.aggregation ≠ .avg)
    (hnull : ∀ r ∈ records, (r.get Catalog.freight.textField).isNull = false)
    (hlimit : ((Memory.grouped [Catalog.freight.textField, secondary] records).length : Int) ≤
      s.categoryLimit)
    (hlength : x.aggregation = .count → records.length < 2 ^ 53)
    (hbound : ((Memory.integers metric records).map Int.natAbs).sum < 2 ^ 53) :
    x.PartsAgree s secondary metric records := by
  have htexts : ((Memory.texts Catalog.freight.textField records).length : Int) ≤
      s.categoryLimit := by
    rw [← Memory.length_grouped hnull]
    have hle := Memory.length_grouped_le_pair Catalog.freight.textField secondary records
    omega
  obtain ⟨gs, hgs, hrows⟩ := exists_pairRows_eq x s secondary metric records
  have htake : gs.take s.categoryLimit.toNat = gs := by
    have hperm := hgs.length_eq
    apply List.take_of_length_le
    omega
  have hperm := Memory.flatMap_perm_of_grouped hgs
  have hints := Memory.integers_perm metric hperm
  have hne : ∀ e ∈ gs, e.2 ≠ [] := fun e he => Entries.ne_nil_of_mem_gather (hgs.mem_iff.1 he)
  obtain ⟨cells, hcells, hcombine⟩ := Memory.exists_mergeRows_pairRow havg hne
    (by rw [hperm.length_eq]; exact hlength)
    (by rw [(hints.map Int.natAbs).sum_nat]; exact hbound)
  refine ⟨_, cells, batchValue_termRows havg hnull htexts hlength hbound, ?_, ?_⟩
  · rw [hrows, htake]
    exact hcells
  · rw [hcombine, hperm.length_eq, Aggregation.exact_perm hints]
    exact (roundCents_exact hlength hbound).symm

/-- A drill-down agrees with its comparison on every term, exactly if it can be answered and the
parts of every term agree. -/
theorem exists_agree_iff (h : x.OverIntegers s tables scope range metric records)
    (havg : x.aggregation ≠ .avg) (hempty : ∀ t ∈ x.terms, t ≠ "")
    (hvalues : ∀ r ∈ records, r.get secondary ≠ .text Pivot.nameKey)
    (hread : ∀ t ∈ x.terms,
      ∀ n ∈ Memory.integers metric (Memory.termRecords .freight scope range t records),
      Arithmetic.read (.int n) = .ok (Arithmetic.ofInt n : Binary64)) :
    (∀ t ∈ x.terms, ∃ points g,
        (x.run .freight s (Memory.store .freight tables) scope range metric).result =
          .ok points ∧
        ((x.drillDown secondary metric).run .freight s (Memory.store .freight tables)
          scope range).result = .ok g ∧
        Agree x.aggregation t points g) ↔
      (x.terms ≠ [] → Drillable s scope range records) ∧
        ∀ t ∈ x.terms,
          x.PartsAgree s secondary metric
            (Memory.termRecords .freight scope range t records) := by
  constructor
  · intro hruns
    have hx : x.terms ≠ [] → Drillable s scope range records := by
      intro hterms
      obtain ⟨t, ht⟩ := List.exists_mem_of_ne_nil _ hterms
      obtain ⟨points, g, -, hg, -⟩ := hruns t ht
      exact h.drillable hterms hg
    refine ⟨hx, fun t ht => ?_⟩
    obtain ⟨points, g, hpoints, hg, hagree⟩ := hruns t ht
    exact (h.agree_iff_partsAgree havg hempty hvalues (hx (List.ne_nil_of_mem ht)) hread
      hpoints hg ht).1 hagree
  · rintro ⟨hx, hparts⟩ t ht
    have hterms := List.ne_nil_of_mem ht
    have hx := hx hterms
    have hbatch : ∀ t ∈ x.terms, ∃ value?, Merger.batchValue x.aggregation
        (x.termRows s metric (Memory.termRecords .freight scope range t records)) =
        .ok value? :=
      fun t ht => (hparts t ht).imp fun _ ⟨_, hvalue, _⟩ => hvalue
    have hcells : ∀ t ∈ x.terms, ∃ cells, mergeRows x.aggregation (fun row => row.pairKey.2)
        [x.pairRows s secondary metric (Memory.termRecords .freight scope range t records)] =
        .ok cells :=
      fun t ht => (hparts t ht).elim fun _ ⟨cells, _, hcells, _⟩ => ⟨cells, hcells⟩
    choose! values hbatch using hbatch
    have hpoints := h.run_eq_ok hx.answerable hread hbatch
    obtain ⟨g, hg⟩ := exists_merge_drillBatches h.terms_nodup hempty hcells
    rw [← h.run_drillDown hterms hx hread] at hg
    exact ⟨_, g, hpoints, hg,
      (h.agree_iff_partsAgree havg hempty hvalues hx hread hpoints hg ht).2 (hparts t ht)⟩

/-- A drill-down agrees with its comparison, exactly if no day of the scope is beyond comparing
and the parts of a count of more records than numbers can tell apart agree. -/
theorem drillDown_agrees_iff (h : x.OverIntegers s tables scope range metric records)
    (havg : x.aggregation ≠ .avg) (hempty : ∀ t ∈ x.terms, t ≠ "")
    (hvalues : ∀ r ∈ records, r.get secondary ≠ .text Pivot.nameKey)
    (hbound : ∀ t ∈ x.terms, ((Memory.integers metric
      (Memory.termRecords .freight scope range t records)).map Int.natAbs).sum < 10 ^ 15)
    (hlimit : ∀ t ∈ x.terms, ((Memory.grouped [Catalog.freight.textField, secondary]
      (Memory.termRecords .freight scope range t records)).length : Int) ≤ s.categoryLimit) :
    (∀ t ∈ x.terms, ∃ points g,
        (x.run .freight s (Memory.store .freight tables) scope range metric).result =
          .ok points ∧
        ((x.drillDown secondary metric).run .freight s (Memory.store .freight tables)
          scope range).result = .ok g ∧
        Agree x.aggregation t points g) ↔
      (x.terms ≠ [] → Drillable s scope range records) ∧
        ∀ t ∈ x.terms,
          let own := Memory.termRecords .freight scope range t records
          x.aggregation = .count →
            2 ^ 53 ≤ own.length → x.PartsAgree s secondary metric own := by
  have hbound (t : String) (ht : t ∈ x.terms) : ((Memory.integers metric
      (Memory.termRecords .freight scope range t records)).map Int.natAbs).sum < 2 ^ 53 :=
    Nat.lt_trans (hbound t ht) (by decide)
  rw [exists_agree_iff h havg hempty hvalues fun t ht => read_integers (hbound t ht)]
  refine and_congr_right
    fun _ => forall₂_congr fun t ht => ⟨fun hparts _ _ => hparts, fun hmany => ?_⟩
  by_cases hlength : x.aggregation = .count ∧
      2 ^ 53 ≤ (Memory.termRecords .freight scope range t records).length
  · exact hmany hlength.1 hlength.2
  · refine partsAgree havg (fun r hr => Memory.isNull_of_mem_termRecords hr) (hlimit t ht) ?_
      (hbound t ht)
    intro hcount
    exact Nat.lt_of_not_le fun hle => hlength ⟨hcount, hle⟩

/-- Drawers of a carrier and of none, and a tool box with a given value for its day. -/
def carrierDrawers (day : Json) : List Json :=
  [.object [("description", .text "Drawer Unit"), ("pickup_date", .text "2025-02-01"),
    ("retail", .int 5),
     ("carrier_name", .text "Saia")],
   .object [("description", .text "Drawer Liner"), ("pickup_date", .text "2025-03-01"),
     ("retail", .int 3)],
   .object [("description", .text "Drawer Unit"), ("pickup_date", .text "2025-04-01"),
     ("retail", .null), ("carrier_name", .text "Saia")],
   .object [("description", .text "Tool Box"), ("pickup_date", day), ("retail", .int 7),
     ("carrier_name", .text "Saia")]]

theorem overIntegers_carrierDrawers (day : Json) (range : DateRange) :
    OverIntegers ⟨["Drawer", "Hinge"], .sum⟩ .usual [("shipment_item", carrierDrawers day)]
      .admin (some range) "retail" (carrierDrawers day) where
  terms_nodup := by decide
  table_eq := rfl
  isTable := by
    intro r hr
    simp only [carrierDrawers, List.mem_cons, List.not_mem_nil, or_false] at hr
    obtain rfl | rfl | rfl | rfl := hr <;> exact ⟨_, rfl⟩
  hasIntegers := by
    intro t _ r hr
    have hr := (List.mem_filter.1 hr).1
    simp only [carrierDrawers, List.mem_cons, List.not_mem_nil, or_false] at hr
    obtain rfl | rfl | rfl | rfl := hr
    · exact .inr ⟨5, rfl⟩
    · exact .inr ⟨3, rfl⟩
    · exact .inl rfl
    · exact .inr ⟨7, rfl⟩

theorem carrier_ne_nameKey (day : Json) :
    ∀ r ∈ carrierDrawers day, r.get "carrier_name" ≠ .text Pivot.nameKey := by
  intro r hr
  simp only [carrierDrawers, List.mem_cons, List.not_mem_nil, or_false] at hr
  have hsaia : Json.text "Saia" ≠ .text Pivot.nameKey :=
    fun h => absurd (Json.text.inj h) (by decide)
  obtain rfl | rfl | rfl | rfl := hr
  · exact hsaia
  · exact fun hnull => Json.noConfusion hnull
  · exact hsaia
  · exact hsaia

theorem drillDown_agrees_carrierDrawers :
    let range := DateRange.wholeYear 2025 (by decide) (by decide)
    let records := carrierDrawers (.text "2025-05-01")
    let x : Comparison := ⟨["Drawer", "Hinge"], .sum⟩
    Drillable .usual .admin (some range) records ∧
      ∀ t ∈ x.terms, ∃ points g,
        (x.run .freight .usual (Memory.store .freight [("shipment_item", records)]) .admin
          (some range) "retail").result = .ok points ∧
        ((x.drillDown "carrier_name" "retail").run .freight .usual
          (Memory.store .freight [("shipment_item", records)]) .admin (some range)).result =
          .ok g ∧
        Agree x.aggregation t points g := by
  intro range records x
  have hx : Drillable .usual .admin (some range) records := ⟨by decide, by decide +kernel⟩
  refine ⟨hx,
    (drillDown_agrees_iff (overIntegers_carrierDrawers _ _) (by decide) (by decide)
      (carrier_ne_nameKey _)
    (by decide +kernel) (by decide +kernel)).2 ⟨fun _ => hx, ?_⟩⟩
  intro t ht own hcount
  cases hcount

/-- A day beyond comparing fails the drill-down although its record has no term, while the
comparison has its point. -/
theorem not_drillDown_agrees_of_hugeDay :
    let range := DateRange.wholeYear 2025 (by decide) (by decide)
    let records := carrierDrawers (.int (Int.ofNat (Nat.pow 10 400)))
    let x : Comparison := ⟨["Drawer", "Hinge"], .sum⟩
    x.OverIntegers .usual [("shipment_item", records)] .admin (some range) "retail" records ∧
      (∀ t ∈ x.terms, t ≠ "") ∧
      (∀ r ∈ records, r.get "carrier_name" ≠ .text Pivot.nameKey) ∧
      (∀ t ∈ x.terms, ((Memory.integers "retail"
        (Memory.termRecords .freight .admin (some range) t records)).map Int.natAbs).sum <
        10 ^ 15) ∧
      (∀ t ∈ x.terms, ((Memory.grouped ["description", "carrier_name"]
        (Memory.termRecords .freight .admin (some range) t records)).length : Int) ≤
          Settings.usual.categoryLimit) ∧
      (x.run .freight .usual (Memory.store .freight [("shipment_item", records)]) .admin
        (some range) "retail").result = .ok [⟨"Drawer", Binary64.ofInt 8⟩] ∧
      ¬ ∃ g, ((x.drillDown "carrier_name" "retail").run .freight .usual
        (Memory.store .freight [("shipment_item", records)]) .admin (some range)).result =
        .ok g := by
  intro range records x
  have h := overIntegers_carrierDrawers (.int (Int.ofNat (Nat.pow 10 400))) range
  refine ⟨h, by decide, carrier_ne_nameKey _, by decide +kernel, by decide +kernel, by
    decide +kernel, ?_⟩
  rintro ⟨g, hg⟩
  rw [h.run_drillDown_of_huge (by decide) (by decide) (by decide +kernel)] at hg
  cases hg

end Comparison

end PromptChart
