import Mathlib.Data.List.Perm.Basic
import PromptChart.Catalog.Freight
import PromptChart.Proofs.Execute.Plan
import PromptChart.Proofs.Merge.Batch
import PromptChart.Proofs.Store.Groups

namespace PromptChart

theorem exists_perm_of_perm_map {α β : Type} {f : α → β} {items : List α} {values : List β}
    (h : values.Perm (items.map f)) :
    ∃ items' : List α, items'.Perm items ∧ values = items'.map f := by
  have hcomp := congrFun (congrFun (List.eq_map_comp_perm f) values) items
  rw [← hcomp] at h
  obtain ⟨items', he, hperm⟩ := h
  exact ⟨items', hperm, he⟩

theorem Memory.exists_take_ordered_eq {ν : Type} [Arithmetic ν]
    (rowOf : List String × List Json → PartialRow ν) (gs : Entries (List String) (List Json))
    (limit : Nat) :
    ∃ gs' : Entries (List String) (List Json), gs'.Perm gs ∧
      (ordered (gs.map rowOf)).take limit = (gs'.take limit).map rowOf := by
  obtain ⟨gs', hgs, he⟩ := exists_perm_of_perm_map (ordered_perm (gs.map rowOf))
  refine ⟨gs', hgs, ?_⟩
  rw [he, List.map_take]

section

variable {α : Type} {keys : List String}

theorem collect_eq_ok (answer : String → Request → Except Failure α)
    (request : String → Request) {rows : String → α}
    (h : ∀ t ∈ keys, answer t (request t) = .ok (rows t)) :
    collect answer (Entries.tabulate keys request) = .ok (Entries.tabulate keys rows) := by
  induction keys with
  | nil => rfl
  | cons t rest ih =>
    have hrest := ih fun key hkey => h key (.tail t hkey)
    simp only [Entries.tabulate, List.map_cons] at hrest ⊢
    simp only [collect, h t (.head rest), hrest, map_ok]

/-- A fatal failure of a round trip is that of the whole run, if no other one is possible. -/
theorem collect_of_tooLarge (answer : String → Request → Except Failure α)
    (request : String → Request)
    (h : ∀ t ∈ keys, (∃ rows, answer t (request t) = .ok rows) ∨
      answer t (request t) = .error .tooLarge)
    (hfatal : ∃ t ∈ keys, answer t (request t) = .error .tooLarge) :
    collect answer (Entries.tabulate keys request) = .error .tooLarge := by
  induction keys with
  | nil =>
    obtain ⟨t, ht, -⟩ := hfatal
    cases ht
  | cons t rest ih =>
    obtain ⟨rows, hrows⟩ | hfail := h t (.head rest)
    · have hlater : ∃ key ∈ rest, answer key (request key) = .error .tooLarge := by
        obtain ⟨key, hkey, hfail⟩ := hfatal
        cases hkey with
        | head =>
          rw [hrows] at hfail
          cases hfail
        | tail _ hkey => exact ⟨key, hkey, hfail⟩
      have hrest := ih (fun key hkey => h key (.tail t hkey)) hlater
      simp only [Entries.tabulate, List.map_cons] at hrest ⊢
      simp only [collect, hrows, hrest, map_error]
    · simp only [Entries.tabulate, List.map_cons, collect, hfail]

end

namespace Comparison

variable {x : Comparison} {s : Settings} {tables : Tables} {scope : Scope}
  {range : Option DateRange} {metric : String} {records : List Json}

def termRequest (x : Comparison) (s : Settings) (range : Option DateRange) (metric : String)
    (term : String) : Request where
  table := "shipment_item"
  grouping := .single Catalog.freight.textField
  metric := metric
  aggregation := x.aggregation
  filters := Filter.ofTerm .freight term :: DateRange.filters .freight range
  limit := max 1 s.categoryLimit.toNat
  limit_pos := by omega

/-- A comparison of distinct terms over a table in which the metric is null or an integer
wherever a term is mentioned. -/
structure OverIntegers (x : Comparison) (s : Settings) (tables : Tables) (scope : Scope)
    (range : Option DateRange) (metric : String) (records : List Json) : Prop where
  terms_nodup : x.terms.Nodup
  table_eq : tables.get? "shipment_item" = some records
  isTable : Memory.IsTable records
  hasIntegers : ∀ t ∈ x.terms,
    Memory.HasIntegers metric (Memory.termRecords .freight scope range t records)

/-- Can the run be answered? The limit allows requests, and no record of a term has an integer
beyond every number where the range looks for its day. -/
structure Answerable (x : Comparison) (s : Settings) (scope : Scope) (range : Option DateRange)
    (records : List Json) : Prop where
  limit_pos : x.terms ≠ [] → 0 < s.categoryLimit
  hasHugeDay_eq_false :
      ∀ t ∈ x.terms, ∀ r ∈ records, Memory.hasHugeDay .freight scope range t r = false

def termRows {ν : Type} [Arithmetic ν] (x : Comparison) (s : Settings) (metric : String)
    (records : List Json) : List (PartialRow ν) :=
  (Memory.ordered ((Memory.grouped [Catalog.freight.textField] records).map
    (Memory.groupRow x.aggregation metric))).take s.categoryLimit.toNat

theorem textField_not_restricted :
    Catalog.freight.restrictedFields.contains (Text.lower Catalog.freight.textField) =
      false := by
  decide +kernel

theorem dateField_not_restricted :
    Catalog.freight.restrictedFields.contains (Text.lower Catalog.freight.dateField) =
      false := by
  decide +kernel

theorem scopedFilters_term (term : String) :
    scopedFilters .freight scope
      (Filter.ofTerm .freight term :: DateRange.filters .freight range) =
      Filter.ofTerm .freight term :: DateRange.filters .freight range := by
  rw [← List.singleton_append, scopedFilters_append,
    Memory.scopedFilters_ofTerm textField_not_restricted,
    Memory.scopedFilters_range dateField_not_restricted]

theorem OverIntegers.requests_eq_ok (h : x.OverIntegers s tables scope range metric records)
    (hlimit : x.terms ≠ [] → 0 < s.categoryLimit) :
    x.requests .freight s range metric =
      .ok (Entries.tabulate x.terms (x.termRequest s range metric)) := by
  have htable : Catalog.freight.table "item" = .ok "shipment_item" := rfl
  simp only [requests, htable, ok_bind]
  rw [Plan.forTerms_of_forall (r := x.termRequest s range metric),
    Text.distinct_of_nodup h.terms_nodup]
  · rfl
  · intro t ht
    have hpos := hlimit (List.ne_nil_of_mem ht)
    have hmax : max 1 s.categoryLimit.toNat = s.categoryLimit.toNat := by omega
    simp only [Request.make_of_pos hpos, termRequest, hmax]

theorem limit_pos_of_requests {es : Entries String Request}
    (h : x.requests .freight s range metric = .ok es) (hterms : x.terms ≠ []) :
    0 < s.categoryLimit := by
  obtain ⟨t, ht⟩ := List.exists_mem_of_ne_nil _ hterms
  obtain ⟨e, -, -, hr⟩ := Plan.exists_mem_of_forTerms h ht
  obtain ⟨table, -, hmake⟩ := bind_eq_ok.1 hr
  exact (Request.make_eq_ok hmake).1

variable {ν : Type} [Arithmetic ν]

theorem OverIntegers.store_eq_ok (h : x.OverIntegers s tables scope range metric records)
    (hlimit : x.terms ≠ [] → 0 < s.categoryLimit) {term : String} (hterm : term ∈ x.terms)
    (hhuge : records.any (Memory.hasHugeDay .freight scope range term) = false)
    (hread : ∀ n ∈
      Memory.integers metric (Memory.termRecords .freight scope range term records),
      Arithmetic.read (.int n) = .ok (Arithmetic.ofInt n : ν)) :
    Memory.store .freight tables (x.termRequest s range metric term) scope =
      .ok (x.termRows (ν := ν) s metric
        (Memory.termRecords .freight scope range term records)) := by
  have hpos := hlimit (List.ne_nil_of_mem hterm)
  have hmax : max 1 s.categoryLimit.toNat = s.categoryLimit.toNat := by omega
  rw [termRows, ← hmax]
  apply Memory.store_eq_ok h.table_eq rfl
  · rw [termRequest, scopedFilters_term, Memory.select_term h.isTable, hhuge]
    rfl
  · exact h.isTable.mono (List.filter_subset_self _)
  · exact h.hasIntegers term hterm
  · exact hread

theorem OverIntegers.store_of_huge (h : x.OverIntegers s tables scope range metric records)
    {term : String} (hhuge : records.any (Memory.hasHugeDay .freight scope range term) = true) :
    (Memory.store .freight tables (x.termRequest s range metric term) scope :
      Except Failure (List (PartialRow ν))) = .error .tooLarge := by
  have hselect : Memory.select scope (scopedFilters .freight scope
      (Filter.ofTerm .freight term :: DateRange.filters .freight range)) records =
      .error .tooLarge := by
    rw [scopedFilters_term, Memory.select_term h.isTable, hhuge]
    rfl
  simp only [Memory.store, termRequest, h.table_eq, Memory.allRows, hselect, error_bind]

theorem OverIntegers.run_eq_points (h : x.OverIntegers s tables scope range metric records)
    (hx : x.Answerable s scope range records)
    (hread : ∀ t ∈ x.terms,
      ∀ n ∈ Memory.integers metric (Memory.termRecords .freight scope range t records),
      Arithmetic.read (.int n) = .ok (Arithmetic.ofInt n : ν)) :
    (x.run .freight s (Memory.store .freight tables) scope range metric).result =
      x.points (Entries.tabulate x.terms fun t => x.termRows (ν := ν) s metric
        (Memory.termRecords .freight scope range t records)) := by
  have hcollect := collect_eq_ok (fun _ request => Memory.store .freight tables request scope)
    (x.termRequest s range metric) fun t ht => h.store_eq_ok hx.limit_pos ht
      (List.any_eq_false.2 fun r hr => Bool.eq_false_iff.1 (hx.hasHugeDay_eq_false t ht r hr))
      (hread t ht)
  simp only [run, h.requests_eq_ok hx.limit_pos, hcollect, ok_bind]

theorem OverIntegers.run_eq_ok (h : x.OverIntegers s tables scope range metric records)
    (hx : x.Answerable s scope range records)
    (hread : ∀ t ∈ x.terms,
      ∀ n ∈ Memory.integers metric (Memory.termRecords .freight scope range t records),
      Arithmetic.read (.int n) = .ok (Arithmetic.ofInt n : ν)) {values : String → Option ν}
    (hvalues : ∀ t ∈ x.terms, Merger.batchValue x.aggregation
      (x.termRows s metric (Memory.termRecords .freight scope range t records)) =
      .ok (values t)) :
    (x.run .freight s (Memory.store .freight tables) scope range metric).result =
      .ok (x.terms.filterMap fun t =>
        ((values t).map Arithmetic.roundCents).map (Point.mk t)) := by
  rw [h.run_eq_points hx hread]
  apply points_eq_ok h.terms_nodup
  intro t ht
  rw [Entries.get?_tabulate, if_pos ht, Option.getD_some]
  exact hvalues t ht

theorem OverIntegers.exists_batchValue (h : x.OverIntegers s tables scope range metric records)
    (havg : x.aggregation ≠ .avg) (hx : x.Answerable s scope range records)
    (hread : ∀ t ∈ x.terms,
      ∀ n ∈ Memory.integers metric (Memory.termRecords .freight scope range t records),
      Arithmetic.read (.int n) = .ok (Arithmetic.ofInt n : ν)) {points : List (Point ν)}
    (hresult : (x.run .freight s (Memory.store .freight tables) scope range metric).result =
      .ok points) :
    ∀ t ∈ x.terms, ∃ value?, Merger.batchValue x.aggregation
      (x.termRows (ν := ν) s metric (Memory.termRecords .freight scope range t records)) =
      .ok value? := by
  rw [h.run_eq_points hx hread] at hresult
  intro t ht
  obtain ⟨value?, hvalue⟩ := exists_batchValue_of_points h.terms_nodup havg hresult t ht
  rw [Entries.get?_tabulate, if_pos ht, Option.getD_some] at hvalue
  exact ⟨value?, hvalue⟩

theorem OverIntegers.run_of_huge (h : x.OverIntegers s tables scope range metric records)
    (hlimit : x.terms ≠ [] → 0 < s.categoryLimit)
    (hread : ∀ t ∈ x.terms,
      ∀ n ∈ Memory.integers metric (Memory.termRecords .freight scope range t records),
      Arithmetic.read (.int n) = .ok (Arithmetic.ofInt n : ν))
    (hhuge : ∃ t ∈ x.terms, records.any (Memory.hasHugeDay .freight scope range t) = true) :
    (x.run .freight s (Memory.store (ν := ν) .freight tables) scope range metric).result =
      .error .tooLarge := by
  have hanswer : ∀ t ∈ x.terms, (∃ rows, Memory.store (ν := ν) .freight tables
      (x.termRequest s range metric t) scope = .ok rows) ∨
      Memory.store (ν := ν) .freight tables (x.termRequest s range metric t) scope =
        .error .tooLarge := by
    intro t ht
    cases hany : records.any (Memory.hasHugeDay .freight scope range t) with
    | false => exact .inl ⟨_, h.store_eq_ok hlimit ht hany (hread t ht)⟩
    | true => exact .inr (h.store_of_huge hany)
  have hcollect :=
    collect_of_tooLarge (fun _ request => Memory.store (ν := ν) .freight tables request scope)
    (x.termRequest s range metric) hanswer (hhuge.imp fun _ ht => ⟨ht.1, h.store_of_huge ht.2⟩)
  simp only [run, h.requests_eq_ok hlimit, hcollect, error_bind]

theorem OverIntegers.answerable (h : x.OverIntegers s tables scope range metric records)
    (hread : ∀ t ∈ x.terms,
      ∀ n ∈ Memory.integers metric (Memory.termRecords .freight scope range t records),
      Arithmetic.read (.int n) = .ok (Arithmetic.ofInt n : ν)) {points : List (Point ν)}
    (hresult : (x.run .freight s (Memory.store .freight tables) scope range metric).result =
      .ok points) :
    x.Answerable s scope range records := by
  have hlimit : x.terms ≠ [] → 0 < s.categoryLimit := by
    cases hrequests : x.requests .freight s range metric with
    | error f =>
      rw [run, hrequests] at hresult
      cases hresult
    | ok es => exact limit_pos_of_requests hrequests
  refine ⟨hlimit, fun t ht r hr => ?_⟩
  by_contra hhuge
  have hany : records.any (Memory.hasHugeDay .freight scope range t) = true :=
    List.any_eq_true.2 ⟨r, hr, Bool.eq_true_of_not_eq_false hhuge⟩
  rw [h.run_of_huge hlimit hread ⟨t, ht, hany⟩] at hresult
  cases hresult

section

variable {ν : Type} [Arithmetic ν] {gs : Entries (List String) (List Json)}

/-- The rows of a term are those of its groups in some order, as many as the limit allows. -/
theorem exists_termRows_eq (x : Comparison) (s : Settings) (metric : String)
    (records : List Json) :
    ∃ gs : Entries (List String) (List Json),
      gs.Perm (Memory.grouped [Catalog.freight.textField] records) ∧
      (x.termRows s metric records : List (PartialRow ν)) =
        (gs.take s.categoryLimit.toNat).map (Memory.groupRow x.aggregation metric) :=
  Memory.exists_take_ordered_eq _ _ _

theorem take_groups (hgs : gs.Perm (Memory.grouped [Catalog.freight.textField] records))
    (hnull : ∀ r ∈ records, (r.get Catalog.freight.textField).isNull = false)
    (hlimit : ((Memory.texts Catalog.freight.textField records).length : Int) ≤
      s.categoryLimit) :
    gs.take s.categoryLimit.toNat = gs := by
  have hlength := hgs.length_eq
  rw [Memory.length_grouped hnull] at hlength
  apply List.take_of_length_le
  omega

end

theorem map_label_filterMap_sublist {ν : Type} (terms : List String)
    (values : String → Option ν) :
    ((terms.filterMap fun t => (values t).map (Point.mk t)).map (·.label)).Sublist terms := by
  induction terms with
  | nil => exact .refl _
  | cons t rest ih =>
    cases ht : values t with
    | none =>
      rw [List.filterMap_cons_none (by rw [ht]; rfl)]
      exact ih.cons t
    | some v =>
      rw [List.filterMap_cons_some (by rw [ht]; rfl), List.map_cons]
      exact ih.cons_cons t

theorem find?_filterMap_label {ν : Type} {terms : List String} (values : String → Option ν)
    {t : String} (hterms : terms.Nodup) (ht : t ∈ terms) :
    (terms.filterMap fun t => (values t).map (Point.mk t)).find? (·.label = t) =
      (values t).map (Point.mk t) := by
  induction terms with
  | nil => cases ht
  | cons t' rest ih =>
    obtain ⟨hnew, hrest⟩ := List.nodup_cons.1 hterms
    by_cases he : t' = t
    · subst he
      cases hv : values t' with
      | none =>
        rw [List.filterMap_cons_none (by rw [hv]; rfl), Option.map_none, List.find?_eq_none]
        intro p hp
        have hlabel := (map_label_filterMap_sublist rest values).subset (List.mem_map_of_mem hp)
        rw [decide_eq_true_eq]
        rintro rfl
        exact hnew hlabel
      | some v =>
        rw [List.filterMap_cons_some (by rw [hv]; rfl), List.find?_cons_of_pos (by simp),
          Option.map_some]
    · have hmem := (List.mem_cons.1 ht).resolve_left fun e => he e.symm
      cases hv : values t' with
      | none => rw [List.filterMap_cons_none (by rw [hv]; rfl), ih hrest hmem]
      | some v =>
        rw [List.filterMap_cons_some (by rw [hv]; rfl),
          List.find?_cons_of_neg (by simpa using he), ih hrest hmem]

end Comparison

end PromptChart
