import PromptChart.Catalog.Freight
import PromptChart.Proofs.Execute.Comparison
import PromptChart.Proofs.Execute.Skipped
import PromptChart.Proofs.Merge.Pivot
import PromptChart.Proofs.Merge.Repeated

namespace PromptChart

section Collect

variable {α : Type} {answer : String → Request → Except Failure α} {es : Entries String Request}
  {batches : Entries String α} {trip : String × Request}

theorem get?_collect (hkeys : (es.map (·.1)).Nodup) (h : collect answer es = .ok batches)
    (htrip : trip ∈ es) :
    batches.get? trip.1 = (answer trip.1 trip.2).toOption := by
  induction es generalizing batches with
  | nil => cases htrip
  | cons first rest ih =>
    obtain ⟨hnew, hrest⟩ := List.nodup_cons.1 hkeys
    cases hanswer : answer first.1 first.2 with
    | ok rows =>
      simp only [collect, hanswer] at h
      obtain ⟨later, hlater, rfl⟩ := map_eq_ok.1 h
      rcases List.mem_cons.1 htrip with rfl | hmem
      · rw [Entries.get?, if_pos rfl, hanswer]
        rfl
      · have hne : first.1 ≠ trip.1 := fun he => hnew (List.mem_map.2 ⟨trip, hmem, he.symm⟩)
        rw [Entries.get?, if_neg hne, ih hrest hlater hmem]
    | error f =>
      cases f with
      | query =>
        simp only [collect, hanswer] at h
        rcases List.mem_cons.1 htrip with rfl | hmem
        · rw [hanswer]
          exact Entries.get?_eq_none fun hkey => hnew ((collect_keys_sublist h).subset hkey)
        · exact ih hrest h hmem
      | _ =>
        simp only [collect, hanswer] at h
        cases h

end Collect

/-- The rows that the round trip for a term brings; a query that fails brings none. -/
def Store.rowsFor {ν : Type} (store : Store ν) (scope : Scope)
    (request : String → Except Failure Request) (term : String) : List (PartialRow ν) :=
  (request term >>= (store · scope)).toOption.getD []

theorem Store.rowsFor_eq {ν : Type} {store : Store ν} {scope : Scope}
    {request : String → Except Failure Request} {terms : List String}
    {es : Entries String Request} {batches : Entries String (List (PartialRow ν))}
    (hes : Plan.forTerms terms request = .ok es)
    (h : collect (fun _ r => store r scope) es = .ok batches)
    {term : String} (hterm : term ∈ terms) :
    (batches.get? term).getD [] = store.rowsFor scope request term := by
  obtain ⟨trip, htrip, rfl, hrequest⟩ := Plan.exists_mem_of_forTerms hes hterm
  have hkeys : (es.map (·.1)).Nodup := by
    rw [Plan.map_fst_of_forTerms hes]
    exact Text.nodup_distinct terms
  rw [rowsFor, hrequest, ok_bind, get?_collect hkeys h htrip]

theorem Plan.forTerms_distinct (terms : List String)
    (request : String → Except Failure Request) :
    Plan.forTerms (Text.distinct terms) request = Plan.forTerms terms request := by
  rw [Plan.forTerms, Plan.forTerms, Text.distinct_of_nodup (Text.nodup_distinct terms)]

namespace PartialRow

variable {ν : Type}

def named (name : String) (row : PartialRow ν) : PartialRow ν := { row with label := some name }

def name (row : PartialRow ν) : String := row.label.getD ""

end PartialRow

namespace Merger

variable {ν : Type} [Arithmetic ν]

/-- Batches with a key each are merged as rows that have the key for their name. -/
theorem addNamed_eq_addBatches (m : Merger String ν) (rows : String → List (PartialRow ν))
    (terms : List String) :
    m.addNamed (terms.map fun term => (term, rows term)) =
      m.addBatches PartialRow.name (terms.map fun term => (rows term).map (.named term)) := by
  induction terms generalizing m with
  | nil => rfl
  | cons term rest ih =>
    have hfirst : m.takeBatch PartialRow.name ((rows term).map (.named term)) =
        m.takeBatch (fun _ => term) (rows term) := takeBatch_map fun _ _ => ⟨rfl, rfl, rfl⟩
    rw [List.map_cons, List.map_cons, addNamed, addBatches, List.foldlM_cons, hfirst]
    congr 1
    funext m'
    exact ih m'

end Merger

namespace Comparison

section

variable {ν : Type} [Arithmetic ν] {c : Catalog} {s : Settings} {store : Store ν}
  {scope : Scope} {range : Option DateRange} {metric : String} {x : Comparison}
  {rows : String → List (PartialRow ν)} {terms : List String} {es es' : Entries String ν}

def once (x : Comparison) : Comparison := { x with terms := Text.distinct x.terms }

def merged (x : Comparison) (rows : String → List (PartialRow ν)) :
    Except Failure (Entries String ν) :=
  mergeRows x.aggregation PartialRow.name
    (x.terms.map fun term => (rows term).map (.named term))

def pointsOf (terms : List String) (es : Entries String ν) : List (Point ν) :=
  terms.filterMap fun term => (es.get? term).map (Point.mk term)

theorem points_eq (x : Comparison) (batches : Entries String (List (PartialRow ν))) :
    x.points batches = pointsOf x.terms <$>
      x.merged fun term => (batches.get? term).getD [] := by
  rw [points, merged, mergeRows, ← Merger.addNamed_eq_addBatches]
  cases (Merger.start x.aggregation).addNamed
    (x.terms.map fun term => (term, (batches.get? term).getD [])) with
  | error f => rfl
  | ok m => rfl

theorem merged_congr {rows' : String → List (PartialRow ν)}
    (h : ∀ term ∈ x.terms, rows term = rows' term) :
    x.merged rows = x.merged rows' := by
  have hmap : (x.terms.map fun term => (rows term).map (PartialRow.named term)) =
      x.terms.map fun term => (rows' term).map (.named term) := by
    apply List.map_congr_left
    intro term hterm
    rw [h term hterm]
  rw [merged, merged, hmap]

omit [Arithmetic ν] in
theorem distinct_pointsOf [DecidableEq ν] (terms : List String) (es : Entries String ν) :
    Text.distinct (pointsOf terms es) = pointsOf (Text.distinct terms) es := by
  apply Text.distinct_filterMap
  intro term term' p hp hp'
  obtain ⟨v, -, rfl⟩ := Option.map_eq_some_iff.1 hp
  obtain ⟨w, -, hlabel⟩ := Option.map_eq_some_iff.1 hp'
  exact (congrArg Point.label hlabel).symm

omit [Arithmetic ν] in
theorem get?_eq_of_pointsOf
    (h : pointsOf (Text.distinct terms) es = pointsOf (Text.distinct terms) es')
    {term : String} (hterm : term ∈ terms) : es.get? term = es'.get? term := by
  have hmem := Text.mem_distinct.2 hterm
  have hfind := congrArg (List.find? (·.label = term)) h
  rw [pointsOf, pointsOf, find?_filterMap_label (es.get? ·) (Text.nodup_distinct terms) hmem,
    find?_filterMap_label (es'.get? ·) (Text.nodup_distinct terms) hmem] at hfind
  have hvalues := congrArg (Option.map Point.value) hfind
  rwa [Option.map_map, Option.map_map, Function.comp_def, Option.map_id',
    Option.map_id'] at hvalues

theorem get?_merged_of_not_mem (h : x.merged rows = .ok es) {term : String}
    (hterm : term ∉ x.terms) :
    es.get? term = none := by
  apply Entries.get?_eq_none
  intro hkey
  obtain ⟨e, he, rfl⟩ := List.mem_map.1 hkey
  obtain ⟨row, hrow, hname⟩ := Merger.exists_row_of_mem_mergeRows h he
  obtain ⟨batch, hbatch, hrow⟩ := List.mem_flatten.1 hrow
  obtain ⟨t, ht, rfl⟩ := List.mem_map.1 hbatch
  obtain ⟨own, -, rfl⟩ := List.mem_map.1 hrow
  exact hterm (hname ▸ ht)

/-- The points of a comparison are those with each term once, some of them several times,
exactly if the merge is the same. -/
theorem distinct_points_iff [DecidableEq ν] {batches : Entries String (List (PartialRow ν))}
    (hrows : ∀ term ∈ x.terms, (batches.get? term).getD [] = rows term) :
    Text.distinct <$> x.points batches = x.once.points batches ↔
      x.merged rows = x.once.merged rows := by
  have honce : ∀ term ∈ x.once.terms, (batches.get? term).getD [] = rows term :=
    fun term hterm => hrows term (Text.mem_distinct.1 hterm)
  have hdistinct : Text.distinct <$> (pointsOf x.terms <$> x.merged rows) =
      pointsOf x.once.terms <$> x.merged rows := by
    cases x.merged rows with
    | error f => rfl
    | ok es => exact congrArg Except.ok (distinct_pointsOf x.terms es)
  rw [points_eq, points_eq, merged_congr hrows, merged_congr honce, hdistinct]
  constructor
  · intro h
    apply eq_of_map_eq h
    intro es es' hes hes' hpoints
    -- The points show the value of every term; no other name has one.
    apply Merger.mergeRows_ext (Merger.keys_flatten_distinct x.aggregation _ _ x.terms) hes hes'
    intro term
    by_cases hterm : term ∈ x.terms
    · exact get?_eq_of_pointsOf hpoints hterm
    · have hnew : term ∉ x.once.terms := mt Text.mem_distinct.1 hterm
      rw [get?_merged_of_not_mem hes hterm, get?_merged_of_not_mem hes' hnew]
  · intro h
    rw [h]

theorem run_once_cases (c : Catalog) (s : Settings) (store : Store ν) (scope : Scope)
    (range : Option DateRange) (metric : String) (x : Comparison) :
    (x.once.run c s store scope range metric).requests =
      (x.run c s store scope range metric).requests ∧
    ((∃ f, (x.run c s store scope range metric).result = .error f ∧
        (x.once.run c s store scope range metric).result = .error f) ∨
      ∃ batches, (x.run c s store scope range metric).result = x.points batches ∧
        (x.once.run c s store scope range metric).result = x.once.points batches ∧
        ∀ term ∈ x.terms, (batches.get? term).getD [] =
          store.rowsFor scope (x.requestFor c s range metric) term) := by
  have hrequests : x.once.requests c s range metric = x.requests c s range metric :=
    Plan.forTerms_distinct x.terms _
  cases hes : x.requests c s range metric with
  | error f =>
    simp only [run, hrequests, hes]
    exact ⟨trivial, .inl ⟨f, rfl, rfl⟩⟩
  | ok es =>
    simp only [run, hrequests, hes]
    refine ⟨trivial, ?_⟩
    cases hbatches : collect (fun _ request => store request scope) es with
    | error f => exact .inl ⟨f, rfl, rfl⟩
    | ok batches =>
      exact .inr ⟨batches, rfl, rfl, fun term hterm => Store.rowsFor_eq hes hbatches hterm⟩

theorem merged_once (x : Comparison) (rows : String → List (PartialRow ν)) :
    x.once.merged rows = mergeRows x.aggregation PartialRow.name
      ((Text.distinct x.terms).map fun term => (rows term).map (.named term)) := rfl

omit [Arithmetic ν] in
theorem rowsAt_named (rows : String → List (PartialRow ν)) (terms : List String)
    (term : String) :
    Merger.rowsAt PartialRow.name (fun t => (rows t).map (.named t)) terms term =
      (List.replicate (terms.count term) ((rows term).map (.named term))).flatten := by
  apply Merger.rowsAt_of_named
  intro t row hrow
  obtain ⟨own, -, rfl⟩ := List.mem_map.1 hrow
  rfl

theorem count_distinct {term : String} (h : term ∈ terms) :
    (Text.distinct terms).count term = 1 :=
  List.count_eq_one_of_mem (Text.nodup_distinct terms) (Text.mem_distinct.2 h)

end

section Doubles

variable {c : Catalog} {s : Settings} {store : Store} {scope : Scope} {range : Option DateRange}
  {metric : String} {x : Comparison} {rows : String → List PartialRow}

theorem cents_rowsAt_named (kind : Aggregation) (rows : String → List PartialRow)
    (terms : List String) (term : String) :
    kind.cents (Merger.rowsAt PartialRow.name (fun t => (rows t).map (.named t)) terms term) =
      kind.cents (List.replicate (terms.count term) (rows term)).flatten := by
  have hmap :
      (List.replicate (terms.count term) ((rows term).map (PartialRow.named term))).flatten =
      (List.replicate (terms.count term) (rows term)).flatten.map (.named term) := by
    rw [List.map_flatten, List.map_replicate]
  have hworth := Aggregation.worth_map (f := PartialRow.named term) (fun _ => rfl)
    (fun _ => rfl) kind
  rw [rowsAt_named, hmap, Aggregation.cents, hworth, Aggregation.cents]

/-- Terms that come several times are merged as if they came once exactly if a minimum or
maximum is asked for, if that fails, or if the rows of each of them come to the same taken so
many times and taken once. -/
theorem merged_eq_once_iff : x.merged rows = x.once.merged rows ↔
    x.aggregation = .min ∨ x.aggregation = .max ∨ (∃ f, x.once.merged rows = .error f) ∨
      ∀ term ∈ x.terms,
        x.aggregation.cents (List.replicate (x.terms.count term) (rows term)).flatten =
          x.aggregation.cents (rows term) := by
  rw [merged_once, merged, Merger.mergeRows_distinct_iff]
  apply or_congr_right
  apply or_congr_right
  apply or_congr_right
  simp only [cents_rowsAt_named]
  apply forall_congr'
  intro term
  by_cases hterm : term ∈ x.terms
  · rw [count_distinct hterm, List.replicate_one, List.flatten_singleton]
    exact ⟨fun h _ => h, fun h => h hterm⟩
  · rw [List.count_eq_zero_of_not_mem hterm,
      List.count_eq_zero_of_not_mem (mt Text.mem_distinct.1 hterm)]
    exact iff_of_true rfl fun hmem => absurd hmem hterm

theorem run_once_iff : Text.distinct <$> (x.run c s store scope range metric).result =
      (x.once.run c s store scope range metric).result ↔
    x.aggregation = .min ∨ x.aggregation = .max ∨
      (∃ f, (x.once.run c s store scope range metric).result = .error f) ∨ ∀ term ∈ x.terms,
        x.aggregation.cents (List.replicate (x.terms.count term)
            (store.rowsFor scope (x.requestFor c s range metric) term)).flatten =
          x.aggregation.cents (store.rowsFor scope (x.requestFor c s range metric) term) := by
  obtain ⟨-, ⟨f, hmany, honce⟩ | ⟨batches, hmany, honce, hrows⟩⟩ :=
    run_once_cases c s store scope range metric x
  · rw [hmany, honce]
    exact iff_of_true rfl (.inr (.inr (.inl ⟨f, rfl⟩)))
  · have hfails : (∃ f, x.once.points batches = .error f) ↔
        ∃ f, x.once.merged (store.rowsFor scope (x.requestFor c s range metric)) =
          .error f := by
      rw [points_eq, merged_congr fun term hterm => hrows term (Text.mem_distinct.1 hterm),
        exists_map_eq_error]
    rw [hmany, honce, distinct_points_iff hrows, hfails, merged_eq_once_iff]

end Doubles

section Exact

variable {c : Catalog} {s : Settings} {store : Store ℚ} {scope : Scope}
  {range : Option DateRange} {metric : String} {x : Comparison}

theorem merged_eq_once_of_avg (havg : x.aggregation = .avg)
    (rows : String → List (PartialRow ℚ)) :
    x.merged rows = x.once.merged rows := by
  obtain ⟨es, hes⟩ : ∃ es, x.once.merged rows = .ok es :=
    Merger.exists_mergeRows_iff.2 fun _ => Merger.exists_batchValue_rational _ _
  have hrows (terms : List String) (term : String) :
      (terms.map fun t => (rows t).map (PartialRow.named t)).flatten.filter (·.name = term) =
        (List.replicate (terms.count term) ((rows term).map (.named term))).flatten := by
    rw [Merger.flatten_map_rows]
    exact rowsAt_named rows terms term
  have hkind : x.once.aggregation = .avg := havg
  rw [hes]
  refine (Merger.mergeRows_eq_ok_iff (Merger.keys_flatten_distinct _ _ _ _) hes).2
    fun term => ?_
  rw [hrows, hrows, Merger.reported, Merger.reported, hkind]
  by_cases hterm : term ∈ x.terms
  · rw [Merger.batchValue_avg_replicate (List.count_pos_iff.2 hterm), count_distinct hterm,
      List.replicate_one, List.flatten_singleton]
  · rw [List.count_eq_zero_of_not_mem hterm,
      List.count_eq_zero_of_not_mem (mt Text.mem_distinct.1 hterm)]

theorem run_once_avg (havg : x.aggregation = .avg) :
    Text.distinct <$> (x.run c s store scope range metric).result =
      (x.once.run c s store scope range metric).result := by
  obtain ⟨-, ⟨f, hmany, honce⟩ | ⟨batches, hmany, honce, hrows⟩⟩ :=
    run_once_cases c s store scope range metric x
  · rw [hmany, honce]
    rfl
  · rw [hmany, honce, distinct_points_iff hrows, merged_eq_once_of_avg havg]

end Exact

end Comparison

/-- What a chart shows: its rows and its secondary groups, but not the rows of the store behind
them. -/
def Grouped.shown (g : Grouped) : List GroupedRow × List String := (g.rows, g.secondaries)

namespace Breakdown

variable {c : Catalog} {s : Settings} {store : Store} {scope : Scope} {range : Option DateRange}
  {b : Breakdown} {rows : String → List PartialRow}

def once (b : Breakdown) : Breakdown := { b with terms := Text.distinct b.terms }

theorem once_of_terms_eq_nil (h : b.terms = []) : b.once = b := by
  rw [once, h]
  exact congrArg (Breakdown.mk _ _ _ _) h.symm

def merged (b : Breakdown) (rows : String → List PartialRow) :
    Except Failure (Entries (String × String) Binary64) :=
  mergeRows b.aggregation PartialRow.pairKey
    (b.terms.map fun term => (rows term).map (.relabel term))

theorem merged_once (b : Breakdown) (rows : String → List PartialRow) :
    b.once.merged rows = mergeRows b.aggregation PartialRow.pairKey
      ((Text.distinct b.terms).map fun term => (rows term).map (.relabel term)) := rfl

def rowsOf (rows : String → List PartialRow) (terms : List String) (cell : String × String) :
    List PartialRow :=
  Merger.rowsAt PartialRow.pairKey (fun term => (rows term).map (.relabel term)) terms cell

def shownOf (es : Entries (String × String) Binary64) : List GroupedRow × List String :=
  (Pivot.ofMerged [] es).shown

theorem shown_merge (b : Breakdown) {batches : Entries String (List PartialRow)}
    (hrows : ∀ term ∈ b.terms, (batches.get? term).getD [] = rows term) :
    Grouped.shown <$> b.merge (b.relabelled batches) = shownOf <$> b.merged rows := by
  have hbatches :
      b.relabelled batches = b.terms.map fun term => (rows term).map (.relabel term) := by
    apply List.map_congr_left
    intro term hterm
    rw [hrows term hterm]
  rw [merge, hbatches, merged]
  cases mergeRows b.aggregation PartialRow.pairKey
    (b.terms.map fun term => (rows term).map (.relabel term)) with
  | error f => rfl
  | ok es => rfl

theorem merged_eq_of_shown {es es' : Entries (String × String) Binary64}
    (h : b.merged rows = .ok es) (h' : b.once.merged rows = .ok es')
    (hshown : shownOf es = shownOf es') : es = es' := by
  have hkeys := Merger.keys_flatten_distinct b.aggregation PartialRow.pairKey
    (fun term => (rows term).map (.relabel term)) b.terms
  have hnames : es.map (·.1) = es'.map (·.1) := by
    rw [Merger.map_fst_mergeRows h, hkeys]
    exact (Merger.map_fst_mergeRows h').symm
  have hrows : (Pivot.ofMerged [] es).rows = (Pivot.ofMerged [] es').rows :=
    congrArg Prod.fst hshown
  exact Merger.mergeRows_ext hkeys h h'
    (Pivot.get?_eq_of_rows_ofMerged hnames (Merger.nodup_keys_mergeRows h) hrows)

theorem shown_merge_iff {batches : Entries String (List PartialRow)}
    (hrows : ∀ term ∈ b.terms, (batches.get? term).getD [] = rows term) :
    Grouped.shown <$> b.merge (b.relabelled batches) = Grouped.shown <$>
      b.once.merge (b.once.relabelled batches) ↔ b.merged rows = b.once.merged rows := by
  have honce : ∀ term ∈ b.once.terms, (batches.get? term).getD [] = rows term :=
    fun term hterm => hrows term (Text.mem_distinct.1 hterm)
  rw [shown_merge b hrows, shown_merge b.once honce]
  constructor
  · intro h
    exact eq_of_map_eq h fun _ _ hes hes' => merged_eq_of_shown hes hes'
  · intro h
    rw [h]

theorem merged_eq_once_iff : b.merged rows = b.once.merged rows ↔
    b.aggregation = .min ∨ b.aggregation = .max ∨ (∃ f, b.once.merged rows = .error f) ∨
      ∀ cell, b.aggregation.cents (rowsOf rows b.terms cell) =
        b.aggregation.cents (rowsOf rows (Text.distinct b.terms) cell) := by
  rw [merged_once, merged, Merger.mergeRows_distinct_iff]
  rfl

theorem run_once_cases (s : Settings) (store : Store) (scope : Scope) (range : Option DateRange)
    (hprimary : b.primary = c.textField) (hterms : b.terms ≠ []) :
    (b.once.run c s store scope range).requests = (b.run c s store scope range).requests ∧
    ((∃ f, (b.run c s store scope range).result = .error f ∧
      (b.once.run c s store scope range).result = .error f) ∨
      ∃ batches, (b.run c s store scope range).result = b.merge (b.relabelled batches) ∧
        (b.once.run c s store scope range).result = b.once.merge (b.once.relabelled batches) ∧
        ∀ term ∈ b.terms,
          (batches.get? term).getD [] = store.rowsFor scope (b.requestFor c s range) term) := by
  have hnonempty : b.once.terms ≠ [] := mt Text.distinct_eq_nil_iff.1 hterms
  have hrequest : b.once.requestFor c s range = b.requestFor c s range := by
    simp only [requestFor, table_of_primary hprimary, table_of_primary (b := b.once) hprimary]
    rfl
  have hplan : b.plan c s range = .perTerm <$> Plan.forTerms b.terms (b.requestFor c s range) :=
    plan_perTerm (isPerTerm_of_primary hprimary hterms)
  have honce :
      b.once.plan c s range =
        .perTerm <$> Plan.forTerms b.once.terms (b.once.requestFor c s range) :=
    plan_perTerm (isPerTerm_of_primary hprimary hnonempty)
  rw [hrequest, once, Plan.forTerms_distinct] at honce
  cases hes : Plan.forTerms b.terms (b.requestFor c s range) with
  | error f =>
    rw [hes] at hplan honce
    simp only [run, once, hplan, honce]
    exact ⟨rfl, .inl ⟨f, rfl, rfl⟩⟩
  | ok es =>
    rw [hes] at hplan honce
    simp only [run, once, hplan, honce]
    refine ⟨rfl, ?_⟩
    cases hbatches : collect (fun _ request => store request scope) es with
    | error f => exact .inl ⟨f, by simp [answer, hbatches], by simp [answer, hbatches]⟩
    | ok batches => exact .inr ⟨batches, by simp [answer, hbatches], by simp [answer, hbatches],
        fun term hterm => Store.rowsFor_eq hes hbatches hterm⟩

theorem run_once_iff (hprimary : b.primary = c.textField) :
    Grouped.shown <$> (b.run c s store scope range).result =
        Grouped.shown <$> (b.once.run c s store scope range).result ↔
      b.aggregation = .min ∨ b.aggregation = .max ∨
        (∃ f, (b.once.run c s store scope range).result = .error f) ∨
        ∀ cell,
          b.aggregation.cents
            (rowsOf (store.rowsFor scope (b.requestFor c s range)) b.terms cell) =
          b.aggregation.cents
            (rowsOf (store.rowsFor scope (b.requestFor c s range)) (Text.distinct b.terms)
              cell) := by
  by_cases hterms : b.terms = []
  · rw [once_of_terms_eq_nil hterms, hterms]
    exact iff_of_true rfl (.inr (.inr (.inr fun _ => rfl)))
  obtain ⟨-, ⟨f, hmany, honce⟩ | ⟨batches, hmany, honce, hrows⟩⟩ :=
    run_once_cases s store scope range hprimary hterms
  · rw [hmany, honce]
    exact iff_of_true rfl (.inr (.inr (.inl ⟨f, rfl⟩)))
  · have hfails : (∃ f, b.once.merge (b.once.relabelled batches) = .error f) ↔
        ∃ f, b.once.merged (store.rowsFor scope (b.requestFor c s range)) = .error f := by
      have hshown := shown_merge b.once fun term hterm => hrows term (Text.mem_distinct.1 hterm)
      rw [← exists_map_eq_error (f := Grouped.shown), hshown, exists_map_eq_error]
    rw [hmany, honce, shown_merge_iff hrows, hfails, merged_eq_once_iff]

end Breakdown

/-- Terms that come more than once are asked for once. A comparison of them has the points that
it has with each term once, and a breakdown shows the cells that it shows with each term once,
exactly if that fails, if a minimum or maximum is asked for, or if the rows come to the same in
cents taken as often as the terms come and taken once. Without rounding the points of an average
are always those with each term once. -/
theorem repeated_terms_iff (c : Catalog) (s : Settings) (store : Store) (scope : Scope)
    (range : Option DateRange) :
    (∀ (x : Comparison) (metric : String),
      (x.once.run c s store scope range metric).requests =
        (x.run c s store scope range metric).requests ∧
      (Text.distinct <$> (x.run c s store scope range metric).result =
          (x.once.run c s store scope range metric).result ↔
        x.aggregation = .min ∨ x.aggregation = .max ∨
          (∃ f, (x.once.run c s store scope range metric).result = .error f) ∨
          ∀ term ∈ x.terms,
            x.aggregation.cents (List.replicate (x.terms.count term)
                (store.rowsFor scope (x.requestFor c s range metric) term)).flatten =
              x.aggregation.cents (store.rowsFor scope (x.requestFor c s range metric) term))) ∧
    (∀ (exact : Store ℚ) (x : Comparison) (metric : String), x.aggregation = .avg →
      Text.distinct <$> (x.run c s exact scope range metric).result =
        (x.once.run c s exact scope range metric).result) ∧
    ∀ b : Breakdown, b.primary = c.textField →
      (b.once.run c s store scope range).requests = (b.run c s store scope range).requests ∧
      (Grouped.shown <$> (b.run c s store scope range).result =
          Grouped.shown <$> (b.once.run c s store scope range).result ↔
        b.aggregation = .min ∨ b.aggregation = .max ∨
          (∃ f, (b.once.run c s store scope range).result = .error f) ∨
          ∀ cell, b.aggregation.cents
            (Breakdown.rowsOf (store.rowsFor scope (b.requestFor c s range)) b.terms cell) =
            b.aggregation.cents
              (Breakdown.rowsOf (store.rowsFor scope (b.requestFor c s range))
                (Text.distinct b.terms) cell)) := by
  refine ⟨fun x metric => ?_, fun exact x metric havg => ?_, fun b hprimary => ?_⟩
  · exact ⟨(x.run_once_cases c s store scope range metric).1, Comparison.run_once_iff⟩
  · exact Comparison.run_once_avg havg
  · refine ⟨?_, Breakdown.run_once_iff hprimary⟩
    by_cases hterms : b.terms = []
    · rw [Breakdown.once_of_terms_eq_nil hterms]
    · exact (Breakdown.run_once_cases s store scope range hprimary hterms).1

def drawersTwice (kind : Aggregation) : Comparison := ⟨["Drawer", "Drawer"], kind⟩

def carriersTwice (kind : Aggregation) : Breakdown :=
  ⟨"description", "carrier_name", "retail", kind, ["Drawer", "Drawer"]⟩

theorem repeated_terms_iff_drawers :
    let store : Store := fun _ _ => .ok hingelessRows
    let exact : Store ℚ := fun _ _ => .ok (drawerRows ℚ)
    ((drawersTwice .max).run .freight .usual store .admin none "retail").result =
        .ok [⟨"Drawer", 5⟩, ⟨"Drawer", 5⟩] ∧
      Text.distinct <$>
        ((drawersTwice .max).run .freight .usual store .admin none "retail").result =
        ((drawersTwice .max).once.run .freight .usual store .admin none "retail").result ∧
      Text.distinct <$>
        ((drawersTwice .avg).run .freight .usual exact .admin none "retail").result =
        ((drawersTwice .avg).once.run .freight .usual exact .admin none "retail").result ∧
      (carriersTwice .max).primary = Catalog.freight.textField ∧
      Grouped.shown <$> ((carriersTwice .max).run .freight .usual store .admin none).result =
        Grouped.shown <$>
          ((carriersTwice .max).once.run .freight .usual store .admin none).result := by
  intro store exact
  obtain ⟨hcomparison, hexact, hbreakdown⟩ := repeated_terms_iff .freight .usual store
    .admin none
  refine ⟨by decide +kernel, ?_, hexact exact _ "retail" rfl, rfl, ?_⟩
  · exact (hcomparison (drawersTwice .max) "retail").2.2 (.inr (.inl rfl))
  · exact (hbreakdown (carriersTwice .max) rfl).2.2 (.inr (.inl rfl))

theorem not_forall_repeated_terms :
    (¬ ∀ (c : Catalog) (s : Settings) (store : Store) (scope : Scope)
        (range : Option DateRange) (metric : String) (x : Comparison),
        Text.distinct <$> (x.run c s store scope range metric).result =
          (x.once.run c s store scope range metric).result) ∧
      ¬ ∀ (c : Catalog) (s : Settings) (store : Store) (scope : Scope)
        (range : Option DateRange) (b : Breakdown), b.primary = c.textField →
        Grouped.shown <$> (b.run c s store scope range).result =
          Grouped.shown <$> (b.once.run c s store scope range).result := by
  constructor
  · intro h
    have hsum := h .freight .usual (fun _ _ => .ok hingelessRows) .admin none "retail"
      (drawersTwice .sum)
    exact absurd hsum (by decide +kernel)
  · intro h
    have hsum := h .freight .usual (fun _ _ => .ok hingelessRows) .admin none
      (carriersTwice .sum) rfl
    have hvalues := congrArg (Functor.map fun shown => shown.1.map GroupedRow.values) hsum
    exact absurd hvalues (by decide +kernel)

end PromptChart
