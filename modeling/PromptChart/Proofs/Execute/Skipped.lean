import PromptChart.Catalog.Freight
import PromptChart.Proofs.Execute.Window
import PromptChart.Proofs.Merge.Keyed

namespace PromptChart

variable {ν : Type} [Arithmetic ν] {c : Catalog} {s : Settings} {scope : Scope}
  {range : Option DateRange} {request : String → Except Failure Request}
  {store store' : Store ν} {terms failed : List String} {es : Entries String Request}

/-- The queries of some terms fail on one store, and another store answers those of all other
terms alike. -/
structure LosesOnly (request : String → Except Failure Request) (scope : Scope)
    (store store' : Store ν) (terms failed : List String) : Prop where
  fails : ∀ term ∈ failed, term ∈ terms ∧
    ∃ r table detail, request term = .ok r ∧ store r scope = .error (.query table detail)
  alike : ∀ term ∈ terms,
      term ∉ failed → ∀ r, request term = .ok r → store' r scope = store r scope

def survivors (terms failed : List String) : List String := terms.filter (· ∉ failed)

theorem survivors_nil (terms : List String) : survivors terms [] = terms := by
  apply List.filter_eq_self.2
  intro term _
  exact decide_eq_true List.not_mem_nil

theorem survivors_eq_nil (h : terms ⊆ failed) : survivors terms failed = [] := by
  apply List.filter_eq_nil_iff.2
  intro term hterm hsurvives
  exact of_decide_eq_true hsurvives (h hterm)

theorem survivors_ne_nil {term : String} (hterm : term ∈ terms) (hfailed : term ∉ failed) :
    survivors terms failed ≠ [] :=
  List.ne_nil_of_mem (List.mem_filter.2 ⟨hterm, decide_eq_true hfailed⟩)

theorem Plan.forTerms_filter (h : Plan.forTerms terms request = .ok es) (p : String → Bool) :
    Plan.forTerms (terms.filter p) request = .ok (es.filter (p ·.1)) := by
  rw [Plan.forTerms, Text.distinct_filter]
  apply mapM_filter h
  intro term trip hmap
  obtain ⟨r, -, rfl⟩ := map_eq_ok.1 hmap
  rfl

/-- A request for a term: its conditions alone depend on the term. -/
def Request.forTerm (table : Except Failure String) (grouping : Grouping) (metric : String)
    (aggregation : Aggregation) (filters : String → List Filter) (limit : Int) (term : String) :
    Except Failure Request := do
  Request.make (← table) grouping metric aggregation (filters term) limit

theorem Plan.exists_forTerms {table : Except Failure String} {grouping : Grouping}
    {metric : String} {aggregation : Aggregation} {filters : String → List Filter} {limit : Int}
    {term : String} {r : Request}
    (h : Request.forTerm table grouping metric aggregation filters limit term = .ok r)
    (terms : List String) :
    ∃ es, Plan.forTerms terms
      (Request.forTerm table grouping metric aggregation filters limit) = .ok es := by
  obtain ⟨name, rfl, hmake⟩ := bind_eq_ok.1 h
  obtain ⟨hpos, -⟩ := Request.make_eq_ok hmake
  exact ⟨_, Plan.forTerms_of_forall fun _ _ => Request.make_of_pos hpos⟩

section Collect

variable {α : Type} {answer : String → Request → Except Failure α}

theorem collect_filter {p : String × Request → Bool}
    (h : ∀ trip ∈ es,
      p trip = false → ∃ table detail, answer trip.1 trip.2 = .error (.query table detail)) :
    collect answer es = collect answer (es.filter p) := by
  induction es with
  | nil => rfl
  | cons trip rest ih =>
    obtain ⟨htrip, hrest⟩ := List.forall_mem_cons.1 h
    cases hp : p trip with
    | true =>
      rw [List.filter_cons_of_pos hp]
      simp only [collect, ih hrest]
    | false =>
      obtain ⟨table, detail, hfailed⟩ := htrip hp
      rw [List.filter_cons_of_neg (Bool.eq_false_iff.1 hp), ← ih hrest]
      simp only [collect, hfailed]

theorem collect_keys_sublist {batches : Entries String α}
    (h : collect answer es = .ok batches) :
    (batches.map (·.1)).Sublist (es.map (·.1)) := by
  induction es generalizing batches with
  | nil =>
    cases h
    exact .slnil
  | cons trip rest ih =>
    cases hanswer : answer trip.1 trip.2 with
    | ok rows =>
      simp only [collect, hanswer] at h
      obtain ⟨later, hlater, rfl⟩ := map_eq_ok.1 h
      exact (ih hlater).cons_cons trip.1
    | error f =>
      cases f with
      | query =>
        simp only [collect, hanswer] at h
        exact (ih h).cons trip.1
      | _ =>
        simp only [collect, hanswer] at h
        cases h

end Collect

namespace LosesOnly

variable {ν : Type} {store store' : Store ν}
  (h : LosesOnly request scope store store' terms failed)

include h

theorem collect_eq (hes : Plan.forTerms terms request = .ok es) :
    collect (fun _ r => store r scope) es = collect (fun _ r => store' r scope)
      (es.filter (·.1 ∉ failed)) := by
  rw [collect_filter (p := (·.1 ∉ failed))]
  · apply collect_congr
    intro trip htrip
    obtain ⟨hmem, hsurvives⟩ := List.mem_filter.1 htrip
    obtain ⟨hterm, hrequest⟩ := Plan.mem_forTerms hes hmem
    exact (h.alike trip.1 hterm (of_decide_eq_true hsurvives) trip.2 hrequest).symm
  · intro trip htrip hfailed
    obtain ⟨-, hrequest⟩ := Plan.mem_forTerms hes htrip
    obtain ⟨-, r, table, detail, hr, hquery⟩ := h.fails trip.1 (by simpa using hfailed)
    cases hr.symm.trans hrequest
    exact ⟨table, detail, hquery⟩

theorem get?_eq_none (hes : Plan.forTerms terms request = .ok es)
    {batches : Entries String (List (PartialRow ν))}
    (hbatches : collect (fun _ r => store r scope) es = .ok batches) :
    ∀ term ∈ failed, batches.get? term = none := by
  intro term hterm
  rw [h.collect_eq hes] at hbatches
  apply Entries.get?_eq_none
  intro hmem
  obtain ⟨trip, htrip, rfl⟩ := List.mem_map.1 ((collect_keys_sublist hbatches).subset hmem)
  exact of_decide_eq_true (List.mem_filter.1 htrip).2 hterm

theorem collect_bind {β : Type} (hes : Plan.forTerms terms request = .ok es)
    {next next' : Entries String (List (PartialRow ν)) → Except Failure β}
    (hnext : ∀ batches : Entries String (List (PartialRow ν)),
      (∀ term ∈ failed, batches.get? term = none) → next batches = next' batches) :
    (collect (fun _ r => store r scope) es >>= next) =
      collect (fun _ r => store' r scope) (es.filter (·.1 ∉ failed)) >>= next' := by
  rw [← h.collect_eq hes]
  cases hbatches : collect (fun _ r => store r scope) es with
  | error f => rfl
  | ok batches => exact hnext batches (h.get?_eq_none hes hbatches)

end LosesOnly

theorem LosesOnly.eq_nil_of_error {ν : Type} {store store' : Store ν}
    {table : Except Failure String} {grouping : Grouping} {metric : String}
    {aggregation : Aggregation} {filters : String → List Filter} {limit : Int}
    {f : Failure}
    (h : LosesOnly (Request.forTerm table grouping metric aggregation filters limit) scope store
      store' terms failed)
    (hes : Plan.forTerms terms
      (Request.forTerm table grouping metric aggregation filters limit) = .error f) :
    failed = [] := by
  cases failed with
  | nil => rfl
  | cons term rest =>
    obtain ⟨-, r, -, -, hr, -⟩ := h.fails term (.head rest)
    obtain ⟨es, hok⟩ := Plan.exists_forTerms hr terms
    cases hes.symm.trans hok

namespace Comparison

variable {x : Comparison} {metric : String}

def requestFor (c : Catalog) (s : Settings) (range : Option DateRange) (metric : String)
    (x : Comparison) : String → Except Failure Request :=
  Request.forTerm (c.table "item") (.single c.textField) metric x.aggregation
    (fun term => Filter.ofTerm c term :: DateRange.filters c range) s.categoryLimit

def without (x : Comparison) (failed : List String) : Comparison :=
  { x with terms := survivors x.terms failed }

theorem requests_eq_forTerms (x : Comparison) :
    x.requests c s range metric = Plan.forTerms x.terms (x.requestFor c s range metric) := rfl

theorem points_without (x : Comparison) {batches : Entries String (List (PartialRow ν))}
    (h : ∀ term ∈ failed, batches.get? term = none) :
    x.points batches = (x.without failed).points batches := by
  have hempty :
      ∀ term ∈ x.terms, decide (term ∉ failed) = false → (batches.get? term).getD [] = [] := by
    intro term _ hterm
    rw [h term (by simpa using hterm), Option.getD_none]
  have hadd :
      (Merger.start x.aggregation).addNamed
        (x.terms.map fun term => (term, (batches.get? term).getD [])) =
      (Merger.start x.aggregation).addNamed
        ((survivors x.terms failed).map fun term => (term, (batches.get? term).getD [])) :=
    Merger.addNamed_filter hempty
  simp only [points, without, hadd]
  cases hm : (Merger.start x.aggregation).addNamed
      ((survivors x.terms failed).map fun term => (term, (batches.get? term).getD [])) with
  | error f => rfl
  | ok m =>
    simp only [ok_bind]
    cases hmerged : m.result with
    | error f => rfl
    | ok merged =>
      -- A failed term has no cell, and so no point.
      have hnone :
          ∀ term ∈ x.terms, decide (term ∉ failed) = false → merged.get? term = none := by
        intro term _ hterm
        apply Entries.get?_eq_none
        rw [Merger.map_fst_of_result hmerged]
        intro hmem
        obtain hstart | hnamed := Merger.mem_keys_of_addNamed hm hmem
        · cases hstart
        · rw [List.map_map] at hnamed
          obtain ⟨term', hterm', rfl⟩ := List.mem_map.1 hnamed
          exact Bool.eq_false_iff.1 hterm (List.mem_filter.1 hterm').2
      simp only [ok_bind, pure_eq_ok, survivors, List.filterMap_filter]
      congr 1
      apply List.filterMap_congr
      intro term hterm
      cases hp : decide (term ∉ failed) with
      | true => rfl
      | false =>
        rw [hnone term hterm hp]
        rfl

theorem run_without
    (h : LosesOnly (x.requestFor c s range metric) scope store store' x.terms failed) :
    (x.run c s store scope range metric).result =
      ((x.without failed).run c s store' scope range metric).result := by
  cases hes : x.requests c s range metric with
  | ok es =>
    have hless :
        (x.without failed).requests c s range metric = .ok (es.filter (·.1 ∉ failed)) :=
      Plan.forTerms_filter hes (· ∉ failed)
    simp only [run, hes, hless]
    exact h.collect_bind hes fun batches hbatches => x.points_without hbatches
  | error f =>
    have hnil : failed = [] := h.eq_nil_of_error hes
    have hsame : x.without failed = x := by rw [without, hnil, survivors_nil]
    rw [hsame, run, hes, run, hes]

theorem run_of_terms_eq_nil (h : x.terms = []) :
    (x.run c s store scope range metric).result = .ok [] := by
  have hes : x.requests c s range metric = .ok [] := by
    rw [requests_eq_forTerms, h]
    rfl
  simp only [run, hes, collect, ok_bind, points, h]
  rfl

end Comparison

namespace Breakdown

variable {b : Breakdown} {store store' : Store}

def requestFor (c : Catalog) (s : Settings) (range : Option DateRange) (b : Breakdown) :
    String → Except Failure Request :=
  Request.forTerm (b.table c) (.pair b.primary b.secondary) b.metric b.aggregation
    (fun term => DateRange.filters c range ++ [Filter.ofTerm c term]) s.categoryLimit

def without (b : Breakdown) (failed : List String) : Breakdown :=
  { b with terms := survivors b.terms failed }

theorem plan_perTerm (hper : b.isPerTerm c = true) :
    b.plan c s range = .perTerm <$> Plan.forTerms b.terms (b.requestFor c s range) := by
  unfold plan requestFor
  cases b.table c with
  | ok table =>
    simp only [ok_bind, hper, ↓reduceIte]
    rfl
  | error f =>
    -- There is a term, and the first one already lacks its table.
    have hterms : Text.distinct b.terms ≠ [] := by
      intro hnil
      simp [isPerTerm, Text.distinct_eq_nil_iff.1 hnil] at hper
    obtain ⟨term, rest, hcons⟩ := List.exists_cons_of_ne_nil hterms
    rw [Plan.forTerms, hcons, List.mapM_cons]
    rfl

theorem merge_congr {batches batches' : List (List PartialRow)}
    (h : batches.flatten = batches'.flatten) :
    b.merge batches = b.merge batches' := by
  rw [merge, merge, ← Merger.mergeRows_flatten, h, Merger.mergeRows_flatten]

theorem flatten_relabelled_without (b : Breakdown) {batches : Entries String (List PartialRow)}
    (h : ∀ term ∈ failed, batches.get? term = none) :
    (b.relabelled batches).flatten = ((b.without failed).relabelled batches).flatten := by
  simp only [relabelled, without, survivors]
  induction b.terms with
  | nil => rfl
  | cons term rest ih =>
    by_cases hterm : term ∈ failed
    · rw [List.filter_cons_of_neg (by simpa using hterm), ← ih, List.map_cons, h term hterm]
      rfl
    · rw [List.filter_cons_of_pos (by simpa using hterm), List.map_cons, List.map_cons,
        List.flatten_cons, List.flatten_cons, ih]

theorem isPerTerm_of_primary (hprimary : b.primary = c.textField) (hterms : b.terms ≠ []) :
    b.isPerTerm c = true := by
  simp [isPerTerm, hprimary, hterms]

theorem table_of_primary (hprimary : b.primary = c.textField) : b.table c = c.table "item" := by
  simp [table, hprimary]

theorem run_without (hprimary : b.primary = c.textField)
    (hterms : survivors b.terms failed ≠ [])
    (h : LosesOnly (b.requestFor c s range) scope store store' b.terms failed) :
    (b.run c s store scope range).result =
      ((b.without failed).run c s store' scope range).result := by
  have hall : b.terms ≠ [] := by
    intro hnil
    exact hterms (survivors_eq_nil (by simp [hnil]))
  have hplan : b.plan c s range = .perTerm <$> Plan.forTerms b.terms (b.requestFor c s range) :=
    plan_perTerm (isPerTerm_of_primary hprimary hall)
  have hless : (b.without failed).plan c s range =
      .perTerm <$>
        Plan.forTerms (survivors b.terms failed) ((b.without failed).requestFor c s range) :=
    plan_perTerm (isPerTerm_of_primary hprimary hterms)
  have hrequest : (b.without failed).requestFor c s range = b.requestFor c s range := by
    simp only [requestFor, table_of_primary hprimary,
      table_of_primary (b := b.without failed) hprimary]
    rfl
  rw [hrequest] at hless
  cases hes : Plan.forTerms b.terms (b.requestFor c s range) with
  | ok es =>
    have hfiltered : Plan.forTerms (survivors b.terms failed) (b.requestFor c s range) =
        .ok (es.filter (·.1 ∉ failed)) := Plan.forTerms_filter hes (· ∉ failed)
    rw [hes, map_ok] at hplan
    rw [hfiltered, map_ok] at hless
    simp only [run, hplan, hless, answer]
    apply h.collect_bind hes
    intro batches hbatches
    exact merge_congr (b.flatten_relabelled_without hbatches)
  | error f =>
    have hnil : failed = [] := h.eq_nil_of_error hes
    have hsame : b.without failed = b := by rw [without, hnil, survivors_nil]
    rw [hsame, run, run, hplan, hes, map_error]

theorem merge_nil (b : Breakdown) : b.merge [] = .ok ⟨[], [], []⟩ := by
  have hmerged :
      mergeRows b.aggregation PartialRow.pairKey ([] : List (List PartialRow)) = .ok [] := rfl
  rw [merge, hmerged, map_ok]
  simp [Pivot.ofMerged, Pivot.rows, Pivot.secondaries, Text.distinct]

theorem run_of_all_failed (hprimary : b.primary = c.textField) (hterms : b.terms ≠ [])
    (hfailed : b.terms ⊆ failed)
    (h : LosesOnly (b.requestFor c s range) scope store store' b.terms failed) :
    (b.run c s store scope range).result = .ok ⟨[], [], []⟩ := by
  obtain ⟨term, hterm⟩ := List.exists_mem_of_ne_nil _ hterms
  obtain ⟨-, r, -, -, hr, -⟩ := h.fails term (hfailed hterm)
  obtain ⟨es, hes⟩ := Plan.exists_forTerms hr b.terms
  have hplan : b.plan c s range = .ok (.perTerm es) := by
    rw [plan_perTerm (isPerTerm_of_primary hprimary hterms)]
    exact congrArg (Plan.perTerm <$> ·) hes
  have hnone : es.filter (·.1 ∉ failed) = [] := by
    have hfiltered := Plan.forTerms_filter hes (· ∉ failed)
    rw [← survivors, survivors_eq_nil hfailed] at hfiltered
    exact (Except.ok.inj hfiltered).symm
  have hempty : (b.relabelled []).flatten = [] := by
    have hfetched :
        ∀ term ∈ failed, Entries.get? term ([] : Entries String (List PartialRow)) = none :=
      fun _ _ => rfl
    rw [b.flatten_relabelled_without hfetched, relabelled, without, survivors_eq_nil hfailed]
    rfl
  simp only [run, hplan, answer, h.collect_eq hes, hnone, collect, ok_bind]
  exact (merge_congr hempty).trans b.merge_nil

end Breakdown

/-- Queries that fail cost the rows of their own terms alone: a comparison, and a breakdown that
looks its terms up in its primary field, come to what they come to for the remaining terms, and
are empty if none are left. -/
theorem failed_terms_skipped (c : Catalog) (s : Settings) (scope : Scope)
    (range : Option DateRange) (failed : List String) (store store' : Store) :
    (∀ (x : Comparison) (metric : String),
      LosesOnly (x.requestFor c s range metric) scope store store' x.terms failed →
        (x.run c s store scope range metric).result =
            ((x.without failed).run c s store' scope range metric).result ∧
          (x.terms ⊆ failed → (x.run c s store scope range metric).result = .ok [])) ∧
    ∀ b : Breakdown, b.primary = c.textField → b.terms ≠ [] →
      LosesOnly (b.requestFor c s range) scope store store' b.terms failed →
        ((∃ term ∈ b.terms, term ∉ failed) →
            (b.run c s store scope range).result =
              ((b.without failed).run c s store' scope range).result) ∧
          (b.terms ⊆ failed → (b.run c s store scope range).result = .ok ⟨[], [], []⟩) := by
  constructor
  · intro x metric h
    refine ⟨Comparison.run_without h, fun hfailed => ?_⟩
    rw [Comparison.run_without h]
    exact Comparison.run_of_terms_eq_nil (survivors_eq_nil hfailed)
  · intro b hprimary hterms h
    refine ⟨?_, fun hfailed => Breakdown.run_of_all_failed hprimary hterms hfailed h⟩
    rintro ⟨term, hterm, hsurvives⟩
    exact Breakdown.run_without hprimary (survivors_ne_nil hterm hsurvives) h

/-- What a store without any hinges answers: rows of two drawers. -/
def hingelessRows : List PartialRow :=
  [⟨some "Drawer Unit", some "Saia", none, some 5, 2⟩, ⟨some "Drawer Liner", none, none, some 3,
    1⟩]

def hingelessStore : Store := fun request _ =>
  if request.filters.any fun f => f.value.plain == "Hinge" then
    .error (.query request.table "simulated outage")
  else .ok hingelessRows

theorem losesOnly_hingeless
    (hinge : ∃ r,
      request "Hinge" = .ok r ∧
        hingelessStore r .admin = .error (.query r.table "simulated outage"))
    (drawer : ∀ r, request "Drawer" = .ok r → hingelessStore r .admin = .ok hingelessRows) :
    LosesOnly request .admin hingelessStore (fun _ _ => .ok hingelessRows)
      ["Hinge", "Drawer"] ["Hinge"] := by
  constructor
  · intro term hterm
    obtain rfl := List.mem_singleton.1 hterm
    obtain ⟨r, hr, hquery⟩ := hinge
    exact ⟨.head _, r, r.table, _, hr, hquery⟩
  · intro term hterm hsurvives r hr
    obtain rfl | hterm := List.mem_cons.1 hterm
    · exact absurd (.head _) hsurvives
    obtain rfl := List.mem_singleton.1 hterm
    exact (drawer r hr).symm

theorem failed_terms_skipped_hinge :
    let x : Comparison := ⟨["Hinge", "Drawer"], .sum⟩
    let b : Breakdown := ⟨"description", "carrier_name", "retail", .sum, ["Hinge", "Drawer"]⟩
    let store' : Store := fun _ _ => .ok hingelessRows
    LosesOnly (x.requestFor .freight .usual none "retail") .admin hingelessStore store'
      x.terms ["Hinge"] ∧
      LosesOnly (b.requestFor .freight .usual none) .admin hingelessStore store'
        b.terms ["Hinge"] ∧
      (x.run .freight .usual hingelessStore .admin none "retail").result = .ok [⟨"Drawer", 8⟩] ∧
      (x.run .freight .usual hingelessStore .admin none "retail").result =
        ((x.without ["Hinge"]).run .freight .usual store' .admin none "retail").result ∧
      (b.run .freight .usual hingelessStore .admin none).result =
        ((b.without ["Hinge"]).run .freight .usual store' .admin none).result := by
  intro x b store'
  have hx : LosesOnly (x.requestFor .freight .usual none "retail") .admin hingelessStore store'
      x.terms ["Hinge"] := by
    apply losesOnly_hingeless ⟨_, rfl, rfl⟩
    rintro r ⟨⟩
    rfl
  have hb : LosesOnly (b.requestFor .freight .usual none) .admin hingelessStore store'
      b.terms ["Hinge"] := by
    apply losesOnly_hingeless ⟨_, rfl, rfl⟩
    rintro r ⟨⟩
    rfl
  have hpoints : (x.run .freight .usual hingelessStore .admin none "retail").result =
      .ok [⟨"Drawer", 8⟩] := by
    decide +kernel
  obtain ⟨hcomparison, hbreakdown⟩ :=
    failed_terms_skipped .freight .usual .admin none ["Hinge"] hingelessStore store'
  exact ⟨hx, hb, hpoints, (hcomparison x "retail" hx).1,
    (hbreakdown b rfl (List.cons_ne_nil _ _) hb).1 ⟨"Drawer", by decide, by decide⟩⟩

end PromptChart
