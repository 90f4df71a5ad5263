import PromptChart.Execute.Run
import PromptChart.Proofs.Outcome

namespace PromptChart

/-- Is a failure one of arithmetic? -/
def Failure.IsNumeric (f : Failure) : Prop := f = .tooLarge ∨ f = .divisionByZero

theorem Failure.IsNumeric.isFatal {f : Failure} (h : f.IsNumeric) : f.isFatal = true := by
  obtain rfl | rfl := h <;> rfl

theorem Binary64.failsOnly_ofInt? (n : Int) :
    FailsOnly (· = .tooLarge) (Binary64.ofInt? n) := by
  rw [Binary64.ofInt?]
  split
  · exact failsOnly_ok _
  · exact failsOnly_error rfl

namespace Cell

theorem failsOnly_add (kind : Aggregation) (cell : Cell) (value : Binary64) (count : Int) :
    FailsOnly (· = .tooLarge) (cell.add kind value count) := by
  cases kind with
  | avg =>
    simp only [add, addWeighted]
    split
    · exact (Binary64.failsOnly_ofInt? count).bind fun _ _ => failsOnly_ok _
    · exact failsOnly_ok _
  | count => exact (Binary64.failsOnly_ofInt? count).bind fun _ _ => failsOnly_ok _
  | sum => exact failsOnly_ok _
  | min => exact failsOnly_ok _
  | max => exact failsOnly_ok _

theorem failsOnly_value (kind : Aggregation) (cell : Cell) :
    FailsOnly Failure.IsNumeric (cell.value kind) := by
  cases kind with
  | avg =>
    simp only [value]
    split
    · exact ((Binary64.failsOnly_ofInt? cell.count).map _).mono fun _ => .inl
    · split
      · exact failsOnly_error (.inr rfl)
      · exact failsOnly_ok _
  | _ => exact failsOnly_ok _

end Cell

namespace Merger

variable {κ : Type} [DecidableEq κ]

theorem eq_tooLarge_of_addRow {key : PartialRow → κ} {m : Merger κ} {row : PartialRow}
    {f : Failure} (h : (m.addRow key row).2 = some f) : f = .tooLarge := by
  unfold addRow at h
  split at h
  · dsimp only at h
    split at h
    · cases h
    next g hg =>
      cases h
      exact Cell.failsOnly_add _ _ _ _ _ hg
  · cases h

theorem eq_tooLarge_of_addBatch {key : PartialRow → κ} {m : Merger κ} {batch : List PartialRow}
    {f : Failure} (h : (m.addBatch key batch).2 = some f) : f = .tooLarge := by
  induction batch generalizing m with
  | nil => cases h
  | cons row rest ih =>
    rw [addBatch] at h
    split at h
    · exact ih h
    next g hrow =>
      cases h
      exact eq_tooLarge_of_addRow (congrArg Prod.snd hrow)

theorem failsOnly_takeBatch (key : PartialRow → κ) (m : Merger κ) (batch : List PartialRow) :
    FailsOnly (· = .tooLarge) (m.takeBatch key batch) := by
  unfold takeBatch
  split
  · exact failsOnly_ok _
  next g hbatch => exact failsOnly_error (eq_tooLarge_of_addBatch (congrArg Prod.snd hbatch))

theorem failsOnly_addNamed (m : Merger κ) (named : List (κ × List PartialRow)) :
    FailsOnly Failure.IsNumeric (m.addNamed named) := by
  induction named generalizing m with
  | nil => exact failsOnly_ok m
  | cons first rest ih =>
    exact ((m.failsOnly_takeBatch _ first.2).mono fun _ => .inl).bind fun m' _ => ih m'

omit [DecidableEq κ] in
theorem failsOnly_result (m : Merger κ) : FailsOnly Failure.IsNumeric m.result :=
  failsOnly_mapM fun e _ => (e.2.failsOnly_value m.kind).bind fun _ _ => failsOnly_ok _

end Merger

theorem failsOnly_mergeRows {κ : Type} [DecidableEq κ] (kind : Aggregation)
    (key : PartialRow → κ) (batches : List (List PartialRow)) :
    FailsOnly Failure.IsNumeric (mergeRows kind key batches) :=
  ((failsOnly_foldlM (fun m batch _ => m.failsOnly_takeBatch key batch) _).mono
    fun _ => .inl).bind fun m _ => m.failsOnly_result

theorem Comparison.failsOnly_points (x : Comparison)
    (batches : Entries String (List PartialRow)) :
    FailsOnly Failure.IsNumeric (x.points batches) :=
  (Merger.failsOnly_addNamed _ _).bind
    fun m _ => m.failsOnly_result.bind fun _ _ => failsOnly_ok _

theorem failsOnly_collect {α : Type} (answer : String → Request → Except Failure α)
    (requests : Entries String Request) :
    FailsOnly (·.isFatal = true) (collect answer requests) := by
  induction requests with
  | nil => exact failsOnly_ok []
  | cons trip rest ih =>
    cases hanswer : answer trip.1 trip.2 with
    | ok rows =>
      simp only [collect, hanswer]
      exact ih.map _
    | error f =>
      cases f with
      | query => simpa only [collect, hanswer] using ih
      | _ =>
        simp only [collect, hanswer]
        exact failsOnly_error rfl

theorem Request.failsOnly_make (table : String) (grouping : Grouping) (metric : String)
    (aggregation : Aggregation) (filters : List Filter) (limit : Int) :
    FailsOnly (·.isFatal = true)
      (Request.make table grouping metric aggregation filters limit) := by
  refine FailsOnly.bind ?_ fun _ _ => failsOnly_ok _
  cases Checked.under "limit" (checkLimit limit) with
  | valid => exact failsOnly_ok _
  | invalid => exact failsOnly_error rfl

theorem Catalog.failsOnly_table (c : Catalog) (kind : String) :
    FailsOnly (·.isFatal = true) (c.table kind) := by
  unfold Catalog.table
  split
  · exact failsOnly_ok _
  · exact failsOnly_error rfl

namespace Breakdown

variable {b : Breakdown} {c : Catalog} {s : Settings} {store : Store} {scope : Scope}
  {range : Option DateRange}

theorem failsOnly_merge (b : Breakdown) (batches : List (List PartialRow)) :
    FailsOnly (·.isFatal = true) (b.merge batches) :=
  ((failsOnly_mergeRows _ _ batches).map _).mono fun _ => Failure.IsNumeric.isFatal

theorem failsOnly_plan (c : Catalog) (s : Settings) (range : Option DateRange) (b : Breakdown) :
    FailsOnly (·.isFatal = true) (b.plan c s range) := by
  refine (c.failsOnly_table _).bind fun table _ => ?_
  split
  · exact (failsOnly_mapM fun term _ => (Request.failsOnly_make _ _ _ _ _ _).map _).map _
  · exact (Request.failsOnly_make _ _ _ _ _ _).map _

theorem failsOnly_answer {plan : Plan}
    (h : ∀ r ∈ plan.requests, ∃ rows, store r scope = .ok rows) :
    FailsOnly (·.isFatal = true) (b.answer store scope plan) := by
  cases plan with
  | perTerm requests => exact (failsOnly_collect _ requests).bind fun _ _ => b.failsOnly_merge _
  | single request =>
    obtain ⟨rows, hrows⟩ := h request (.head _)
    rw [answer, hrows]
    exact b.failsOnly_merge _

theorem failsOnly_run
    (h : ∀ r ∈ (b.run c s store scope range).requests, ∃ rows, store r scope = .ok rows) :
    FailsOnly (·.isFatal = true) (b.run c s store scope range).result := by
  cases hplan : b.plan c s range with
  | error f =>
    simp only [run, hplan]
    exact failsOnly_error (b.failsOnly_plan c s range f hplan)
  | ok plan =>
    simp only [run, hplan] at h ⊢
    exact failsOnly_answer h

end Breakdown

end PromptChart
