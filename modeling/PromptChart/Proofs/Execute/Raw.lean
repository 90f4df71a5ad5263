import PromptChart.Catalog.Freight
import PromptChart.Execute.Run
import PromptChart.Proofs.Merge.Keyed

namespace PromptChart

namespace Breakdown

variable {b : Breakdown} {c : Catalog} {s : Settings} {store : Store} {scope : Scope}
  {range : Option DateRange} {plan : Plan} {g : Grouped}

theorem raw_of_merge {batches : List (List PartialRow)} (h : b.merge batches = .ok g) :
    g.raw = batches.flatten := by
  obtain ⟨cells, -, rfl⟩ := map_eq_ok.1 h
  rfl

theorem merge_raw {batches : List (List PartialRow)} (h : b.merge batches = .ok g) :
    b.merge [g.raw] = .ok g := by
  rw [raw_of_merge h, merge, Merger.mergeRows_flatten, List.flatten_singleton]
  exact h

theorem merge_raw_of_answer (h : b.answer store scope plan = .ok g) :
    b.merge [g.raw] = .ok g := by
  cases plan with
  | perTerm requests =>
    obtain ⟨batches, -, hmerge⟩ := bind_eq_ok.1 h
    exact merge_raw hmerge
  | single request =>
    obtain ⟨rows, -, hmerge⟩ := bind_eq_ok.1 h
    exact merge_raw hmerge

theorem merge_raw_of_run (h : (b.run c s store scope range).result = .ok g) :
    b.merge [g.raw] = .ok g := by
  cases hplan : b.plan c s range with
  | error f =>
    rw [run, hplan] at h
    cases h
  | ok plan =>
    rw [run, hplan] at h
    exact merge_raw_of_answer h

/-- The rows of the store that a breakdown reports explain its chart: merged as one batch they
come to cells whose pivot has the same rows and the same secondary groups. -/
theorem chart_of_raw (h : (b.run c s store scope range).result = .ok g) :
    ∃ cells, mergeRows b.aggregation PartialRow.pairKey [g.raw] = .ok cells ∧
      Pivot.ofMerged g.raw cells = g := by
  have hmerge := merge_raw_of_run h
  rw [merge, List.flatten_singleton] at hmerge
  exact map_eq_ok.1 hmerge

def drawerCarriers : Store := fun request _ =>
  if request.filters.any fun f => f.value.plain == "Drawer" then
    .ok [⟨some "Drawer Unit", some "Saia", none, some (.ofInt 5), 2⟩,
      ⟨some "Drawer Liner", none, none, some (.ofInt 3), 0⟩, ⟨some "Drawer Box", none, none,
      none, 1⟩, ⟨some "Drawer Slide", some "Saia", none, some (.ofInt 4), 1⟩]
  else .error (.query request.table "unknown table")

theorem chart_of_raw_drawerCarriers :
    let b : Breakdown := ⟨"description", "carrier_name", "retail", .sum, ["Drawer", "Hinge"]⟩
    ∃ g, (b.run .freight .usual drawerCarriers .admin none).result = .ok g ∧ g.raw.length = 4 ∧
      ∃ cells, mergeRows b.aggregation PartialRow.pairKey [g.raw] = .ok cells ∧
        Pivot.ofMerged g.raw cells = g := by
  intro b
  obtain ⟨g, hg, hlength⟩ : ∃ g,
    (b.run .freight .usual drawerCarriers .admin none).result = .ok g ∧
      g.raw.length = 4 := by
    refine ⟨_, rfl, ?_⟩
    decide +kernel
  exact ⟨g, hg, hlength, chart_of_raw hg⟩

end Breakdown

end PromptChart
