import PromptChart.Analyst
import PromptChart.Proofs.Execute.Window

namespace PromptChart

def Chart.silent (chart : Chart) : Chart := { chart with message := "" }

namespace Analyst

variable {c : Catalog} {s : Settings} {reasoner : Reasoner} {scope : Scope} {r : DateRange}
  {tables : Tables}

theorem compare_during (hdate : c.restrictedFields.contains (Text.lower c.dateField) = false)
    (htables : ∀ t ∈ tables, Memory.IsDated c t.2) (x : Comparison) :
    Chart.silent <$> (compare ⟨c, s, Memory.store c tables, reasoner⟩ scope (some r) x).result =
      Chart.silent <$>
        (compare ⟨c, s, Memory.store c (tables.during c r), reasoner⟩ scope none x).result := by
  simp only [compare, Run.map, x.run_during _ hdate htables]
  generalize (Comparison.run (ν := Binary64) c s (Memory.store c (tables.during c r))
    scope none _ x).result = result
  cases result with
  | error f => rfl
  | ok points =>
    simp only [map_ok]
    cases points.isEmpty <;> rfl

theorem breakDown_during (hdate : c.restrictedFields.contains (Text.lower c.dateField) = false)
    (htables : ∀ t ∈ tables, Memory.IsDated c t.2) (b : Breakdown) :
    Chart.silent <$>
      (breakDown ⟨c, s, Memory.store c tables, reasoner⟩ scope (some r) b).result =
      Chart.silent <$>
        (breakDown ⟨c, s, Memory.store c (tables.during c r), reasoner⟩
          scope none b).result := by
  simp only [breakDown, rescope, Breakdown.run_during _ hdate htables]
  generalize (Breakdown.run c s (Memory.store c (tables.during c r)) scope none _).result =
    result
  cases result with
  | ok data =>
    simp only [map_ok]
    cases data.rows.isEmpty <;> rfl
  | error f => cases f <;> rfl

/-- Over records whose days are dates or missing, a range of days gives the chart that the
records of these days give without it, but for the message. -/
theorem follow_during (s : Settings) (reasoner : Reasoner) (scope : Scope) (r : DateRange)
    (tables : Tables) (htables : ∀ t ∈ tables, Memory.IsDated .freight t.2) (intent : Intent) :
    Chart.silent <$>
        (follow ⟨.freight, s, Memory.store .freight tables, reasoner⟩ scope
          (some r) intent).result =
      Chart.silent <$>
        (follow ⟨.freight, s, Memory.store .freight (tables.during .freight r), reasoner⟩ scope
          none intent).result := by
  have hdate :
      Catalog.freight.restrictedFields.contains (Text.lower Catalog.freight.dateField) =
        false := by
    decide +kernel
  cases intent with
  | comparison x => exact compare_during hdate htables x
  | breakdown b => exact breakDown_during hdate htables b

def drawerOn (day : Json) : Json :=
  .object [("description", .text "Drawer Unit"), ("pickup_date", day), ("retail", .int 5)]

theorem follow_during_drawers :
    let range := DateRange.wholeYear 2025 (by decide) (by decide)
    let tables : Tables := [("shipment_item",
      [drawerOn (.text "2026-01-01"), drawerOn (.text "2025-12-31"), drawerOn .null])]
    let analyst (tables : Tables) : Analyst :=
      ⟨.freight, .usual, Memory.store .freight tables, fun _ => .ok Reasoning.mockResponse⟩
    ((tables.during .freight range).map fun t => t.2.length) = [1] ∧
      Chart.silent <$>
        ((analyst tables).follow .admin (some range) (.comparison ⟨["Drawer"], .sum⟩)).result =
        Chart.silent <$> ((analyst (tables.during .freight range)).follow .admin none
          (.comparison ⟨["Drawer"], .sum⟩)).result := by
  intro range tables analyst
  have htables : ∀ t ∈ tables, Memory.IsDated .freight t.2 := by
    intro t ht
    obtain rfl := List.mem_singleton.1 ht
    intro record hrecord
    simp only [List.mem_cons, List.not_mem_nil, or_false] at hrecord
    obtain rfl | rfl | rfl := hrecord
    · exact ⟨⟨_, rfl⟩, .inr ⟨(DateRange.wholeYear 2026 (by decide) (by decide)).first,
        congrArg Json.text (by decide)⟩⟩
    · exact ⟨⟨_, rfl⟩, .inr ⟨range.last, congrArg Json.text (by decide)⟩⟩
    · exact ⟨⟨_, rfl⟩, .inl rfl⟩
  exact ⟨by decide +kernel, follow_during .usual _ .admin range tables htables _⟩

end Analyst

end PromptChart
