import PromptChart.Proofs.Execute.Comparison
import PromptChart.Proofs.Store.Averages

namespace PromptChart.Comparison

variable {x : Comparison} {s : Settings} {tables : Tables} {scope : Scope}
  {range : Option DateRange} {metric : String} {records : List Json}

/-- The points of a comparison are means: they stand in the order of the terms, and a term with
no more texts than the limit allows has the mean of its integers, rounded to hundredths. -/
structure MeanPoints (x : Comparison) (s : Settings) (scope : Scope) (range : Option DateRange)
    (metric : String) (records : List Json) (points : List (Point ℚ)) : Prop where
  sublist : (points.map (·.label)).Sublist x.terms
  find?_eq : ∀ t ∈ x.terms,
    let own := Memory.termRecords .freight scope range t records
    ((Memory.texts Catalog.freight.textField own).length : Int) ≤ s.categoryLimit →
      points.find? (·.label = t) = if Memory.integers metric own = [] then none else
        some ⟨t, Rational.hundredths (Memory.mean (Memory.integers metric own))⟩

def runMean (metric : String) (records : List Json) : ℚ :=
  Memory.weightedMean metric (Memory.grouped [Catalog.freight.textField] records)

theorem exists_batchValue_avg (s : Settings) (metric : String) (havg : x.aggregation = .avg)
    (hnull : ∀ r ∈ records, (r.get Catalog.freight.textField).isNull = false) :
    ∃ value?,
      Merger.batchValue x.aggregation (x.termRows (ν := ℚ) s metric records) = .ok value? ∧
      (((Memory.texts Catalog.freight.textField records).length : Int) ≤ s.categoryLimit →
        value? = if Memory.integers metric records = [] then none
          else some (runMean metric records)) := by
  obtain ⟨gs, hgs, hrows⟩ := exists_termRows_eq (ν := ℚ) x s metric records
  have hne : ∀ e ∈ gs.take s.categoryLimit.toNat, e.2 ≠ [] := fun e he =>
    Entries.ne_nil_of_mem_gather (hgs.mem_iff.1 (List.mem_of_mem_take he))
  rw [hrows, havg]
  refine ⟨_, Memory.batchValue_groupRow_avg hne, fun hlimit => ?_⟩
  have hints := Memory.integers_perm metric (Memory.flatMap_perm_of_grouped hgs)
  rw [take_groups hgs hnull hlimit, Memory.weightedMean_perm hgs, runMean]
  have hnone : Memory.integers metric (gs.flatMap (·.2)) = [] ↔
      Memory.integers metric records = [] := by
    rw [← List.length_eq_zero_iff, ← List.length_eq_zero_iff, hints.length_eq]
  simp only [hnone]

theorem OverIntegers.exists_run_avg (h : x.OverIntegers s tables scope range metric records)
    (havg : x.aggregation = .avg) (hx : x.Answerable s scope range records) :
    ∃ points : List (Point ℚ),
      (x.run .freight s (Memory.store .freight tables) scope range metric).result = .ok points ∧
        (points.map (·.label)).Sublist x.terms ∧ ∀ t ∈ x.terms,
          let own := Memory.termRecords .freight scope range t records
          ((Memory.texts Catalog.freight.textField own).length : Int) ≤ s.categoryLimit →
            points.find? (·.label = t) = if Memory.integers metric own = [] then none else
              some ⟨t, Rational.roundCents (runMean metric own)⟩ := by
  have hvalue (t : String) := exists_batchValue_avg s metric havg
    fun r (hr : r ∈ Memory.termRecords .freight scope range t records) =>
      Memory.isNull_of_mem_termRecords hr
  choose values hvalues hexact using hvalue
  refine ⟨_, h.run_eq_ok hx (fun t _ n _ => Arithmetic.read_int_rational n)
    fun t _ => hvalues t, ?_⟩
  refine ⟨map_label_filterMap_sublist _ _, fun t ht => ?_⟩
  intro own hlimit
  rw [find?_filterMap_label _ h.terms_nodup ht, hexact t hlimit]
  split
  · rfl
  · rfl

theorem OverIntegers.roundCents_runMean (h : x.OverIntegers s tables scope range metric records)
    (havg : x.aggregation = .avg) (hx : x.Answerable s scope range records)
    {points : List (Point ℚ)}
    (hresult : (x.run .freight s (Memory.store .freight tables) scope range metric).result =
      .ok points)
    (hmeans : x.MeanPoints s scope range metric records points) {t : String} (ht : t ∈ x.terms)
    (hlimit : ((Memory.texts Catalog.freight.textField
      (Memory.termRecords .freight scope range t records)).length : Int) ≤ s.categoryLimit)
    (hsome : Memory.integers metric (Memory.termRecords .freight scope range t records) ≠ []) :
    Rational.roundCents (runMean metric (Memory.termRecords .freight scope range t records)) =
      Rational.hundredths (Memory.mean (Memory.integers metric
        (Memory.termRecords .freight scope range t records))) := by
  obtain ⟨others, hothers, -, hfind⟩ := h.exists_run_avg havg hx
  rw [hresult] at hothers
  cases hothers
  have hpoint := hfind t ht hlimit
  rw [hmeans.find?_eq t ht hlimit, if_neg hsome, if_neg hsome] at hpoint
  exact (Point.mk.inj (Option.some.inj hpoint)).2.symm

theorem OverIntegers.exists_meanPoints (h : x.OverIntegers s tables scope range metric records)
    (havg : x.aggregation = .avg) (hx : x.Answerable s scope range records)
    (hrounded : ∀ t ∈ x.terms,
      let own := Memory.termRecords .freight scope range t records
      ((Memory.texts Catalog.freight.textField own).length : Int) ≤ s.categoryLimit →
        Memory.integers metric own ≠ [] →
          Rational.roundCents (runMean metric own) =
            Rational.hundredths (Memory.mean (Memory.integers metric own))) :
    ∃ points,
      (x.run .freight s (Memory.store .freight tables) scope range metric).result = .ok points ∧
      x.MeanPoints s scope range metric records points := by
  obtain ⟨points, hresult, hsublist, hfind⟩ := h.exists_run_avg havg hx
  refine ⟨points, hresult, hsublist, fun t ht => ?_⟩
  intro own hlimit
  rw [hfind t ht hlimit]
  by_cases hsome : Memory.integers metric own = []
  · rw [if_pos hsome, if_pos hsome]
  · rw [if_neg hsome, if_neg hsome, hrounded t ht hlimit hsome]

theorem runMean_eq_mean
    (hfull : ∀ e ∈ Memory.grouped [Catalog.freight.textField] records,
      Memory.integers metric e.2 = [] ∨ (Memory.integers metric e.2).length = e.2.length) :
    runMean metric records = Memory.mean (Memory.integers metric records) := by
  have hints := Memory.integers_perm metric
    (Memory.flatMap_perm_of_grouped
      (.refl (Memory.grouped [Catalog.freight.textField] records)))
  rw [runMean, Memory.weightedMean_eq_mean hfull, Memory.mean, Memory.mean, hints.sum_eq,
    hints.length_eq]

/-- Averages are the means of the integers of their terms where every group has a value in all
its records or in none. -/
theorem OverIntegers.exists_meanPoints_of_full
    (h : x.OverIntegers s tables scope range metric records) (havg : x.aggregation = .avg)
    (hx : x.Answerable s scope range records)
    (hfull : ∀ t ∈ x.terms, ∀ e ∈ Memory.grouped [Catalog.freight.textField]
        (Memory.termRecords .freight scope range t records),
      Memory.integers metric e.2 = [] ∨ (Memory.integers metric e.2).length = e.2.length)
    (hbound : ∀ t ∈ x.terms, |Memory.mean (Memory.integers metric
      (Memory.termRecords .freight scope range t records))| < Binary64.centLimit) :
    ∃ points,
      (x.run .freight s (Memory.store .freight tables) scope range metric).result = .ok points ∧
      x.MeanPoints s scope range metric records points := by
  apply h.exists_meanPoints havg hx
  intro t ht own _ _
  rw [runMean_eq_mean (hfull t ht), Rational.roundCents, if_pos (hbound t ht)]

/-- Averages are the means of the integers of their terms, exactly if the run can be answered
and the weighted means of the groups round to the same hundredths. -/
theorem meanPoints_iff (h : x.OverIntegers s tables scope range metric records)
    (havg : x.aggregation = .avg) :
    (∃ points,
      (x.run .freight s (Memory.store .freight tables) scope range metric).result = .ok points ∧
        x.MeanPoints s scope range metric records points) ↔
      x.Answerable s scope range records ∧
        ∀ t ∈ x.terms,
          let own := Memory.termRecords .freight scope range t records
          ((Memory.texts Catalog.freight.textField own).length : Int) ≤ s.categoryLimit →
            Memory.integers metric own ≠ [] →
              Rational.roundCents (runMean metric own) =
                Rational.hundredths (Memory.mean (Memory.integers metric own)) := by
  constructor
  · rintro ⟨points, hresult, hmeans⟩
    have hx := h.answerable (fun t _ n _ => Arithmetic.read_int_rational n) hresult
    refine ⟨hx, fun t ht => ?_⟩
    intro own hlimit hsome
    exact h.roundCents_runMean havg hx hresult hmeans ht hlimit hsome
  · rintro ⟨hx, hrounded⟩
    exact h.exists_meanPoints havg hx hrounded

def priced (items : List (String × Option Int)) : List Json :=
  items.map
    fun e => .object [("description", .text e.1), ("retail", (e.2.map Json.int).getD .null)]

theorem overIntegers_priced (items : List (String × Option Int)) :
    OverIntegers ⟨["Drawer"], .avg⟩ .usual [("shipment_item", priced items)] .admin none
      "retail" (priced items) where
  terms_nodup := by decide
  table_eq := rfl
  isTable := by
    intro r hr
    obtain ⟨e, -, rfl⟩ := List.mem_map.1 hr
    exact ⟨_, rfl⟩
  hasIntegers := by
    intro t _ r hr
    obtain ⟨⟨text, price?⟩, -, rfl⟩ := List.mem_map.1 (List.mem_filter.1 hr).1
    cases price? with
    | none => exact .inl rfl
    | some n => exact .inr ⟨n, rfl⟩

theorem meanPoints_priced :
    ∃ points, (Comparison.run .freight .usual (Memory.store .freight [("shipment_item",
        priced [("Drawer Unit", some 10), ("Drawer Liner", none), ("Drawer System", some 20)])])
        .admin none "retail" ⟨["Drawer"], .avg⟩).result = .ok points ∧
      MeanPoints ⟨["Drawer"], .avg⟩ .usual .admin none "retail"
        (priced [("Drawer Unit", some 10), ("Drawer Liner", none), ("Drawer System", some 20)])
        points := by
  rw [meanPoints_iff (overIntegers_priced _) rfl]
  exact ⟨⟨by decide, by decide +kernel⟩, by decide +kernel⟩

/-- A null in a group with a value gives the value a weight that it does not have in the
mean. -/
theorem not_meanPoints_of_null :
    let records :=
      priced [("Drawer Unit", some 10), ("Drawer Unit", none), ("Drawer System", some 20)]
    let own := Memory.termRecords .freight .admin none "Drawer" records
    OverIntegers ⟨["Drawer"], .avg⟩ .usual [("shipment_item", records)] .admin none
      "retail" records ∧
      ((Memory.texts "description" own).length : Int) ≤ Settings.usual.categoryLimit ∧
      Rational.hundredths (Memory.mean (Memory.integers "retail" own)) = 15 ∧
      (Comparison.run .freight .usual (Memory.store .freight [("shipment_item", records)])
        .admin none "retail" ⟨["Drawer"], .avg⟩).result.toOption =
        some [⟨"Drawer", Binary64.ofInt 1333 / .ofInt 100⟩] ∧
      ¬ ∃ points,
        (Comparison.run .freight .usual (Memory.store .freight [("shipment_item", records)])
          .admin none "retail" ⟨["Drawer"], .avg⟩).result = .ok points ∧
        MeanPoints ⟨["Drawer"], .avg⟩ .usual .admin none "retail" records points := by
  intro records own
  have h : OverIntegers ⟨["Drawer"], .avg⟩ .usual [("shipment_item", records)] .admin none
      "retail" records :=
    overIntegers_priced _
  have htexts :
      ((Memory.texts "description" own).length : Int) ≤ Settings.usual.categoryLimit := by
    decide +kernel
  have hmean : Rational.hundredths (Memory.mean (Memory.integers "retail" own)) = 15 := by
    decide +kernel
  have hrun : Rational.roundCents (runMean "retail" own) = 1333 / 100 := by decide +kernel
  have hsome : Memory.integers "retail" own ≠ [] := by decide +kernel
  refine ⟨h, htexts, hmean, by decide +kernel, ?_⟩
  rintro ⟨points, hresult, hmeans⟩
  have hx : Answerable ⟨["Drawer"], .avg⟩ .usual .admin none records :=
    ⟨by decide, by decide +kernel⟩
  have hvalues := h.roundCents_runMean rfl hx hresult hmeans (.head _) htexts hsome
  rw [hmean, hrun] at hvalues
  revert hvalues
  decide +kernel

end PromptChart.Comparison
