import Mathlib.Algebra.Order.BigOperators.Group.List
import PromptChart.Proofs.Binary64.Cents
import PromptChart.Proofs.Execute.Comparison
import PromptChart.Proofs.Store.Integers

namespace PromptChart

namespace Comparison

variable {x : Comparison} {s : Settings} {tables : Tables} {scope : Scope}
  {range : Option DateRange} {metric : String} {records : List Json}

/-- The points of a comparison are exact: they stand in the order of the terms, and a term with
no more texts than the limit allows has what its records come to. -/
structure ExactPoints (x : Comparison) (s : Settings) (scope : Scope) (range : Option DateRange)
    (metric : String) (records : List Json) (points : List Point) : Prop where
  sublist : (points.map (·.label)).Sublist x.terms
  find?_eq : ∀ t ∈ x.terms,
    let own := Memory.termRecords .freight scope range t records
    ((Memory.texts Catalog.freight.textField own).length : Int) ≤ s.categoryLimit →
      points.find? (·.label = t) =
        (x.aggregation.exact own.length (Memory.integers metric own)).map fun n =>
          ⟨t, Binary64.ofInt n⟩

/-- Do the rows of records, as many as the limit allows, merge to what the records come to at
once? -/
def MergesExactly (x : Comparison) (s : Settings) (metric : String)
    (records : List Json) : Prop :=
  ∃ value?, Merger.batchValue x.aggregation (x.termRows s metric records) = .ok value? ∧
    (((Memory.texts Catalog.freight.textField records).length : Int) ≤ s.categoryLimit →
      value?.map Binary64.roundCents =
        (x.aggregation.exact records.length (Memory.integers metric records)).map
          Binary64.ofInt)

theorem batchValue_termRows (havg : x.aggregation ≠ .avg)
    (hnull : ∀ r ∈ records, (r.get Catalog.freight.textField).isNull = false)
    (hlimit : ((Memory.texts Catalog.freight.textField records).length : Int) ≤ s.categoryLimit)
    (hlength : x.aggregation = .count → records.length < 2 ^ 53)
    (hbound : ((Memory.integers metric records).map Int.natAbs).sum < 2 ^ 53) :
    Merger.batchValue x.aggregation (x.termRows s metric records) =
      .ok ((x.aggregation.exact records.length (Memory.integers metric records)).map
        Binary64.ofInt) := by
  obtain ⟨gs, hgs, hrows⟩ := exists_termRows_eq (ν := Binary64) x s metric records
  rw [take_groups hgs hnull hlimit] at hrows
  have hperm := Memory.flatMap_perm_of_grouped hgs
  have hints := Memory.integers_perm metric hperm
  have hne : ∀ e ∈ gs, e.2 ≠ [] := fun e he => Entries.ne_nil_of_mem_gather (hgs.mem_iff.1 he)
  rw [hrows, Memory.batchValue_groupRow havg hne]
  · rw [hperm.length_eq, Aggregation.exact_perm hints]
  · rw [hperm.length_eq]
    exact hlength
  · rw [(hints.map Int.natAbs).sum_nat]
    exact hbound

theorem exists_batchValue_termRows (s : Settings) (metric : String)
    (havg : x.aggregation ≠ .avg) (hlength : x.aggregation = .count → records.length < 2 ^ 53) :
    ∃ value?, Merger.batchValue x.aggregation (x.termRows (ν := Binary64) s metric records) =
      .ok value? := by
  apply Merger.exists_batchValue havg
  intro hcount row hrow
  obtain ⟨gs, hgs, hrows⟩ := exists_termRows_eq (ν := Binary64) x s metric records
  rw [hrows] at hrow
  obtain ⟨e, he, rfl⟩ := List.mem_map.1 hrow
  have hle := Entries.length_le_of_mem_gather (hgs.mem_iff.1 (List.mem_of_mem_take he))
  have hlt := hlength hcount
  change ((e.2.length : Int)).natAbs < 2 ^ 53
  omega

theorem roundCents_exact {length : Nat} {values : List Int}
    (hlength : x.aggregation = .count → length < 2 ^ 53)
    (hbound : (values.map Int.natAbs).sum < 2 ^ 53) :
    ((x.aggregation.exact length values).map Binary64.ofInt).map Binary64.roundCents =
      (x.aggregation.exact length values).map Binary64.ofInt := by
  cases he : x.aggregation.exact length values with
  | none => rfl
  | some n =>
    have hle := Aggregation.natAbs_exact_le he
    have hn : n.natAbs < 2 ^ 53 := by
      split at hle
      next hcount => exact Nat.lt_of_le_of_lt hle (hlength hcount)
      next => exact Nat.lt_of_le_of_lt hle hbound
    rw [Option.map_some, Option.map_some, Binary64.roundCents_ofInt hn]

/-- Up to the numbers that can be told apart, rows merge exactly however the groups part the
records. -/
theorem mergesExactly (havg : x.aggregation ≠ .avg)
    (hnull : ∀ r ∈ records, (r.get Catalog.freight.textField).isNull = false)
    (hlength : x.aggregation = .count → records.length < 2 ^ 53)
    (hbound : ((Memory.integers metric records).map Int.natAbs).sum < 2 ^ 53) :
    x.MergesExactly s metric records := by
  by_cases hlimit : ((Memory.texts Catalog.freight.textField records).length : Int) ≤
    s.categoryLimit
  · exact ⟨_, batchValue_termRows havg hnull hlimit hlength hbound,
      fun _ => roundCents_exact hlength hbound⟩
  · obtain ⟨value?, hvalue⟩ := exists_batchValue_termRows s metric havg hlength
    exact ⟨value?, hvalue, fun hle => absurd hle hlimit⟩

theorem read_integers (hbound : ((Memory.integers metric records).map Int.natAbs).sum < 2 ^ 53)
    (n : Int) (hn : n ∈ Memory.integers metric records) :
    Arithmetic.read (.int n) = .ok (Arithmetic.ofInt n : Binary64) := by
  have hle : n.natAbs ≤ ((Memory.integers metric records).map Int.natAbs).sum :=
    List.le_sum_of_mem (List.mem_map_of_mem hn)
  exact Arithmetic.read_int (Nat.lt_of_le_of_lt hle hbound)

theorem exists_exactPoints_iff (h : x.OverIntegers s tables scope range metric records)
    (havg : x.aggregation ≠ .avg)
    (hread : ∀ t ∈ x.terms,
      ∀ n ∈ Memory.integers metric (Memory.termRecords .freight scope range t records),
      Arithmetic.read (.int n) = .ok (Arithmetic.ofInt n : Binary64)) :
    (∃ points,
      (x.run .freight s (Memory.store .freight tables) scope range metric).result = .ok points ∧
        x.ExactPoints s scope range metric records points) ↔
      x.Answerable s scope range records ∧
        ∀ t ∈ x.terms,
          x.MergesExactly s metric (Memory.termRecords .freight scope range t records) := by
  constructor
  · rintro ⟨points, hresult, hexact⟩
    have hx := h.answerable hread hresult
    choose! values hvalues using h.exists_batchValue havg hx hread hresult
    rw [h.run_eq_ok hx hread hvalues] at hresult
    cases hresult
    refine ⟨hx, fun t ht => ⟨values t, hvalues t ht, fun hlimit => ?_⟩⟩
    have hpoint := hexact.find?_eq t ht hlimit
    rw [find?_filterMap_label _ h.terms_nodup ht] at hpoint
    cases hv : values t with
    | none =>
      rw [hv] at hpoint
      rw [Option.map_none, eq_comm, Option.map_eq_none_iff]
      exact Option.map_eq_none_iff.1 hpoint.symm
    | some v =>
      rw [hv] at hpoint
      obtain ⟨n, hn, hpoint⟩ := Option.map_eq_some_iff.1 hpoint.symm
      rw [hn, Option.map_some, Option.map_some]
      exact congrArg some (Point.mk.inj hpoint).2.symm
  · rintro ⟨hx, hmerges⟩
    choose! values hvalues hexact using hmerges
    refine ⟨_, h.run_eq_ok hx hread hvalues, map_label_filterMap_sublist _ _, fun t ht => ?_⟩
    intro own hlimit
    have hrounded := hexact t ht hlimit
    rw [find?_filterMap_label _ h.terms_nodup ht, Arithmetic.roundCents_binary64, hrounded,
      Option.map_map]
    rfl

/-- Sums, counts, minima and maxima of integers are exact, exactly if the run can be answered
and a count of more records than numbers can tell apart merges exactly. -/
theorem exactPoints_iff (h : x.OverIntegers s tables scope range metric records)
    (havg : x.aggregation ≠ .avg)
    (hbound : ∀ t ∈ x.terms, ((Memory.integers metric
      (Memory.termRecords .freight scope range t records)).map Int.natAbs).sum < 10 ^ 15) :
    (∃ points,
      (x.run .freight s (Memory.store .freight tables) scope range metric).result = .ok points ∧
        x.ExactPoints s scope range metric records points) ↔
      x.Answerable s scope range records ∧
        ∀ t ∈ x.terms,
          let own := Memory.termRecords .freight scope range t records
          x.aggregation = .count → 2 ^ 53 ≤ own.length → x.MergesExactly s metric own := by
  have hbound (t : String) (ht : t ∈ x.terms) : ((Memory.integers metric
      (Memory.termRecords .freight scope range t records)).map Int.natAbs).sum < 2 ^ 53 :=
    Nat.lt_trans (hbound t ht) (by decide)
  rw [exists_exactPoints_iff h havg fun t ht => read_integers (hbound t ht)]
  refine and_congr_right
    fun _ => forall₂_congr fun t ht => ⟨fun hmerges _ _ => hmerges, fun hmany => ?_⟩
  by_cases hlength : x.aggregation = .count ∧
      2 ^ 53 ≤ (Memory.termRecords .freight scope range t records).length
  · exact hmany hlength.1 hlength.2
  · refine mergesExactly havg (fun r hr => Memory.isNull_of_mem_termRecords hr) ?_ (hbound t ht)
    intro hcount
    exact Nat.lt_of_not_le fun hle => hlength ⟨hcount, hle⟩

def drawers (day : Json) : List Json :=
  [.object [("description", .text "Drawer Unit"), ("pickup_date", .text "2025-02-01"),
    ("retail", .int 5)],
   .object [("description", .text "Drawer Liner"), ("pickup_date", day), ("retail", .null)]]

theorem overIntegers_drawers (day : Json) (range : DateRange) :
    OverIntegers ⟨["Drawer"], .sum⟩ .usual [("shipment_item", drawers day)] .admin (some range)
      "retail" (drawers day) where
  terms_nodup := by decide
  table_eq := rfl
  isTable := by
    intro r hr
    simp only [drawers, List.mem_cons, List.not_mem_nil, or_false] at hr
    obtain rfl | rfl := hr <;> exact ⟨_, rfl⟩
  hasIntegers := by
    intro t _ r hr
    have hr := (List.mem_filter.1 hr).1
    simp only [drawers, List.mem_cons, List.not_mem_nil, or_false] at hr
    obtain rfl | rfl := hr
    · exact .inr ⟨5, rfl⟩
    · exact .inl rfl

theorem exactPoints_drawers :
    ∃ points, (Comparison.run .freight .usual
        (Memory.store .freight [("shipment_item", drawers (.text "2025-03-01"))]) .admin
        (some (.wholeYear 2025 (by decide) (by decide))) "retail" ⟨["Drawer"], .sum⟩).result =
        .ok points ∧
      ExactPoints ⟨["Drawer"], .sum⟩ .usual .admin
        (some (.wholeYear 2025 (by decide) (by decide))) "retail"
        (drawers (.text "2025-03-01")) points := by
  rw [exactPoints_iff (overIntegers_drawers _ _) (by decide) (by decide +kernel)]
  exact ⟨⟨by decide, by decide +kernel⟩, fun t ht hcount => by cases hcount⟩

/-- An integer beyond every number in the place of a day fails the run of a term whose sum is
clear. -/
theorem not_exactPoints_of_hugeDay :
    let range := DateRange.wholeYear 2025 (by decide) (by decide)
    let records := drawers (.int (Int.ofNat (Nat.pow 10 400)))
    let own := Memory.termRecords .freight .admin (some range) "Drawer" records
    OverIntegers ⟨["Drawer"], .sum⟩ .usual [("shipment_item", records)] .admin (some range)
      "retail" records ∧ ((Memory.integers "retail" own).map Int.natAbs).sum < 10 ^ 15 ∧
      ((Memory.texts "description" own).length : Int) ≤ Settings.usual.categoryLimit ∧
      ¬ ∃ points,
        (Comparison.run .freight .usual (Memory.store .freight [("shipment_item", records)])
          .admin (some range) "retail" ⟨["Drawer"], .sum⟩).result = .ok points ∧
        ExactPoints ⟨["Drawer"], .sum⟩ .usual .admin (some range) "retail" records points := by
  intro range records own
  have h := overIntegers_drawers (.int (Int.ofNat (Nat.pow 10 400))) range
  have hsublist : own.Sublist records := List.filter_sublist
  have hbound : ((Memory.integers "retail" own).map Int.natAbs).sum < 10 ^ 15 := by
    have hle : ((Memory.integers "retail" own).map Int.natAbs).sum ≤
        ((Memory.integers "retail" records).map Int.natAbs).sum :=
      ((Memory.integers_sublist "retail" hsublist).map Int.natAbs).sum_le_sum
        fun _ _ => Nat.zero_le _
    exact Nat.lt_of_le_of_lt hle (by decide)
  have htexts :
      ((Memory.texts "description" own).length : Int) ≤ Settings.usual.categoryLimit := by
    have hle := Text.length_distinct_le (own.map fun r => (r.get "description").plain)
    rw [List.length_map] at hle
    have htwo : own.length ≤ 2 := hsublist.length_le
    exact Int.le_trans (Int.ofNat_le.2 (Nat.le_trans hle htwo)) (by decide)
  have hhuge :
      records.any (Memory.hasHugeDay .freight .admin (some range) "Drawer") = true := by
    decide +kernel
  have hread (t : String) (ht : t ∈ ["Drawer"]) : ∀ n ∈ Memory.integers "retail"
      (Memory.termRecords .freight .admin (some range) t records),
      Arithmetic.read (.int n) = .ok (Arithmetic.ofInt n : Binary64) := by
    obtain rfl := List.mem_singleton.1 ht
    exact read_integers (Nat.lt_trans hbound (by decide))
  refine ⟨h, hbound, htexts, ?_⟩
  rintro ⟨points, hresult, -⟩
  rw [h.run_of_huge (fun _ => by decide) hread ⟨"Drawer", .head _, hhuge⟩] at hresult
  cases hresult

end Comparison

end PromptChart
