import Mathlib.Algebra.Order.BigOperators.Group.List
import Mathlib.Data.List.Flatten
import PromptChart.Proofs.Binary64.Cents
import PromptChart.Proofs.Merge.Keyed
import PromptChart.Proofs.Store.Integers

namespace PromptChart

theorem Aggregation.combine_op_ofInt {kind : Aggregation} {ns : List Int}
    (h : (ns.map Int.natAbs).sum < 2 ^ 53) :
    combine kind.op (ns.map Binary64.ofInt) = (combine kind.join ns).map .ofInt := by
  cases ns with
  | nil => rfl
  | cons n rest =>
    rw [List.map_cons, List.sum_cons] at h
    rw [List.map_cons, combine, combine, Option.map_some, foldl_op_ofInt h]

theorem Cell.addRows_map_congr {α ν : Type} [Arithmetic ν] {kind : Aggregation}
    {f g : α → PartialRow ν} {items : List α}
    (h : ∀ a ∈ items, (f a).value = (g a).value ∧ (f a).count = (g a).count) (cell : Cell ν) :
    cell.addRows kind (items.map f) = cell.addRows kind (items.map g) := by
  induction items generalizing cell with
  | nil => rfl
  | cons a rest ih =>
    obtain ⟨⟨hvalue, hcount⟩, hrest⟩ := List.forall_mem_cons.1 h
    rw [List.map_cons, List.map_cons, addRows, addRows, List.foldlM_cons, List.foldlM_cons,
      hvalue, hcount]
    congr 1
    funext cell'
    exact ih hrest cell'

theorem Merger.batchValue_map_congr {α ν : Type} [Arithmetic ν] {kind : Aggregation}
    {f g : α → PartialRow ν} {items : List α}
    (h : ∀ a ∈ items, (f a).value = (g a).value ∧ (f a).count = (g a).count) :
    batchValue kind (items.map f) = batchValue kind (items.map g) := by
  have hcarries : items.filter (carries kind ∘ f) = items.filter (carries kind ∘ g) := by
    apply List.filter_congr
    intro a ha
    rw [Function.comp_apply, Function.comp_apply, carries, carries, (h a ha).1]
  have hrows : Cell.empty.addRows kind ((items.filter (carries kind ∘ g)).map f) =
      Cell.empty.addRows kind ((items.filter (carries kind ∘ g)).map g) :=
    Cell.addRows_map_congr (fun a ha => h a (List.mem_of_mem_filter ha)) _
  rw [batchValue, batchValue, batchCell_eq, batchCell_eq, List.filter_map, List.filter_map,
    hcarries, hrows]
  simp only [List.map_eq_nil_iff]

theorem filterMap_filter_isSome {α β : Type} (f : α → Option β) (items : List α) :
    (items.filter fun a => (f a).isSome).filterMap f = items.filterMap f := by
  induction items with
  | nil => rfl
  | cons a rest ih =>
    cases ha : f a with
    | none => rw [List.filter_cons_of_neg (by simp [ha]), List.filterMap_cons_none ha, ih]
    | some b => rw [List.filter_cons_of_pos (by simp [ha]), List.filterMap_cons_some ha,
        List.filterMap_cons_some ha, ih]

namespace Memory

variable {kind : Aggregation} {metric : String}
  {gs : Entries (List String) (List Json)} {e : List String × List Json}

def secondaryName (e : List String × List Json) : String :=
  (PartialRow.nonempty? (name? (e.1.getD 1 ""))).getD unknownGroup

def part (kind : Aggregation) (metric : String) (gs : Entries (List String) (List Json))
    (name : String) : List Int :=
  (gs.filter (secondaryName · = name)).filterMap (amount? kind metric)

def partNames (kind : Aggregation) (metric : String) (gs : Entries (List String) (List Json)) :
    List String :=
  Merger.keys kind (fun row : PartialRow => row.pairKey.2) (gs.map (pairRow kind metric))

theorem sum_integers_le (metric : String) {some : Entries (List String) (List Json)}
    (h : some.Sublist gs) :
    ((integers metric (some.flatMap (·.2))).map Int.natAbs).sum ≤
      ((integers metric (gs.flatMap (·.2))).map Int.natAbs).sum :=
  ((integers_sublist metric (h.flatMap (·.2))).map Int.natAbs).sum_le_sum
    fun _ _ => Nat.zero_le _

theorem sum_integers_lt_of_mem {n : Nat}
    (hbound : ((integers metric (gs.flatMap (·.2))).map Int.natAbs).sum < n) (he : e ∈ gs) :
    ((integers metric e.2).map Int.natAbs).sum < n := by
  have hle := sum_integers_le metric (List.singleton_sublist.2 he)
  rw [List.flatMap_singleton] at hle
  exact Nat.lt_of_le_of_lt hle hbound

theorem secondaryName_mem_partNames (havg : kind ≠ .avg)
    (hbound : ((integers metric (gs.flatMap (·.2))).map Int.natAbs).sum < 2 ^ 53) (he : e ∈ gs)
    (hadds : (amount? kind metric e).isSome = true) :
    secondaryName e ∈ partNames kind metric gs := by
  have hcarries : Merger.carries kind (pairRow kind metric e : PartialRow) = true := by
    rw [← hadds, ← carries_groupRow havg (sum_integers_lt_of_mem hbound he)]
    rfl
  apply Text.mem_distinct.2
  exact List.mem_map.2 ⟨_, List.mem_filter.2 ⟨List.mem_map_of_mem he, hcarries⟩, rfl⟩

theorem flatMap_part_perm (havg : kind ≠ .avg)
    (hbound : ((integers metric (gs.flatMap (·.2))).map Int.natAbs).sum < 2 ^ 53) :
    ((partNames kind metric gs).flatMap (part kind metric gs)).Perm
      (gs.filterMap (amount? kind metric)) := by
  -- A group that adds nothing has no name among those of the cells, so only the others are
  -- parted by name.
  let carried := gs.filter fun e => (amount? kind metric e).isSome
  have hpart : part kind metric gs = fun name =>
      (carried.filter (secondaryName · = name)).filterMap (amount? kind metric) := by
    funext name
    rw [part, List.filter_comm, filterMap_filter_isSome]
  have hcarried :
      ((partNames kind metric gs).flatMap fun name =>
        carried.filter (secondaryName · = name)).Perm
      carried := by
    apply Entries.flatMap_filter_perm secondaryName (Text.nodup_distinct _)
    intro e he
    obtain ⟨hmem, hadds⟩ := List.mem_filter.1 he
    exact secondaryName_mem_partNames havg hbound hmem hadds
  rw [hpart, ← List.filterMap_flatMap, ← filterMap_filter_isSome _ gs]
  exact hcarried.filterMap _

theorem exists_mergeRows_pairRow (havg : kind ≠ .avg) (hne : ∀ e ∈ gs, e.2 ≠ [])
    (hlength : kind = .count → (gs.flatMap (·.2)).length < 2 ^ 53)
    (hbound : ((integers metric (gs.flatMap (·.2))).map Int.natAbs).sum < 2 ^ 53) :
    ∃ cells : Entries String Binary64,
      mergeRows kind (fun row => row.pairKey.2) [gs.map (pairRow kind metric)] = .ok cells ∧
      combine kind.op (cells.map (·.2)) =
        (kind.exact (gs.flatMap (·.2)).length (integers metric (gs.flatMap (·.2)))).map
          .ofInt := by
  have hall := flatMap_part_perm havg hbound
  have hamounts : ((gs.filterMap (amount? kind metric)).map Int.natAbs).sum < 2 ^ 53 :=
    sum_amounts_lt hlength hbound
  let totals :=
    (partNames kind metric gs).filterMap
      fun name => combine kind.join (part kind metric gs name)
  have htotals : (totals.map Int.natAbs).sum < 2 ^ 53 := by
    apply Nat.lt_of_le_of_lt (sum_weight_filterMap_le kind.natAbs_join_le _ _)
    rwa [(hall.map Int.natAbs).sum_nat]
  have hvalue (name : String) : Merger.batchValue kind
      ([gs.map (pairRow kind metric)].flatten.filter fun row => row.pairKey.2 = name) =
        .ok ((combine kind.join (part kind metric gs name)).map Binary64.ofInt) := by
    have hsome : (gs.filter (secondaryName · = name)).Sublist gs := List.filter_sublist
    have hrows :
        Merger.batchValue kind
          ((gs.filter (secondaryName · = name)).map (pairRow kind metric)) =
        Merger.batchValue (ν := Binary64) kind
          ((gs.filter (secondaryName · = name)).map (groupRow kind metric)) :=
      Merger.batchValue_map_congr fun e _ => ⟨rfl, rfl⟩
    rw [List.flatten_singleton, List.filter_map]
    refine hrows.trans (Merger.batchValue_eq_ok havg (adds_amounts havg ?_) ?_)
    · exact Nat.lt_of_le_of_lt (sum_integers_le metric hsome) hbound
    · exact Nat.lt_of_le_of_lt
        (((hsome.filterMap _).map Int.natAbs).sum_le_sum fun _ _ => Nat.zero_le _) hamounts
  have hcells : (Entries.ofOptions (partNames kind metric gs) fun name =>
      ((combine kind.join (part kind metric gs name)).map Binary64.ofInt).map
        Arithmetic.roundCents).map (·.2) = totals.map Binary64.ofInt := by
    rw [Entries.map_snd_ofOptions, List.map_filterMap]
    apply List.filterMap_congr
    intro name hname
    -- The total of a part is an integer below the bound, which rounding to cents leaves as it
    -- is.
    cases hn : combine kind.join (part kind metric gs name) with
    | none => rfl
    | some n =>
      have hmem : n ∈ totals := List.mem_filterMap.2 ⟨name, hname, hn⟩
      have hle : n.natAbs ≤ (totals.map Int.natAbs).sum :=
        List.le_sum_of_mem (List.mem_map_of_mem hmem)
      exact congrArg some (Binary64.roundCents_ofInt (Nat.lt_of_le_of_lt hle htotals))
  have htotal : combine kind.join totals =
      kind.exact (gs.flatMap (·.2)).length (integers metric (gs.flatMap (·.2))) := by
    rw [combine_filterMap, combine_perm hall, combine_amounts havg hne]
  refine ⟨_, Merger.mergeRows_eq_ok hvalue, ?_⟩
  rw [← htotal, ← Aggregation.combine_op_ofInt htotals, ← hcells, List.flatten_singleton]
  rfl

end Memory

end PromptChart
