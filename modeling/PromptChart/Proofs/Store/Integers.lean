import PromptChart.Proofs.Merge.Integer
import PromptChart.Proofs.Store.Groups

namespace PromptChart

namespace Aggregation

/-- What records come to that have the given integers in them: nothing where there is nothing to
sum up. -/
def exact (kind : Aggregation) (records : Nat) (values : List Int) : Option Int :=
  match kind with
  | .sum => if values = [] then none else some values.sum
  | .avg => none
  | .count => if records = 0 then none else some records
  | .min => values.min?
  | .max => values.max?

variable {kind : Aggregation}

theorem combine_sum (values : List Int) :
    combine Aggregation.sum.join values = if values = [] then none else some values.sum := by
  cases values with
  | nil => rfl
  | cons a rest =>
    rw [if_neg (List.cons_ne_nil a rest), List.sum_eq_foldl, List.foldl_cons, Int.zero_add]
    rfl

theorem exact_eq_combine (hcount : kind ≠ .count) (havg : kind ≠ .avg) (records : Nat)
    (values : List Int) :
    kind.exact records values = combine kind.join values := by
  cases kind with
  | sum => rw [combine_sum, exact]
  | avg => exact absurd rfl havg
  | count => exact absurd rfl hcount
  | min => cases values <;> rfl
  | max => cases values <;> rfl

theorem exact_perm {one other : List Int} (h : one.Perm other) (records : Nat) :
    kind.exact records one = kind.exact records other := by
  by_cases hcount : kind = .count
  · rw [hcount]
    rfl
  · by_cases havg : kind = .avg
    · rw [havg]
      rfl
    · rw [exact_eq_combine hcount havg, exact_eq_combine hcount havg, combine_perm h]

theorem natAbs_exact_le {records : Nat} {values : List Int} {n : Int}
    (h : kind.exact records values = some n) :
    n.natAbs ≤ if kind = .count then records else (values.map Int.natAbs).sum := by
  by_cases hcount : kind = .count
  · subst hcount
    rw [exact, Option.ite_none_left_eq_some] at h
    obtain rfl := Option.some.inj h.2
    rw [if_pos rfl, Int.natAbs_natCast]
  · by_cases havg : kind = .avg
    · subst havg
      cases h
    · rw [exact_eq_combine hcount havg] at h
      rw [if_neg hcount]
      exact weight_combine_le kind.natAbs_join_le h

end Aggregation

namespace Memory

variable {kind : Aggregation} {metric : String} {ns : List Int} {records : Nat}

section

variable {ν : Type} [Arithmetic ν] (v : ν) (rest : List ν)

theorem reduce_sum_cons :
    reduce .sum records (v :: rest) =
      some (rest.foldl Aggregation.sum.op (Arithmetic.ofInt 0 + v)) := rfl

theorem reduce_min_cons :
    reduce .min records (v :: rest) = some (rest.foldl Aggregation.min.op v) := rfl

theorem reduce_max_cons :
    reduce .max records (v :: rest) = some (rest.foldl Aggregation.max.op v) := rfl

end

theorem reduce_ofInt (hcount : kind ≠ .count) (havg : kind ≠ .avg)
    (hbound : (ns.map Int.natAbs).sum < 2 ^ 53) :
    reduce kind records (ns.map Binary64.ofInt) = (combine kind.join ns).map .ofInt := by
  cases ns with
  | nil =>
    cases kind with
    | count => exact absurd rfl hcount
    | _ => rfl
  | cons n rest =>
    rw [List.map_cons, List.sum_cons] at hbound
    rw [List.map_cons, combine, Option.map_some, ← Aggregation.foldl_op_ofInt hbound]
    cases kind with
    | avg => exact absurd rfl havg
    | count => exact absurd rfl hcount
    | sum =>
      rw [reduce_sum_cons, Arithmetic.ofInt_binary64, Binary64.ofInt_add (by decide) (by omega),
        Int.zero_add]
    | min => rw [reduce_min_cons]
    | max => rw [reduce_max_cons]

def amount? (kind : Aggregation) (metric : String) (e : List String × List Json) : Option Int :=
  if kind = .count then some e.2.length else combine kind.join (integers metric e.2)

theorem value_groupRow {e : List String × List Json} (hcount : kind ≠ .count)
    (havg : kind ≠ .avg) (hbound : ((integers metric e.2).map Int.natAbs).sum < 2 ^ 53) :
    (groupRow kind metric e : PartialRow).value = (amount? kind metric e).map .ofInt := by
  rw [amount?, if_neg hcount, ← reduce_ofInt hcount havg hbound]
  rfl

theorem carries_groupRow {e : List String × List Json} (havg : kind ≠ .avg)
    (hbound : ((integers metric e.2).map Int.natAbs).sum < 2 ^ 53) :
    Merger.carries kind (groupRow kind metric e : PartialRow) =
      (amount? kind metric e).isSome := by
  by_cases hcount : kind = .count
  · rw [Merger.carries, decide_eq_true hcount, Bool.or_true, amount?, if_pos hcount,
      Option.isSome_some]
  · rw [Merger.carries, decide_eq_false hcount, Bool.or_false,
      value_groupRow hcount havg hbound, Option.isSome_map]

theorem adds_groupRow {e : List String × List Json} {n : Int} (havg : kind ≠ .avg)
    (hbound : ((integers metric e.2).map Int.natAbs).sum < 2 ^ 53)
    (h : amount? kind metric e = some n) :
    (groupRow kind metric e).Adds kind n := by
  by_cases hcount : kind = .count
  · subst hcount
    rw [amount?, if_pos rfl] at h
    exact Option.some.inj h
  · have hvalue := value_groupRow hcount havg hbound
    rw [h, Option.map_some] at hvalue
    cases kind with
    | avg => exact absurd rfl havg
    | count => exact absurd rfl hcount
    | _ => exact hvalue

theorem adds_amounts (havg : kind ≠ .avg) {gs : Entries (List String) (List Json)}
    (hbound : ((integers metric (gs.flatMap (·.2))).map Int.natAbs).sum < 2 ^ 53) :
    List.Forall₂ (PartialRow.Adds kind)
      ((gs.map (groupRow kind metric)).filter (Merger.carries kind))
      (gs.filterMap (amount? kind metric)) := by
  induction gs with
  | nil => exact .nil
  | cons e rest ih =>
    rw [List.flatMap_cons, integers_append, List.map_append, List.sum_append] at hbound
    have hrest := ih (by omega)
    have hcarries : Merger.carries kind (groupRow kind metric e : PartialRow) =
        (amount? kind metric e).isSome := carries_groupRow havg (by omega)
    rw [List.map_cons]
    cases he : amount? kind metric e with
    | none =>
      rw [he] at hcarries
      rw [List.filter_cons_of_neg (Bool.eq_false_iff.1 hcarries), List.filterMap_cons_none he]
      exact hrest
    | some n =>
      rw [he] at hcarries
      rw [List.filter_cons_of_pos hcarries, List.filterMap_cons_some he]
      exact .cons (adds_groupRow havg (by omega) he) hrest

theorem filterMap_amount?_count (gs : Entries (List String) (List Json)) :
    gs.filterMap (amount? .count metric) = gs.map fun e => (e.2.length : Int) := by
  rw [← List.filterMap_eq_map]
  rfl

theorem combine_lengths {gs : Entries (List String) (List Json)} (hne : ∀ e ∈ gs, e.2 ≠ []) :
    combine Aggregation.count.join (gs.map fun e => (e.2.length : Int)) =
      Aggregation.count.exact (gs.flatMap (·.2)).length [] := by
  have hsum : (gs.map fun e => (e.2.length : Int)).sum = (gs.flatMap (·.2)).length := by
    clear hne
    induction gs with
    | nil => rfl
    | cons e rest ih =>
      rw [List.map_cons, List.sum_cons, ih, List.flatMap_cons, List.length_append,
        Int.natCast_add]
  change combine Aggregation.sum.join _ = _
  rw [Aggregation.combine_sum, hsum, Aggregation.exact]
  cases gs with
  | nil => rfl
  | cons e rest =>
    have hlength : ((e :: rest).flatMap (·.2)).length ≠ 0 := by
      rw [List.flatMap_cons, List.length_append]
      have hpos := List.length_pos_iff.2 (hne e (.head rest))
      omega
    rw [List.map_cons, if_neg (List.cons_ne_nil _ _), if_neg hlength]

theorem combine_amounts (havg : kind ≠ .avg) {gs : Entries (List String) (List Json)}
    (hne : ∀ e ∈ gs, e.2 ≠ []) :
    combine kind.join (gs.filterMap (amount? kind metric)) =
      kind.exact (gs.flatMap (·.2)).length (integers metric (gs.flatMap (·.2))) := by
  by_cases hcount : kind = .count
  · subst hcount
    rw [filterMap_amount?_count, combine_lengths hne]
    rfl
  · have hamount : amount? kind metric = fun e => combine kind.join (integers metric e.2) := by
      funext e
      rw [amount?, if_neg hcount]
    rw [hamount, combine_filterMap, Aggregation.exact_eq_combine hcount havg, integers_flatMap]

theorem sum_amounts_lt {gs : Entries (List String) (List Json)}
    (hlength : kind = .count → (gs.flatMap (·.2)).length < 2 ^ 53)
    (hbound : ((integers metric (gs.flatMap (·.2))).map Int.natAbs).sum < 2 ^ 53) :
    ((gs.filterMap (amount? kind metric)).map Int.natAbs).sum < 2 ^ 53 := by
  by_cases hcount : kind = .count
  · subst hcount
    have hlength := hlength rfl
    rw [List.length_flatMap] at hlength
    rw [filterMap_amount?_count, List.map_map]
    exact hlength
  · have hamount : amount? kind metric = fun e => combine kind.join (integers metric e.2) := by
      funext e
      rw [amount?, if_neg hcount]
    rw [integers_flatMap] at hbound
    rw [hamount]
    exact Nat.lt_of_le_of_lt (sum_weight_filterMap_le kind.natAbs_join_le _ _) hbound

theorem batchValue_groupRow (havg : kind ≠ .avg) {gs : Entries (List String) (List Json)}
    (hne : ∀ e ∈ gs, e.2 ≠ []) (hlength : kind = .count → (gs.flatMap (·.2)).length < 2 ^ 53)
    (hbound : ((integers metric (gs.flatMap (·.2))).map Int.natAbs).sum < 2 ^ 53) :
    Merger.batchValue kind (gs.map (groupRow kind metric)) =
      .ok ((kind.exact (gs.flatMap (·.2)).length (integers metric (gs.flatMap (·.2)))).map
        Binary64.ofInt) := by
  rw [Merger.batchValue_eq_ok havg (adds_amounts havg hbound) (sum_amounts_lt hlength hbound),
    combine_amounts havg hne]

end Memory

end PromptChart
