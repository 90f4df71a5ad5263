import Mathlib.Algebra.Ring.Nat
import PromptChart.Proofs.Entries

namespace PromptChart

universe u

variable {α β : Type u}

def combine (op : α → α → α) : List α → Option α
  | [] => none
  | a :: rest => some (rest.foldl op a)

theorem exists_combine (op : α → α → α) {items : List α} (h : items ≠ []) :
    ∃ a, combine op items = some a := by
  obtain ⟨a, rest, rfl⟩ := List.exists_cons_of_ne_nil h
  exact ⟨_, rfl⟩

variable {op : α → α → α}

theorem combine_append [Std.Associative op] (one other : List α) :
    combine op (one ++ other) = (combine op one).merge op (combine op other) := by
  cases one with
  | nil => rw [combine, Option.merge_none_left, List.nil_append]
  | cons a one =>
    cases other with
    | nil => rw [List.append_nil, combine, combine, Option.merge_none_right]
    | cons b other =>
      rw [List.cons_append, combine, combine, combine, Option.merge_some_some,
        List.foldl_append, List.foldl_cons, List.foldl_assoc]

theorem combine_cons [Std.Associative op] (a : α) (rest : List α) :
    combine op (a :: rest) = Option.merge op (some a) (combine op rest) :=
  combine_append [a] rest

theorem combine_perm [Std.Associative op] [Std.Commutative op] {one other : List α}
    (h : one.Perm other) :
    combine op one = combine op other := by
  induction h with
  | nil => rfl
  | cons a _ ih => rw [combine_cons, combine_cons, ih]
  | swap a b rest =>
    have hassoc := (Option.associative_merge op).assoc
    rw [combine_cons, combine_cons, combine_cons, combine_cons, ← hassoc,
      (Option.commutative_merge op).comm (some b) (some a), hassoc]
  | trans _ _ ih ih' => exact ih.trans ih'

theorem combine_filterMap [Std.Associative op] (f : β → List α) (parts : List β) :
    combine op (parts.filterMap fun p => combine op (f p)) = combine op (parts.flatMap f) := by
  induction parts with
  | nil => rfl
  | cons p rest ih =>
    rw [List.flatMap_cons, combine_append, ← ih]
    cases hp : combine op (f p) with
    | none =>
      rw [List.filterMap_cons_none (f := fun p => combine op (f p)) hp, Option.merge_none_left]
    | some a => rw [List.filterMap_cons_some (f := fun p => combine op (f p)) hp, combine_cons]

/-- An operation that keeps one of two items for good: items that it has kept another over do
not come back. -/
structure IsSelective (op : α → α → α) : Prop where
  self : ∀ a, op a a = a
  absorbed : ∀ a b, op (op a b) b = op a b
  kept : ∀ a b c, op a c = a → op (op a b) c = op a b

theorem isSelective_of_before (before : α → α → Bool) (hself : ∀ a, ¬ before a a = true)
    (htrans : ∀ a b c, before a b = true → before b c = true → before a c = true) :
    IsSelective fun a b => if before b a then b else a where
  self a := ite_self a
  absorbed a b := by
    by_cases hba : before b a = true
    · simp only [if_pos hba, ite_self]
    · simp only [if_neg hba]
  kept a b c hac := by
    by_cases hba : before b a = true
    · simp only [if_pos hba]
      apply if_neg
      intro hcb
      have hca := htrans c b a hcb hba
      obtain rfl : c = a := (if_pos hca).symm.trans hac
      exact hself c hca
    · simp only [if_neg hba]
      exact hac

theorem IsSelective.foldl_absorbs (h : IsSelective op) {a c : α} {items : List α}
    (hc : op a c = a ∨ c ∈ items) :
    op (items.foldl op a) c = items.foldl op a := by
  induction items generalizing a with
  | nil => exact hc.resolve_right List.not_mem_nil
  | cons b rest ih =>
    rw [List.foldl_cons]
    apply ih
    rcases hc with hc | hc
    · exact .inl (h.kept a b c hc)
    · rcases List.mem_cons.1 hc with rfl | hrest
      · exact .inl (h.absorbed a c)
      · exact .inr hrest

theorem foldl_of_absorbs {a : α} {items : List α} (h : ∀ b ∈ items, op a b = a) :
    items.foldl op a = a := by
  induction items with
  | nil => rfl
  | cons b rest ih =>
    obtain ⟨hb, hrest⟩ := List.forall_mem_cons.1 h
    rw [List.foldl_cons, hb, ih hrest]

theorem combine_append_eq (one other : List α) :
    combine op (one ++ other) = (combine op one).elim (combine op other)
      fun a => some (other.foldl op a) := by
  cases one with
  | nil => rfl
  | cons a rest => rw [List.cons_append, combine, combine, List.foldl_append, Option.elim_some]

theorem IsSelective.combine_append_of_subset (h : IsSelective op) {one other : List α}
    (hsubset : other ⊆ one) :
    combine op (one ++ other) = combine op one := by
  cases one with
  | nil => rw [List.subset_nil.1 hsubset, List.append_nil]
  | cons a rest =>
    rw [combine_append_eq, combine, Option.elim_some]
    congr 1
    apply foldl_of_absorbs
    intro c hc
    apply h.foldl_absorbs
    rcases List.mem_cons.1 (hsubset hc) with rfl | hrest
    · exact .inl (h.self c)
    · exact .inr hrest

theorem IsSelective.combine_flatMap_distinct (h : IsSelective op) {ι : Type} [DecidableEq ι]
    (f : ι → List α) (items : List ι) :
    combine op ((Text.distinct items).flatMap f) = combine op (items.flatMap f) := by
  induction items using List.reverseRecOn with
  | nil => rfl
  | append_singleton items b ih =>
    rw [Text.distinct_append_singleton, List.flatMap_append, List.flatMap_singleton]
    split
    next hb => rw [ih, h.combine_append_of_subset fun a ha => List.mem_flatMap.2 ⟨b, hb, ha⟩]
    · rw [List.flatMap_append, List.flatMap_singleton, combine_append_eq, combine_append_eq, ih]

theorem rel_combine {r : α → α → Prop} (hrefl : ∀ a, r a a)
    (htrans : ∀ a b c, r a b → r b c → r a c) (hleft : ∀ a b, r (op a b) a)
    (hright : ∀ a b, r (op a b) b) {items : List α} {a b : α}
    (h : combine op items = some a) (hb : b ∈ items) : r a b := by
  cases items with
  | nil => cases h
  | cons first rest =>
    obtain rfl := Option.some.inj h
    clear h
    induction rest generalizing first b with
    | nil =>
      obtain rfl := List.mem_singleton.1 hb
      exact hrefl b
    | cons c rest ih =>
      rw [List.foldl_cons]
      obtain rfl | hlater := List.mem_cons.1 hb
      · exact htrans _ _ _ (ih _ (.head rest)) (hleft b c)
      · obtain rfl | hrest := List.mem_cons.1 hlater
        · exact htrans _ _ _ (ih _ (.head rest)) (hright first b)
        · exact ih _ (.tail _ hrest)

variable {weight : α → Nat}

theorem weight_foldl_le (h : ∀ a b, weight (op a b) ≤ weight a + weight b) (a : α)
    (items : List α) :
    weight (items.foldl op a) ≤ weight a + (items.map weight).sum := by
  induction items generalizing a with
  | nil => exact Nat.le_refl _
  | cons b rest ih =>
    rw [List.foldl_cons, List.map_cons, List.sum_cons, ← Nat.add_assoc]
    exact Nat.le_trans (ih (op a b)) (Nat.add_le_add_right (h a b) _)

theorem weight_combine_le (h : ∀ a b, weight (op a b) ≤ weight a + weight b) {items : List α}
    {a : α} (ha : combine op items = some a) : weight a ≤ (items.map weight).sum := by
  cases items with
  | nil => cases ha
  | cons b rest =>
    cases ha
    rw [List.map_cons, List.sum_cons]
    exact weight_foldl_le h b rest

theorem sum_weight_filterMap_le (h : ∀ a b, weight (op a b) ≤ weight a + weight b)
    (f : β → List α) (parts : List β) :
    ((parts.filterMap fun p => combine op (f p)).map weight).sum ≤
      ((parts.flatMap f).map weight).sum := by
  induction parts with
  | nil => exact Nat.le_refl _
  | cons p rest ih =>
    rw [List.flatMap_cons, List.map_append, List.sum_append]
    cases hp : combine op (f p) with
    | none =>
      rw [List.filterMap_cons_none (f := fun p => combine op (f p)) hp]
      exact Nat.le_trans ih (Nat.le_add_left _ _)
    | some a =>
      rw [List.filterMap_cons_some (f := fun p => combine op (f p)) hp, List.map_cons,
        List.sum_cons]
      exact Nat.add_le_add (weight_combine_le h hp) ih

end PromptChart
