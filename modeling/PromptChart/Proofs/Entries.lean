import Mathlib.Data.List.Basic
import Mathlib.Data.List.Induction
import Mathlib.Logic.Function.Basic
import PromptChart.Entries
import PromptChart.Proofs.Outcome
import PromptChart.Text.Search

namespace PromptChart

namespace Text

variable {α : Type} [DecidableEq α] {a : α} {items : List α}

theorem mem_distinct : a ∈ distinct items ↔ a ∈ items := by
  induction items with
  | nil => simp [distinct]
  | cons b rest ih =>
    by_cases h : a = b
    · simp [distinct, h]
    · simp [distinct, h, ih]

theorem distinct_eq_nil_iff : distinct items = [] ↔ items = [] := by
  cases items with
  | nil => rfl
  | cons a rest => simp only [distinct, reduceCtorEq]

theorem nodup_distinct (items : List α) : (distinct items).Nodup := by
  induction items with
  | nil => exact List.nodup_nil
  | cons b rest ih =>
    rw [distinct, List.nodup_cons]
    refine ⟨?_, ih.filter _⟩
    simp only [List.mem_filter, ne_eq, not_true_eq_false, decide_false, Bool.false_eq_true,
      and_false, not_false_eq_true]

theorem length_distinct_le (items : List α) : (distinct items).length ≤ items.length := by
  induction items with
  | nil => exact Nat.le_refl _
  | cons b rest ih =>
    rw [distinct, List.length_cons, List.length_cons]
    exact Nat.succ_le_succ (Nat.le_trans (List.length_filter_le _ _) ih)

theorem length_distinct_map_le {β : Type} [DecidableEq β] (f : α → β) (items : List α) :
    (distinct (items.map f)).length ≤ (distinct items).length := by
  have hsubset : distinct (items.map f) ⊆ (distinct items).map f := by
    intro b hb
    obtain ⟨a, ha, rfl⟩ := List.mem_map.1 (mem_distinct.1 hb)
    exact List.mem_map_of_mem (mem_distinct.2 ha)
  have hle := (nodup_distinct (items.map f)).length_le_of_subset hsubset
  rwa [List.length_map] at hle

theorem distinct_of_nodup (h : items.Nodup) : distinct items = items := by
  induction items with
  | nil => rfl
  | cons b rest ih =>
    obtain ⟨hb, hrest⟩ := List.nodup_cons.1 h
    rw [distinct, ih hrest]
    congr 1
    apply List.filter_eq_self.2
    intro a ha
    simp only [ne_eq, decide_eq_true_eq]
    rintro rfl
    exact hb ha

theorem distinct_append_singleton (items : List α) (a : α) :
    distinct (items ++ [a]) = if a ∈ items then distinct items else distinct items ++ [a] := by
  induction items with
  | nil => rfl
  | cons b rest ih =>
    rw [List.cons_append, distinct, ih, distinct]
    by_cases hrest : a ∈ rest
    · rw [if_pos hrest, if_pos (List.mem_cons_of_mem b hrest)]
    · rw [if_neg hrest, List.filter_append]
      by_cases hb : a = b
      · subst hb
        simp
      · have hcons : a ∉ b :: rest := by simp [hb, hrest]
        rw [if_neg hcons, List.cons_append]
        simp [hb]

theorem distinct_sublist (items : List α) : (distinct items).Sublist items := by
  induction items with
  | nil => exact .slnil
  | cons b rest ih => exact (List.filter_sublist.trans ih).cons_cons b

theorem distinct_append (one other : List α) :
    distinct (one ++ other) = distinct one ++ (distinct other).filter (· ∉ one) := by
  induction one with
  | nil =>
    have hall : (distinct other).filter (· ∉ ([] : List α)) = distinct other :=
      List.filter_eq_self.2 fun _ _ => decide_eq_true List.not_mem_nil
    rw [hall]
    rfl
  | cons b rest ih =>
    rw [List.cons_append, distinct, ih, distinct, List.filter_append, List.cons_append,
      List.filter_filter]
    congr 2
    apply List.filter_congr
    intro a _
    rw [Bool.eq_iff_iff]
    simp only [ne_eq, Bool.and_eq_true, decide_eq_true_eq, List.mem_cons, not_or]

theorem distinct_append_of_subset {one other : List α} (h : other ⊆ one) :
    distinct (one ++ other) = distinct one := by
  have hnone : (distinct other).filter (· ∉ one) = [] := by
    rw [List.filter_eq_nil_iff]
    intro a ha hnew
    exact of_decide_eq_true hnew (h (mem_distinct.1 ha))
  rw [distinct_append, hnone, List.append_nil]

theorem distinct_append_cons_of_mem {a : α} {one : List α} (h : a ∈ one) (other : List α) :
    distinct (one ++ a :: other) = distinct (one ++ other) := by
  have hsubset : [a] ⊆ one := List.cons_subset.2 ⟨h, List.nil_subset one⟩
  have hmem (b : α) : b ∈ one ++ [a] ↔ b ∈ one := by
    rw [List.mem_append, or_iff_left_of_imp fun hb => hsubset hb]
  rw [List.append_cons, distinct_append, distinct_append_of_subset hsubset, distinct_append]
  simp only [hmem]

theorem distinct_flatMap_distinct {β : Type} [DecidableEq β] (f : β → List α) (items : List β) :
    distinct ((distinct items).flatMap f) = distinct (items.flatMap f) := by
  induction items using List.reverseRecOn with
  | nil => rfl
  | append_singleton items b ih =>
    rw [distinct_append_singleton, List.flatMap_append, List.flatMap_singleton]
    split
    next hb =>
      have hsubset : f b ⊆ items.flatMap f := fun a ha => List.mem_flatMap.2 ⟨b, hb, ha⟩
      rw [ih, distinct_append_of_subset hsubset]
    · rw [List.flatMap_append, List.flatMap_singleton, distinct_append, distinct_append, ih]
      simp only [List.mem_flatMap, mem_distinct]

theorem distinct_filterMap {β : Type} [DecidableEq β] {f : β → Option α}
    (hf : ∀ b b' a, f b = some a → f b' = some a → b = b') (items : List β) :
    distinct (items.filterMap f) = (distinct items).filterMap f := by
  induction items with
  | nil => rfl
  | cons b rest ih =>
    rw [distinct]
    cases hb : f b with
    | none =>
      rw [List.filterMap_cons_none hb, List.filterMap_cons_none hb, ih, List.filterMap_filter]
      apply List.filterMap_congr
      intro b' _
      split
      · rfl
      next heq =>
        obtain rfl : b' = b := by simpa using heq
        exact hb
    | some a =>
      rw [List.filterMap_cons_some hb, List.filterMap_cons_some hb, distinct, ih,
        List.filter_filterMap, List.filterMap_filter]
      congr 1
      apply List.filterMap_congr
      intro b' _
      cases hb' : f b' with
      | none => simp
      | some a' =>
        have hsame : a' = a ↔ b' = b := by
          constructor
          · rintro rfl
            exact hf b' b a' hb' hb
          · rintro rfl
            exact Option.some.inj (hb'.symm.trans hb)
        by_cases heq : b' = b
        · simp [hsame.2 heq, heq]
        · simp [mt hsame.1 heq, heq]

theorem distinct_filter (p : α → Bool) (items : List α) :
    distinct (items.filter p) = (distinct items).filter p := by
  induction items with
  | nil => rfl
  | cons b rest ih =>
    cases hb : p b with
    | true =>
      rw [List.filter_cons_of_pos hb, distinct, distinct, ih, List.filter_cons_of_pos hb,
        List.filter_comm]
    | false =>
      have hne :
          (distinct rest).filter p = ((distinct rest).filter (decide <| · ≠ b)).filter p := by
        rw [List.filter_filter]
        apply List.filter_congr
        intro a _
        cases ha : p a with
        | false => rfl
        | true =>
          have hab : a ≠ b := by
            rintro rfl
            rw [ha] at hb
            cases hb
          rw [decide_eq_true hab]
          rfl
      rw [List.filter_cons_of_neg (Bool.eq_false_iff.1 hb), distinct, ih,
        List.filter_cons_of_neg (Bool.eq_false_iff.1 hb), hne]

theorem distinct_map {β : Type} [DecidableEq β] {f : α → β} (hf : f.Injective)
    (items : List α) :
    distinct (items.map f) = (distinct items).map f := by
  induction items with
  | nil => rfl
  | cons b rest ih =>
    rw [List.map_cons, distinct, distinct, ih, List.map_cons, List.filter_map]
    congr 2
    apply List.filter_congr
    intro a _
    simp only [Function.comp_apply, ne_eq, hf.eq_iff]

theorem distinct_pairwise_findIdx {α β : Type} [DecidableEq β] (f : α → β) (items : List α) :
    (distinct (items.map f)).Pairwise fun a b =>
      items.findIdx (f · = a) < items.findIdx (f · = b) := by
  induction items with
  | nil => exact .nil
  | cons first rest ih =>
    have hlater : ∀ a ∈ (distinct (rest.map f)).filter (· ≠ f first),
        (first :: rest).findIdx (f · = a) = rest.findIdx (f · = a) + 1 := by
      intro a ha
      have hne : f first ≠ a := (of_decide_eq_true (List.mem_filter.1 ha).2).symm
      rw [List.findIdx_cons, decide_eq_false hne, cond_false]
    rw [List.map_cons, distinct, List.pairwise_cons]
    constructor
    · intro a ha
      rw [hlater a ha, List.findIdx_cons, decide_eq_true rfl, cond_true]
      exact Nat.succ_pos _
    · refine (ih.filter _).imp_of_mem fun ha hb hless => ?_
      rw [hlater _ ha, hlater _ hb]
      exact Nat.succ_lt_succ hless

end Text

namespace Entries

variable {κ α β : Type} [DecidableEq κ] {key : κ} {keys : List κ} {f g : κ → α}

def tabulate (keys : List κ) (f : κ → α) : Entries κ α := keys.map fun k => (k, f k)

omit [DecidableEq κ] in
theorem tabulate_congr (h : ∀ k ∈ keys, f k = g k) : tabulate keys f = tabulate keys g := by
  apply List.map_congr_left
  intro k hk
  rw [h k hk]

theorem mem_of_lookup {es : Entries κ α} {value : α} (h : es.lookup key = some value) :
    (key, value) ∈ es := by
  obtain ⟨before, after, rfl, -⟩ := List.lookup_eq_some_iff.1 h
  exact List.mem_append_right _ (.head _)

theorem lookup_of_mem {es : Entries κ α} (hkeys : (es.map (·.1)).Nodup) {value : α}
    (h : (key, value) ∈ es) :
    es.lookup key = some value := by
  obtain ⟨before, after, rfl⟩ := List.append_of_mem h
  rw [List.map_append, List.map_cons, List.nodup_append] at hkeys
  refine List.lookup_eq_some_iff.2 ⟨before, after, rfl, fun e he => ?_⟩
  rw [bne_iff_ne]
  exact (hkeys.2.2 e.1 (List.mem_map_of_mem he) key (.head _)).symm

theorem lookup_filter_ne {k : κ} (h : k ≠ key) (es : Entries κ α) :
    (es.filter fun e => e.1 ≠ key).lookup k = es.lookup k := by
  induction es with
  | nil => rfl
  | cons e rest ih =>
    by_cases he : e.1 = key
    · have hk : (k == e.1) = false := by rwa [he, beq_eq_false_iff_ne]
      rw [List.filter_cons_of_neg (by simp [he]), ih, List.lookup_cons, hk]
    · rw [List.filter_cons_of_pos (by simp [he]), List.lookup_cons, List.lookup_cons, ih]

theorem get?_tabulate :
    get? key (tabulate keys f) = if key ∈ keys then some (f key) else none := by
  induction keys with
  | nil => rfl
  | cons k rest ih =>
    rw [tabulate, List.map_cons, get?]
    by_cases h : k = key
    · rw [if_pos h, if_pos (by rw [h]; exact List.mem_cons_self), h]
    · have hne : key ≠ k := fun e => h e.symm
      rw [if_neg h, ← tabulate, ih]
      simp only [List.mem_cons, hne, false_or]

theorem put_tabulate_of_not_mem (h : key ∉ keys) (value : α) :
    put key value (tabulate keys f) =
      tabulate (keys ++ [key]) (Function.update f key value) := by
  induction keys with
  | nil => simp only [tabulate, put, List.map_nil, List.nil_append, List.map_cons,
    Function.update_self]
  | cons k rest ih =>
    obtain ⟨hne, hrest⟩ := List.ne_and_not_mem_of_not_mem_cons h
    have hstep := ih hrest
    simp only [tabulate] at hstep
    simp only [tabulate, List.map_cons, put, if_neg hne.symm, hstep, List.cons_append,
      Function.update_of_ne hne.symm]

theorem put_tabulate_of_mem (hkeys : keys.Nodup) (h : key ∈ keys) (value : α) :
    put key value (tabulate keys f) = tabulate keys (Function.update f key value) := by
  induction keys with
  | nil => cases h
  | cons k rest ih =>
    obtain ⟨hk, hrest⟩ := List.nodup_cons.1 hkeys
    by_cases he : k = key
    · subst he
      have htail : tabulate rest f = tabulate rest (Function.update f k value) := by
        apply tabulate_congr
        intro k' hk'
        rw [Function.update_of_ne]
        rintro rfl
        exact hk hk'
      simp only [tabulate] at htail
      simp only [tabulate, List.map_cons, put, ↓reduceIte, Function.update_self, htail]
    · have hmem : key ∈ rest := (List.mem_cons.1 h).resolve_left (fun e => he e.symm)
      have hstep := ih hrest hmem
      simp only [tabulate] at hstep
      simp only [tabulate, List.map_cons, put, if_neg he, hstep, Function.update_of_ne he]

theorem put_of_get?_eq_none {es : Entries κ α} (h : es.get? key = none) (value : α) :
    es.put key value = es ++ [(key, value)] := by
  induction es with
  | nil => rfl
  | cons e rest ih =>
    by_cases he : e.1 = key
    · simp only [get?, he, ↓reduceIte] at h
      cases h
    · simp only [get?, he, ↓reduceIte] at h
      rw [put, if_neg he, ih h, List.cons_append]

theorem get?_put_self (es : Entries κ α) (value : α) :
    (es.put key value).get? key = some value := by
  induction es with
  | nil => simp only [put, get?, ↓reduceIte]
  | cons e rest ih =>
    by_cases he : e.1 = key
    · simp only [put, he, ↓reduceIte, get?]
    · simp only [put, he, ↓reduceIte, get?, ih]

theorem get?_put (es : Entries κ α) (k : κ) (value : α) :
    (es.put k value).get? key = if k = key then some value else es.get? key := by
  by_cases hk : k = key
  · rw [if_pos hk, ← hk, get?_put_self]
  · rw [if_neg hk]
    induction es with
    | nil => simp only [put, get?, if_neg hk]
    | cons e rest ih =>
      by_cases he : e.1 = k
      · simp only [put, he, ↓reduceIte, get?, hk]
      · simp only [put, he, ↓reduceIte, get?, ih]

theorem put_put (es : Entries κ α) (first value : α) :
    (es.put key first).put key value = es.put key value := by
  induction es with
  | nil => simp only [put, ↓reduceIte]
  | cons e rest ih =>
    by_cases he : e.1 = key
    · simp only [put, he, ↓reduceIte]
    · simp only [put, he, ↓reduceIte, ih]

theorem get?_of_mem {es : Entries κ α} (hkeys : (es.map (·.1)).Nodup) {value : α}
    (h : (key, value) ∈ es) :
    es.get? key = some value := by
  induction es with
  | nil => cases h
  | cons e rest ih =>
    obtain ⟨hnew, hrest⟩ := List.nodup_cons.1 hkeys
    cases h with
    | head => simp only [get?, ↓reduceIte]
    | tail _ h =>
      have hne : e.1 ≠ key := by
        rintro rfl
        exact hnew (List.mem_map.2 ⟨_, h, rfl⟩)
      rw [get?, if_neg hne, ih hrest h]

theorem mem_of_get? {es : Entries κ α} {value : α} (h : es.get? key = some value) :
    (key, value) ∈ es := by
  induction es with
  | nil => cases h
  | cons e rest ih =>
    by_cases he : e.1 = key
    · simp only [get?, he, ↓reduceIte, Option.some.injEq] at h
      rw [← he, ← h]
      exact .head rest
    · simp only [get?, he, ↓reduceIte] at h
      exact .tail e (ih h)

theorem get?_eq_none {es : Entries κ α} (h : key ∉ es.map (·.1)) : es.get? key = none := by
  cases hget : es.get? key with
  | none => rfl
  | some value => exact absurd (List.mem_map_of_mem (mem_of_get? hget)) h

theorem get?_foldl_put {es : Entries κ α} (hkeys : (es.map (·.1)).Nodup) (acc : Entries κ α) :
    (es.foldl (fun acc e => put e.1 e.2 acc) acc).get? key =
      (es.get? key).or (acc.get? key) := by
  induction es generalizing acc with
  | nil => rfl
  | cons e rest ih =>
    obtain ⟨hnew, hrest⟩ := List.nodup_cons.1 hkeys
    rw [List.foldl_cons, ih hrest, get?_put, get?]
    by_cases he : e.1 = key
    · have hnone : get? key rest = none := by
        apply get?_eq_none
        rwa [← he]
      rw [if_pos he, if_pos he, hnone]
      rfl
    · rw [if_neg he, if_neg he]

theorem put_of_get?_eq_some {es : Entries κ α} {value : α} (h : es.get? key = some value) :
    es.put key value = es := by
  induction es with
  | nil => cases h
  | cons e rest ih =>
    by_cases he : e.1 = key
    · subst he
      simp only [get?, ↓reduceIte, Option.some.injEq] at h
      subst h
      simp only [put, ↓reduceIte]
    · simp only [get?, he, ↓reduceIte] at h
      simp only [put, he, ↓reduceIte, ih h]

theorem exists_get?_of_mem {es : Entries κ α} (h : key ∈ es.map (·.1)) :
    ∃ value, es.get? key = some value := by
  induction es with
  | nil => cases h
  | cons e rest ih =>
    by_cases he : e.1 = key
    · exact ⟨e.2, by simp only [get?, he, ↓reduceIte]⟩
    · obtain ⟨value, hvalue⟩ := ih ((List.mem_cons.1 h).resolve_left (Ne.symm he))
      exact ⟨value, by simp only [get?, he, ↓reduceIte, hvalue]⟩

theorem length_le_put (es : Entries κ α) (key : κ) (value : α) :
    es.length ≤ (es.put key value).length := by
  induction es with
  | nil => exact Nat.zero_le _
  | cons e rest ih =>
    by_cases he : e.1 = key
    · simp only [put, he, ↓reduceIte, List.length_cons, Nat.le_refl]
    · simp only [put, he, ↓reduceIte, List.length_cons]
      exact Nat.succ_le_succ ih

theorem mem_keys_of_put {es : Entries κ α} {value : α} {k : κ}
    (h : k ∈ (es.put key value).map (·.1)) :
    k = key ∨ k ∈ es.map (·.1) := by
  induction es with
  | nil => exact .inl (List.mem_singleton.1 h)
  | cons e rest ih =>
    by_cases he : e.1 = key
    · simp only [put, he, ↓reduceIte, List.map_cons] at h
      rw [List.map_cons, he]
      exact .inr h
    · simp only [put, he, ↓reduceIte, List.map_cons, List.mem_cons] at h
      rw [List.map_cons]
      obtain rfl | hrest := h
      · exact .inr (.head _)
      · exact (ih hrest).imp_right (.tail _)

theorem keys_put (es : Entries κ α) (value : α) :
    (es.put key value).map (·.1) =
      if key ∈ es.map (·.1) then es.map (·.1) else es.map (·.1) ++ [key] := by
  induction es with
  | nil => rfl
  | cons e rest ih =>
    rw [put, List.map_cons]
    by_cases he : e.1 = key
    · rw [if_pos he, if_pos (he ▸ List.mem_cons_self)]
      rfl
    · simp only [if_neg he, List.map_cons, ih, List.mem_cons, Ne.symm he, false_or]
      split <;> rfl

theorem keys_foldl_put {acc : Entries κ α} (hacc : (acc.map (·.1)).Nodup) (es : Entries κ α) :
    (es.foldl (fun acc e => put e.1 e.2 acc) acc).map (·.1) =
      Text.distinct (acc.map (·.1) ++ es.map (·.1)) := by
  induction es using List.reverseRecOn with
  | nil =>
    rw [List.map_nil, List.append_nil, Text.distinct_of_nodup hacc]
    rfl
  | append_singleton es e ih =>
    rw [List.foldl_concat, keys_put, ih, List.map_append, ← List.append_assoc,
      List.map_singleton, Text.distinct_append_singleton]
    simp only [Text.mem_distinct]

theorem foldl_put_eq_append {acc es : Entries κ α} (h : (acc.map (·.1) ++ es.map (·.1)).Nodup) :
    es.foldl (fun acc e => put e.1 e.2 acc) acc = acc ++ es := by
  induction es generalizing acc with
  | nil => rw [List.foldl_nil, List.append_nil]
  | cons e rest ih =>
    rw [List.map_cons] at h
    have hnew : e.1 ∉ acc.map (·.1) :=
      fun hmem => (List.nodup_append.1 h).2.2 _ hmem _ (.head _) rfl
    have hrest : ((acc ++ [e]).map (·.1) ++ rest.map (·.1)).Nodup := by
      rwa [List.map_append, List.append_assoc]
    rw [List.foldl_cons, put_of_get?_eq_none (get?_eq_none hnew), ih hrest, List.append_assoc]
    rfl

theorem get?_map_snd (es : Entries κ α) (f : α → β) :
    get? key (es.map fun e => (e.1, f e.2)) = (es.get? key).map f := by
  induction es with
  | nil => rfl
  | cons e rest ih =>
    by_cases he : e.1 = key
    · simp only [List.map_cons, get?, he, ↓reduceIte, Option.map_some]
    · simp only [List.map_cons, get?, he, ↓reduceIte, ih]

theorem get?_append (es rest : Entries κ α) :
    (es ++ rest).get? key = (es.get? key).or (rest.get? key) := by
  induction es with
  | nil => rfl
  | cons e es ih =>
    by_cases he : e.1 = key
    · simp only [List.cons_append, get?, he, ↓reduceIte, Option.some_or]
    · simp only [List.cons_append, get?, he, ↓reduceIte, ih]

theorem get?_append_toList {k : κ} (hne : k ≠ key) (es : Entries κ α) (value? : Option α) :
    get? key (es ++ (value?.map (k, ·)).toList) = es.get? key := by
  rw [get?_append]
  cases value? with
  | none => exact Option.or_none
  | some value =>
    simp only [Option.map_some, Option.toList_some, get?, hne, ↓reduceIte, Option.or_none]

def ofOptions (keys : List κ) (f : κ → Option α) : Entries κ α :=
  keys.filterMap fun k => (f k).map (k, ·)

omit [DecidableEq κ] in
theorem ofOptions_cons (k : κ) (rest : List κ) (f : κ → Option α) :
    ofOptions (k :: rest) f = ((f k).map (k, ·)).toList ++ ofOptions rest f := by
  cases hk : f k with
  | none => rw [ofOptions, List.filterMap_cons_none (by rw [hk]; rfl)]; rfl
  | some a => rw [ofOptions, List.filterMap_cons_some (by rw [hk]; rfl)]; rfl

theorem get?_ofOptions (keys : List κ) (f : κ → Option α) :
    (ofOptions keys f).get? key = if key ∈ keys then f key else none := by
  induction keys with
  | nil => rfl
  | cons k rest ih =>
    rw [ofOptions_cons, get?_append, ih]
    by_cases he : k = key
    · subst he
      cases hk : f k with
      | none => simp [get?]
      | some a => simp [get?]
    · have hne : key ≠ k := fun e => he e.symm
      cases hk : f k with
      | none => simp [get?, hne]
      | some a => simp [get?, he, hne]

omit [DecidableEq κ] in
theorem tabulate_eq_ofOptions (keys : List κ) (f : κ → α) :
    tabulate keys f = ofOptions keys fun k => some (f k) := by
  rw [ofOptions, tabulate, ← List.filterMap_eq_map]
  rfl

omit [DecidableEq κ] in
theorem map_snd_ofOptions (keys : List κ) (f : κ → Option α) :
    (ofOptions keys f).map (·.2) = keys.filterMap f := by
  rw [ofOptions, List.map_filterMap]
  apply List.filterMap_congr
  intro k _
  cases f k <;> rfl

omit [DecidableEq κ] in
theorem ofOptions_filter (p : κ → Bool) (keys : List κ) (f : κ → Option α) :
    ofOptions (keys.filter p) f = (ofOptions keys f).filter fun e => p e.1 := by
  induction keys with
  | nil => rfl
  | cons k rest ih =>
    cases hk : p k with
    | true =>
      rw [List.filter_cons_of_pos hk, ofOptions_cons, ofOptions_cons, List.filter_append, ih]
      cases f k with
      | none => rfl
      | some a => simp [hk]
    | false =>
      rw [List.filter_cons_of_neg (Bool.eq_false_iff.1 hk), ofOptions_cons, List.filter_append,
        ih]
      cases f k with
      | none => rfl
      | some a => simp [hk]

omit [DecidableEq κ] in
theorem ofOptions_map {ι : Type} (g : ι → κ) (keys : List ι) (f : κ → Option α) :
    ofOptions (keys.map g) f = (ofOptions keys fun i => f (g i)).map fun e => (g e.1, e.2) := by
  rw [ofOptions, ofOptions, List.filterMap_map, List.map_filterMap]
  apply List.filterMap_congr
  intro i _
  simp only [Function.comp_apply, Option.map_map]
  rfl

/-- Items taken one after another into the value of their key; a key starts out with a value of
its own. -/
def gatherM {ε : Type} (key : β → κ) (start : κ → α) (step : α → β → Except ε α)
    (items : List β) : Except ε (Entries κ α) :=
  items.foldlM (fun acc item =>
    (acc.put (key item) ·) <$> step ((acc.get? (key item)).getD (start (key item))) item) []

theorem put_tabulate_distinct (key : β → κ) (items : List β) (x : β) (value : α) :
    put (key x) value (tabulate (Text.distinct (items.map key)) f) =
      tabulate (Text.distinct ((items ++ [x]).map key)) (Function.update f (key x) value) := by
  rw [List.map_append, List.map_cons, List.map_nil, Text.distinct_append_singleton]
  by_cases hmem : key x ∈ items.map key
  · rw [if_pos hmem, put_tabulate_of_mem (Text.nodup_distinct _) (Text.mem_distinct.2 hmem)]
  · rw [if_neg hmem, put_tabulate_of_not_mem fun h => hmem (Text.mem_distinct.1 h)]

theorem getD_get?_tabulate {start : κ → α} (key : β → κ) (items : List β)
    (h : ∀ k, k ∉ items.map key → f k = start k) (k : κ) :
    ((tabulate (Text.distinct (items.map key)) f).get? k).getD (start k) = f k := by
  rw [get?_tabulate]
  split
  · rfl
  next hk => exact (h k fun hmem => hk (Text.mem_distinct.2 hmem)).symm

/-- Every key comes to what its own items come to; the keys stand in the order of their first
items. -/
theorem gatherM_eq_ok {ε : Type} {key : β → κ} {start : κ → α} {step : α → β → Except ε α}
    {items : List β} {es : Entries κ α} :
    gatherM key start step items = .ok es ↔
      ∃ f : κ → α, (∀ k, (items.filter (key · = k)).foldlM step (start k) = .ok (f k)) ∧
        es = tabulate (Text.distinct (items.map key)) f := by
  have hnone {items : List β} {f : κ → α}
      (hf : ∀ k, (items.filter (key · = k)).foldlM step (start k) = .ok (f k)) (k : κ)
      (hk : k ∉ items.map key) : f k = start k := by
    have hnil : items.filter (key · = k) = [] := by
      rw [List.filter_eq_nil_iff]
      intro item hitem he
      exact hk (List.mem_map.2 ⟨item, hitem, of_decide_eq_true he⟩)
    have hfk := hf k
    rw [hnil] at hfk
    exact (Except.ok.inj hfk).symm
  -- The last item changes nothing but the value of its own key, so the table is followed from
  -- the end of the items.
  induction items using List.reverseRecOn generalizing es with
  | nil =>
    constructor
    · intro h
      cases h
      exact ⟨start, fun _ => rfl, rfl⟩
    · rintro ⟨f, -, rfl⟩
      rfl
  | append_singleton items x ih =>
    rw [gatherM, foldlM_concat, ← gatherM, bind_eq_ok]
    constructor
    · rintro ⟨acc, hacc, hlast⟩
      obtain ⟨f, hf, rfl⟩ := ih.1 hacc
      rw [getD_get?_tabulate key items (hnone hf)] at hlast
      obtain ⟨value, hvalue, rfl⟩ := map_eq_ok.1 hlast
      refine ⟨Function.update f (key x) value, fun k => ?_,
        put_tabulate_distinct key items x value⟩
      by_cases hk : key x = k
      · subst hk
        simp [hf, hvalue]
      · simp [hk, hf, Function.update_of_ne (Ne.symm hk)]
    · rintro ⟨f, hf, rfl⟩
      obtain ⟨value, hvalue, hlast⟩ : ∃ value,
          (items.filter (key · = key x)).foldlM step (start (key x)) = .ok value ∧
            step value x = .ok (f (key x)) := by
        rw [← bind_eq_ok, ← foldlM_concat, ← hf (key x)]
        simp
      have hbefore (k : κ) :
          (items.filter (key · = k)).foldlM step (start k) =
            .ok (Function.update f (key x) value k) := by
        by_cases hk : key x = k
        · subst hk
          rw [Function.update_self, hvalue]
        · have hfk := hf k
          simpa [List.filter_append, hk, Function.update_of_ne (Ne.symm hk)] using hfk
      refine ⟨_, ih.2 ⟨_, hbefore, rfl⟩, ?_⟩
      rw [getD_get?_tabulate key items (hnone hbefore), Function.update_self, hlast, map_ok,
        put_tabulate_distinct, Function.update_idem, Function.update_eq_self]

def gather (key : β → κ) (items : List β) : Entries κ (List β) :=
  items.foldl (fun acc item => acc.put (key item) ((acc.get? (key item)).getD [] ++ [item])) []

theorem foldl_put_eq_tabulate (key : β → κ) (start : κ → α) (step : α → β → α)
    (items : List β) :
    items.foldl (fun acc item =>
        put (key item) (step ((get? (key item) acc).getD (start (key item))) item) acc) [] =
      tabulate (Text.distinct (items.map key))
        fun k => (items.filter (key · = k)).foldl step (start k) := by
  have hgather : gatherM (ε := Empty) key start (fun a b => .ok (step a b)) items =
      .ok (items.foldl (fun acc item =>
      put (key item) (step ((get? (key item) acc).getD (start (key item))) item) acc) []) :=
    foldlM_eq_ok_foldl (fun _ _ _ => rfl) []
  obtain ⟨f, hf, hes⟩ := gatherM_eq_ok.1 hgather
  rw [hes]
  apply tabulate_congr
  intro k _
  have hpure :
      (items.filter (key · = k)).foldlM (fun a b => (.ok (step a b) : Except Empty α))
        (start k) =
      .ok ((items.filter (key · = k)).foldl step (start k)) :=
    foldlM_eq_ok_foldl (fun _ _ _ => rfl) (start k)
  exact Except.ok.inj ((hf k).symm.trans hpure)

theorem gather_eq_tabulate (key : β → κ) (items : List β) :
    gather key items = tabulate (Text.distinct (items.map key))
      fun k => items.filter (key · = k) := by
  rw [gather, foldl_put_eq_tabulate key (fun _ => []) (fun members item => members ++ [item])]
  apply tabulate_congr
  intro k _
  rw [List.foldl_append_eq_append, List.nil_append, ← List.flatMap_def, List.flatMap_singleton']

theorem flatMap_filter_perm (key : β → κ) (hkeys : keys.Nodup) (items : List β)
    (h : ∀ item ∈ items, key item ∈ keys) :
    (keys.flatMap fun k => items.filter (key · = k)).Perm items := by
  induction keys generalizing items with
  | nil =>
    cases items with
    | nil => exact .refl _
    | cons item rest => cases h item (.head rest)
  | cons k rest ih =>
    obtain ⟨hk, hrest⟩ := List.nodup_cons.1 hkeys
    have hothers : (rest.flatMap fun k' => items.filter (key · = k')) =
        rest.flatMap fun k' =>
          (items.filter fun item => !decide (key item = k)).filter (key · = k') := by
      apply List.flatMap_congr
      intro k' hk'
      rw [List.filter_filter]
      apply List.filter_congr
      intro item _
      by_cases he : key item = k'
      · subst he
        have hne : key item ≠ k := by
          rintro rfl
          exact hk hk'
        simp [hne]
      · simp [he]
    have hcovered : ∀ item ∈ items.filter (fun item => !decide (key item = k)),
        key item ∈ rest := by
      intro item hitem
      obtain ⟨hmem, hne⟩ := List.mem_filter.1 hitem
      have hne : key item ≠ k := by simpa using hne
      exact (List.mem_cons.1 (h item hmem)).resolve_left hne
    rw [List.flatMap_cons, hothers]
    exact ((ih hrest _ hcovered).append_left _).trans (List.filter_append_perm _ items)

theorem gather_flatMap_perm (key : β → κ) (items : List β) :
    ((gather key items).flatMap (·.2)).Perm items := by
  rw [gather_eq_tabulate, tabulate, List.flatMap_map]
  apply flatMap_filter_perm key (Text.nodup_distinct _)
  intro item hitem
  exact Text.mem_distinct.2 (List.mem_map_of_mem hitem)

theorem ne_nil_of_mem_gather {key : β → κ} {items : List β} {e : κ × List β}
    (h : e ∈ gather key items) :
    e.2 ≠ [] := by
  rw [gather_eq_tabulate] at h
  obtain ⟨k, hk, rfl⟩ := List.mem_map.1 h
  obtain ⟨item, hitem, rfl⟩ := List.mem_map.1 (Text.mem_distinct.1 hk)
  exact List.ne_nil_of_mem (List.mem_filter.2 ⟨hitem, decide_eq_true rfl⟩)

theorem mem_of_mem_gather {key : β → κ} {items : List β} {e : κ × List β}
    (h : e ∈ gather key items) {item : β} (hitem : item ∈ e.2) : item ∈ items :=
  (gather_flatMap_perm key items).mem_iff.1 (List.mem_flatMap.2 ⟨e, h, hitem⟩)

theorem length_le_of_mem_gather {key : β → κ} {items : List β} {e : κ × List β}
    (h : e ∈ gather key items) :
    e.2.length ≤ items.length := by
  rw [gather_eq_tabulate] at h
  obtain ⟨k, -, rfl⟩ := List.mem_map.1 h
  exact List.length_filter_le _ items

theorem length_gather (key : β → κ) (items : List β) :
    (gather key items).length = (Text.distinct (items.map key)).length := by
  rw [gather_eq_tabulate, tabulate, List.length_map]

end Entries

end PromptChart
