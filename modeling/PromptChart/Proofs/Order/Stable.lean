import Mathlib.Order.Lattice
import PromptChart.Order.Insertion

namespace PromptChart.Order

variable {α : Type} {lt : α → α → Bool}

theorem insert_perm (x : α) (xs : List α) : (insert lt x xs).Perm (x :: xs) := by
  fun_induction insert lt x xs with
  | case1 xs h =>
    have hlength := congrArg List.length h
    rw [List.length_drop, List.length_nil] at hlength
    obtain rfl : xs = [] := List.length_eq_zero_iff.1 (by omega)
    exact .refl _
  | case2 xs y above h hlt ih =>
    have hxs : xs.take (xs.length / 2) ++ y :: above = xs := by rw [← h, List.take_append_drop]
    calc insert lt x (xs.take (xs.length / 2)) ++ y :: above
      _ |>.Perm (x :: xs.take (xs.length / 2) ++ y :: above) := ih.append_right _
      _ = x :: xs := by rw [List.cons_append, hxs]
  | case3 xs y above h hlt ih =>
    have hxs : xs.take (xs.length / 2) ++ y :: above = xs := by rw [← h, List.take_append_drop]
    calc xs.take (xs.length / 2) ++ y :: insert lt x above
      _ |>.Perm (xs.take (xs.length / 2) ++ y :: x :: above) := (ih.cons y).append_left _
      _ |>.Perm (xs.take (xs.length / 2) ++ x :: y :: above) :=
        (List.Perm.swap x y above).append_left _
      _ |>.Perm (x :: (xs.take (xs.length / 2) ++ y :: above)) := List.perm_middle
      _ = x :: xs := by rw [hxs]

theorem rising_perm (last : α) (run xs : List α) :
    ((rising lt last run xs).1 ++ (rising lt last run xs).2).Perm (last :: run ++ xs) := by
  fun_induction rising lt last run xs with
  | case1 last run => exact .refl _
  | case2 last run x rest h => exact .refl _
  | case3 last run x rest h ih =>
    apply ih.trans
    exact List.perm_middle.symm

theorem falling_perm (last : α) (run xs : List α) :
    ((falling lt last run xs).1 ++ (falling lt last run xs).2).Perm (last :: run ++ xs) := by
  fun_induction falling lt last run xs with
  | case1 last run => exact .refl _
  | case2 last run x rest h ih =>
    apply ih.trans
    exact List.perm_middle.symm
  | case3 last run x rest h => exact .refl _

theorem firstRun_perm (xs : List α) : ((firstRun lt xs).1 ++ (firstRun lt xs).2).Perm xs := by
  match xs with
  | [] => exact .refl _
  | [x] => exact .refl _
  | x :: y :: rest =>
    have hswap : (y :: [x] ++ rest).Perm (x :: y :: rest) := List.Perm.swap x y rest
    by_cases h : lt y x = true
    · simp only [firstRun, h, ↓reduceIte]
      exact (falling_perm y [x] rest).trans hswap
    · simp only [firstRun, h, Bool.false_eq_true, ↓reduceIte]
      exact ((List.reverse_perm _).append_right _).trans ((rising_perm y [x] rest).trans hswap)

theorem foldl_insert_perm (sorted xs : List α) :
    (xs.foldl (fun sorted x => insert lt x sorted) sorted).Perm (sorted ++ xs) := by
  induction xs generalizing sorted with
  | nil => rw [List.foldl_nil, List.append_nil]
  | cons x xs ih =>
    calc (xs.foldl (fun sorted x => insert lt x sorted) (insert lt x sorted))
      _ |>.Perm (insert lt x sorted ++ xs) := ih _
      _ |>.Perm (x :: sorted ++ xs) := (insert_perm x sorted).append_right _
      _ |>.Perm (sorted ++ x :: xs) := List.perm_middle.symm

theorem sort_perm (lt : α → α → Bool) (xs : List α) : (sort lt xs).Perm xs :=
  (foldl_insert_perm _ _).trans (firstRun_perm xs)

end PromptChart.Order

namespace PromptChart.Order

variable {α β : Type} [LinearOrder β] {lt : α → α → Bool} {key : α → β} {x : α}
  {xs sorted : List α}

/-- Does a comparison go by the keys of some items? -/
def GoesBy (lt : α → α → Bool) (key : α → β) (items : List α) : Prop :=
  ∀ a ∈ items, ∀ b ∈ items, (lt a b = true ↔ key a < key b)

def ofKey (key : α → β) (k : β) (items : List α) : List α := items.filter (key · = k)

theorem GoesBy.mono {items : List α} (h : GoesBy lt key items) (hxs : xs ⊆ items) :
    GoesBy lt key xs :=
  fun a ha b hb => h a (hxs ha) b (hxs hb)

theorem ofKey_append (k : β) (one other : List α) :
    ofKey key k (one ++ other) = ofKey key k one ++ ofKey key k other :=
  List.filter_append one other

theorem ofKey_cons (k : β) (x : α) (xs : List α) :
    ofKey key k (x :: xs) = ofKey key k [x] ++ ofKey key k xs :=
  ofKey_append k [x] xs

theorem ofKey_eq_nil {k : β} (h : ∀ a ∈ xs, key a ≠ k) : ofKey key k xs = [] :=
  List.filter_eq_nil_iff.2 fun a ha he => h a ha (of_decide_eq_true he)

theorem insert_eq_append (hsorted : xs.Pairwise fun a b => key a ≤ key b)
    (hlt : ∀ a ∈ xs, (lt x a = true ↔ key x < key a)) :
    ∃ before after, xs = before ++ after ∧ insert lt x xs = before ++ x :: after ∧
      (∀ a ∈ before, key a ≤ key x) ∧ ∀ b ∈ after, key x < key b := by
  fun_induction insert lt x xs with
  | case1 xs h =>
    have hlength := congrArg List.length h
    rw [List.length_drop, List.length_nil] at hlength
    obtain rfl : xs = [] := List.length_eq_zero_iff.1 (by omega)
    exact ⟨[], [], rfl, rfl, List.forall_mem_nil _, List.forall_mem_nil _⟩
  | case2 xs y above h hy ih =>
    have hxs : xs.take (xs.length / 2) ++ y :: above = xs := by rw [← h, List.take_append_drop]
    rw [← hxs] at hsorted hlt
    obtain ⟨hlow, hhigh, -⟩ := List.pairwise_append.1 hsorted
    obtain ⟨before, after, hsplit, hinsert, hbefore, hafter⟩ :=
      ih hlow fun a ha => hlt a (List.mem_append_left _ ha)
    have hxy : key x < key y := (hlt y (by simp)).1 hy
    refine ⟨before, after ++ y :: above, ?_, ?_, hbefore, ?_⟩
    · rw [← List.append_assoc, ← hsplit, hxs]
    · rw [hinsert, List.append_assoc, List.cons_append]
    · intro b hb
      rcases List.mem_append.1 hb with hb | hb
      · exact hafter b hb
      · rcases List.mem_cons.1 hb with rfl | hb
        · exact hxy
        · exact hxy.trans_le (List.rel_of_pairwise_cons hhigh hb)
  | case3 xs y above h hy ih =>
    have hxs : xs.take (xs.length / 2) ++ y :: above = xs := by rw [← h, List.take_append_drop]
    rw [← hxs] at hsorted hlt
    obtain ⟨-, hhigh, hcross⟩ := List.pairwise_append.1 hsorted
    obtain ⟨before, after, hsplit, hinsert, hbefore, hafter⟩ :=
      ih hhigh.of_cons fun a ha => hlt a (List.mem_append_right _ (.tail _ ha))
    have hyx : key y ≤ key x := not_lt.1 fun hxy => hy ((hlt y (by simp)).2 hxy)
    refine ⟨xs.take (xs.length / 2) ++ y :: before, after, ?_, ?_, ?_, hafter⟩
    · rw [List.append_assoc, List.cons_append, ← hsplit, hxs]
    · rw [hinsert, List.append_assoc, List.cons_append]
    · intro a ha
      rcases List.mem_append.1 ha with ha | ha
      · exact (hcross a ha y (.head _)).trans hyx
      · rcases List.mem_cons.1 ha with rfl | ha
        · exact hyx
        · exact hbefore a ha

theorem insert_pairwise (hsorted : xs.Pairwise fun a b => key a ≤ key b)
    (hlt : ∀ a ∈ xs, (lt x a = true ↔ key x < key a)) :
    (insert lt x xs).Pairwise fun a b => key a ≤ key b := by
  obtain ⟨before, after, rfl, hinsert, hbefore, hafter⟩ := insert_eq_append hsorted hlt
  obtain ⟨hbelow, habove, hcross⟩ := List.pairwise_append.1 hsorted
  rw [hinsert, List.pairwise_append, List.pairwise_cons]
  refine ⟨hbelow, ⟨fun b hb => (hafter b hb).le, habove⟩, ?_⟩
  intro a ha b hb
  rcases List.mem_cons.1 hb with rfl | hb
  · exact hbefore a ha
  · exact hcross a ha b hb

theorem ofKey_insert (hsorted : xs.Pairwise fun a b => key a ≤ key b)
    (hlt : ∀ a ∈ xs, (lt x a = true ↔ key x < key a)) (k : β) :
    ofKey key k (insert lt x xs) = ofKey key k (xs ++ [x]) := by
  obtain ⟨before, after, rfl, hinsert, -, hafter⟩ := insert_eq_append hsorted hlt
  rw [hinsert, ofKey_append, ofKey_cons, ofKey_append, ofKey_append, List.append_assoc]
  congr 1
  by_cases hk : key x = k
  · have hnone : ofKey key k after = [] := by
      apply ofKey_eq_nil
      intro b hb
      rw [← hk]
      exact (hafter b hb).ne'
    rw [hnone, List.append_nil, List.nil_append]
  · have hnone : ofKey key k [x] = [] := by
      apply ofKey_eq_nil
      intro a ha
      obtain rfl := List.mem_singleton.1 ha
      exact hk
    rw [hnone, List.append_nil, List.nil_append]

/-- Items that go in one after another keep the order of the keys, and behind the others of
their keys. -/
theorem foldl_insert (hsorted : sorted.Pairwise fun a b => key a ≤ key b)
    (hlt : GoesBy lt key (sorted ++ xs)) :
    let all := xs.foldl (fun sorted x => insert lt x sorted) sorted
    (all.Pairwise fun a b => key a ≤ key b) ∧
      ∀ k, ofKey key k all = ofKey key k (sorted ++ xs) := by
  induction xs generalizing sorted with
  | nil => exact ⟨hsorted, fun k => by rw [List.foldl_nil, List.append_nil]⟩
  | cons x xs ih =>
    have hx : ∀ a ∈ sorted, (lt x a = true ↔ key x < key a) :=
      fun a ha => hlt x (by simp) a (List.mem_append_left _ ha)
    have hlater : GoesBy lt key (insert lt x sorted ++ xs) := by
      apply hlt.mono
      intro a ha
      rcases List.mem_append.1 ha with ha | ha
      · rcases List.mem_cons.1 ((insert_perm x sorted).mem_iff.1 ha) with rfl | ha
        · simp
        · exact List.mem_append_left _ ha
      · simp [ha]
    obtain ⟨hpairwise, hkeys⟩ := ih (insert_pairwise hsorted hx) hlater
    refine ⟨hpairwise, fun k => ?_⟩
    rw [List.foldl_cons, hkeys, ofKey_append, ofKey_insert hsorted hx, ← ofKey_append,
      List.append_assoc]
    rfl

theorem rising_run {last : α} {run : List α}
    (hrun : (last :: run).Pairwise fun a b => key b ≤ key a)
    (hlt : GoesBy lt key (last :: run ++ xs)) :
    let (run', rest) := rising lt last run xs
    (run'.Pairwise fun a b => key b ≤ key a) ∧
      run'.reverse ++ rest = (last :: run).reverse ++ xs := by
  fun_induction rising lt last run xs with
  | case1 last run => exact ⟨hrun, rfl⟩
  | case2 last run x rest h => exact ⟨hrun, rfl⟩
  | case3 last run x rest h ih =>
    have hle : key last ≤ key x :=
      not_lt.1 fun hless => h ((hlt x (by simp) last (by simp)).2 hless)
    have hnext : (x :: last :: run).Pairwise fun a b => key b ≤ key a := by
      refine hrun.cons fun a ha => ?_
      rcases List.mem_cons.1 ha with rfl | ha
      · exact hle
      · exact (List.rel_of_pairwise_cons hrun ha).trans hle
    obtain ⟨hpairwise, heq⟩ := ih hnext (hlt.mono (List.perm_middle.symm.subset))
    exact ⟨hpairwise, heq.trans (by simp)⟩

theorem falling_run {last : α} {run : List α}
    (hrun : (last :: run).Pairwise fun a b => key a < key b)
    (hlt : GoesBy lt key (last :: run ++ xs)) :
    let (run', rest) := falling lt last run xs
    (run'.Pairwise fun a b => key a < key b) ∧
      run'.reverse ++ rest = (last :: run).reverse ++ xs := by
  fun_induction falling lt last run xs with
  | case1 last run => exact ⟨hrun, rfl⟩
  | case3 last run x rest h => exact ⟨hrun, rfl⟩
  | case2 last run x rest h ih =>
    have hless : key x < key last := (hlt x (by simp) last (by simp)).1 h
    have hnext : (x :: last :: run).Pairwise fun a b => key a < key b := by
      refine hrun.cons fun a ha => ?_
      rcases List.mem_cons.1 ha with rfl | ha
      · exact hless
      · exact hless.trans (List.rel_of_pairwise_cons hrun ha)
    obtain ⟨hpairwise, heq⟩ := ih hnext (hlt.mono (List.perm_middle.symm.subset))
    exact ⟨hpairwise, heq.trans (by simp)⟩

/-- In strict order there is at most one item of a key, and it does not matter from which end it
is looked for. -/
theorem ofKey_reverse (h : xs.Pairwise fun a b => key a < key b) (k : β) :
    ofKey key k xs.reverse = ofKey key k xs := by
  have hsome : (ofKey key k xs).Pairwise fun a b => key a < key b := h.filter _
  have hkey : ∀ a ∈ ofKey key k xs, key a = k :=
    fun a ha => of_decide_eq_true (List.mem_filter.1 ha).2
  rw [ofKey, List.filter_reverse, ← ofKey]
  match hitems : ofKey key k xs with
  | [] => rfl
  | [a] => rfl
  | a :: b :: rest =>
    rw [hitems] at hsome hkey
    have hless := List.rel_of_pairwise_cons hsome (.head rest)
    rw [hkey a (.head _), hkey b (.tail _ (.head _))] at hless
    exact absurd hless (lt_irrefl k)

theorem firstRun_run (hlt : GoesBy lt key xs) :
    let (run, rest) := firstRun lt xs
    (run.Pairwise fun a b => key a ≤ key b) ∧
      ∀ k, ofKey key k (run ++ rest) = ofKey key k xs := by
  match xs with
  | [] => exact ⟨.nil, fun _ => rfl⟩
  | [x] => exact ⟨List.pairwise_singleton _ x, fun _ => rfl⟩
  | x :: y :: rest =>
    have hswap : GoesBy lt key (y :: [x] ++ rest) := hlt.mono (List.Perm.swap x y rest).subset
    by_cases h : lt y x = true
    · have hless : key y < key x := (hlt y (by simp) x (by simp)).1 h
      obtain ⟨hpairwise, heq⟩ := falling_run (List.pairwise_pair.2 hless) hswap
      simp only [firstRun, h, ↓reduceIte]
      refine ⟨hpairwise.imp le_of_lt, fun k => ?_⟩
      rw [ofKey_append, ← ofKey_reverse hpairwise, ← ofKey_append, heq]
      rfl
    · have hle : key x ≤ key y :=
        not_lt.1 fun hless => h ((hlt y (by simp) x (by simp)).2 hless)
      obtain ⟨hpairwise, heq⟩ := rising_run (List.pairwise_pair.2 hle) hswap
      simp only [firstRun, h, Bool.false_eq_true, ↓reduceIte]
      refine ⟨List.pairwise_reverse.2 hpairwise, fun k => ?_⟩
      rw [heq]
      rfl

theorem sort_pairwise (hlt : GoesBy lt key xs) :
    (sort lt xs).Pairwise fun a b => key a ≤ key b := by
  obtain ⟨hrun, -⟩ := firstRun_run hlt
  exact (foldl_insert hrun (hlt.mono (firstRun_perm xs).subset)).1

theorem ofKey_sort (hlt : GoesBy lt key xs) (k : β) :
    ofKey key k (sort lt xs) = ofKey key k xs := by
  obtain ⟨hrun, hkeys⟩ := firstRun_run hlt
  exact ((foldl_insert hrun (hlt.mono (firstRun_perm xs).subset)).2 k).trans (hkeys k)

theorem pairwise_of_ofKey {r : α → α → Prop} (h : ∀ k, (ofKey key k xs).Pairwise r) :
    xs.Pairwise fun a b => key a = key b → r a b := by
  induction xs with
  | nil => exact .nil
  | cons x xs ih =>
    refine .cons ?_ (ih fun k => (h k).sublist ((List.sublist_cons_self x xs).filter _))
    intro b hb hkey
    have hx := h (key x)
    rw [ofKey, List.filter_cons_of_pos (by simp)] at hx
    exact List.rel_of_pairwise_cons hx (List.mem_filter.2 ⟨hb, decide_eq_true hkey.symm⟩)

theorem sort_pairwise_of_key {r : α → α → Prop} (hlt : GoesBy lt key xs) (h : xs.Pairwise r) :
    (sort lt xs).Pairwise fun a b => key a = key b → r a b := by
  apply pairwise_of_ofKey
  intro k
  rw [ofKey_sort hlt]
  exact h.filter _

end PromptChart.Order
