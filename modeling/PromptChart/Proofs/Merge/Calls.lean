import Mathlib.Algebra.Order.BigOperators.Group.List
import PromptChart.Proofs.Merge.Refused

namespace PromptChart

variable {κ : Type}

/-- A call: a batch of rows, and what each of them is merged under. -/
structure Call (κ : Type) where
  key : PartialRow → κ
  rows : List PartialRow

namespace Call

variable {kind : Aggregation} {call : Call κ}

def isRefused (kind : Aggregation) (call : Call κ) : Bool := call.rows.any (·.isRefused kind)

def items (kind : Aggregation) (call : Call κ) : List (κ × PartialRow) :=
  (call.rows.filter (Merger.carries kind)).map fun row => (call.key row, row)

theorem isRefused_eq_false_iff :
    call.isRefused kind = false ↔ ∀ row ∈ call.rows, row.isRefused kind = false := by
  simp [isRefused]

theorem exists_first_refused (h : call.isRefused kind = true) : ∃ taken row rest,
    call.rows = taken ++ row :: rest ∧ (∀ r ∈ taken, r.isRefused kind = false) ∧
      row.isRefused kind = true := by
  obtain ⟨row, hfirst⟩ :=
    Option.isSome_iff_exists.1 (List.find?_isSome.2 (List.any_eq_true.1 h))
  obtain ⟨hrow, taken, rest, hrows, htaken⟩ := List.find?_eq_some_iff_append.1 hfirst
  exact ⟨taken, row, rest, hrows, by simpa using htaken, hrow⟩

def accepted (kind : Aggregation) (calls : List (Call κ)) : List (Call κ) :=
  calls.filter (!·.isRefused kind)

theorem isRefused_of_mem_accepted {calls : List (Call κ)} (h : call ∈ accepted kind calls) :
    call.isRefused kind = false := by
  simpa [accepted] using (List.mem_filter.1 h).2

theorem accepted_of_isRefused (h : call.isRefused kind = true) (rest : List (Call κ)) :
    accepted kind (call :: rest) = accepted kind rest :=
  List.filter_cons_of_neg (by rw [h]; decide)

theorem accepted_of_not_isRefused (h : call.isRefused kind = false) (rest : List (Call κ)) :
    accepted kind (call :: rest) = call :: accepted kind rest :=
  List.filter_cons_of_pos (by rw [h]; rfl)

end Call

open Call

namespace Merger

variable [DecidableEq κ] {kind : Aggregation} {m : Merger κ} {call : Call κ}
  {calls : List (Call κ)}

/-- The merger after some calls, whether they fail or not. -/
def after (m : Merger κ) (calls : List (Call κ)) : Merger κ :=
  calls.foldl (fun m call => (m.addBatch call.key call.rows).1) m

def succeeded (m : Merger κ) : List (Call κ) → List (Call κ)
  | [] => []
  | call :: rest =>
    match m.addBatch call.key call.rows with
    | (m, none) => call :: succeeded m rest
    | (m, some _) => succeeded m rest

/-- Every call that fails leaves the cells as they were. -/
def Unchanged (m : Merger κ) (calls : List (Call κ)) : Prop :=
  ∀ before call later, calls = before ++ call :: later →
    ∀ f, ((m.after before).addBatch call.key call.rows).2 = some f →
      ((m.after before).addBatch call.key call.rows).1 = m.after before

theorem after_append (m : Merger κ) (one other : List (Call κ)) :
    m.after (one ++ other) = (m.after one).after other :=
  List.foldl_append

theorem kind_after (m : Merger κ) (calls : List (Call κ)) : (m.after calls).kind = m.kind := by
  induction calls generalizing m with
  | nil => rfl
  | cons call rest ih => exact (ih _).trans (kind_addBatch call.key m call.rows)

theorem kind_after_start (kind : Aggregation) (calls : List (Call κ)) :
    ((start kind : Merger κ).after calls).kind = kind := kind_after (start kind) calls

theorem addBatch_snd_eq (m : Merger κ) (call : Call κ) :
    (m.addBatch call.key call.rows).2 =
      if call.isRefused m.kind then some .tooLarge else none := by
  cases hcall : call.isRefused m.kind with
  | false =>
    obtain ⟨m', htake⟩ := exists_takeBatch call.key (isRefused_eq_false_iff.1 hcall)
    rw [addBatch_eq_of_takeBatch htake]
    rfl
  | true =>
    obtain ⟨taken, row, rest, hrows, htaken, hrow⟩ := exists_first_refused hcall
    obtain ⟨m', htake⟩ := exists_takeBatch call.key htaken
    have hkind : m'.kind = m.kind := kind_of_takeBatch htake
    rw [← hkind] at hrow
    rw [hrows, addBatch_of_isRefused htake hrow]
    rfl

theorem succeeded_eq_accepted (m : Merger κ) (calls : List (Call κ)) :
    m.succeeded calls = accepted m.kind calls := by
  induction calls generalizing m with
  | nil => rfl
  | cons call rest ih =>
    have hfails := m.addBatch_snd_eq call
    have hkind := kind_addBatch call.key m call.rows
    rw [succeeded]
    cases hcall : call.isRefused m.kind with
    | false =>
      rw [accepted_of_not_isRefused hcall]
      simp only [hcall, Bool.false_eq_true, ↓reduceIte] at hfails
      split
      next hadd =>
        rw [hadd] at hkind
        rw [ih, hkind]
      next hadd =>
        rw [hadd] at hfails
        cases hfails
    | true =>
      rw [accepted_of_isRefused hcall]
      simp only [hcall, ↓reduceIte] at hfails
      split
      next hadd =>
        rw [hadd] at hfails
        cases hfails
      next hadd =>
        rw [hadd] at hkind
        rw [ih, hkind]

theorem Unchanged.of_append {later : List (Call κ)} (h : m.Unchanged (calls ++ later)) :
    m.Unchanged calls := by
  rintro before failing rest rfl
  exact h before failing (rest ++ later) (by simp)

theorem Unchanged.after_eq (h : m.Unchanged calls) :
    m.after calls = m.after (accepted m.kind calls) := by
  -- The last call meets what the others have come to, so the calls are followed from their end.
  induction calls using List.reverseRecOn with
  | nil => rfl
  | append_singleton calls call ih =>
    have hsplit :
        accepted m.kind (calls ++ [call]) = accepted m.kind calls ++ accepted m.kind [call] :=
      List.filter_append _ _
    rw [hsplit, after_append, after_append, ← ih h.of_append]
    cases hcall : call.isRefused m.kind with
    | false =>
      rw [accepted_of_not_isRefused hcall]
      rfl
    | true =>
      rw [accepted_of_isRefused hcall]
      apply h calls call [] rfl .tooLarge
      rw [addBatch_snd_eq, kind_after, if_pos hcall]

def addItem (kind : Aggregation) (cells : Entries κ Cell) (item : κ × PartialRow) :
    Except Failure (Entries κ Cell) :=
  (cells.put item.1 ·) <$> Cell.add kind ((cells.get? item.1).getD .empty)
    (item.2.value.getD (Arithmetic.ofInt 0)) item.2.count

theorem takeBatch_eq_addItems (m : Merger κ) (call : Call κ) : m.takeBatch call.key call.rows =
    Merger.mk m.kind <$> (call.items m.kind).foldlM (addItem m.kind) m.cells := by
  rw [takeBatch_eq_foldlM, items, List.foldlM_map]
  rfl

theorem after_eq_addItems (h : ∀ call ∈ calls, call.isRefused m.kind = false) :
    Merger.mk m.kind <$> (calls.flatMap (·.items m.kind)).foldlM (addItem m.kind) m.cells =
      .ok (m.after calls) := by
  induction calls generalizing m with
  | nil => rfl
  | cons call rest ih =>
    obtain ⟨hcall, hrest⟩ := List.forall_mem_cons.1 h
    obtain ⟨m', htake⟩ := exists_takeBatch call.key (isRefused_eq_false_iff.1 hcall)
    have hafter : m.after (call :: rest) = m'.after rest := by
      rw [after, List.foldl_cons, addBatch_eq_of_takeBatch htake]
      rfl
    rw [takeBatch_eq_addItems] at htake
    obtain ⟨cells, hcells, rfl⟩ := map_eq_ok.1 htake
    rw [List.flatMap_cons, List.foldlM_append, hcells, ok_bind, hafter]
    exact ih (m := ⟨m.kind, cells⟩) hrest

def rowsFor (kind : Aggregation) (calls : List (Call κ)) (k : κ) : List PartialRow :=
  ((calls.flatMap (·.items kind)).filter (·.1 = k)).map (·.2)

theorem after_start_eq (h : ∀ call ∈ calls, call.isRefused kind = false) :
    ∃ cells : κ → Cell, (∀ k, Cell.empty.addRows kind (rowsFor kind calls k) = .ok (cells k)) ∧
      (start kind).after calls =
        ⟨kind, Entries.tabulate (Text.distinct ((calls.flatMap (·.items kind)).map (·.1)))
          cells⟩ := by
  have hafter :
      Merger.mk kind <$>
        Entries.gatherM (·.1) (fun _ => .empty) (fun cell (item : κ × PartialRow) =>
      Cell.add kind cell (item.2.value.getD (Arithmetic.ofInt 0)) item.2.count)
      (calls.flatMap (·.items kind)) =
        .ok ((start kind).after calls) := after_eq_addItems (m := start kind) h
  obtain ⟨es, hes, hstart⟩ := map_eq_ok.1 hafter
  obtain ⟨cells, hcells, rfl⟩ := Entries.gatherM_eq_ok.1 hes
  refine ⟨cells, fun k => ?_, hstart.symm⟩
  rw [Cell.addRows, rowsFor, List.foldlM_map]
  exact hcells k

theorem mem_keys_after_start_iff (h : (start kind).Unchanged calls) {k : κ} :
    k ∈ ((start kind).after calls).cells.map (·.1) ↔
      ∃ call ∈ calls, call.isRefused kind = false ∧ k ∈ (call.items kind).map (·.1) := by
  obtain ⟨cells, -, hafter⟩ := after_start_eq fun call (hcall : call ∈ accepted kind calls) =>
    isRefused_of_mem_accepted hcall
  have hkeys : ((start kind).after calls).cells.map (·.1) =
      Text.distinct (((accepted kind calls).flatMap (·.items kind)).map (·.1)) := by
    have hsame : (start kind).after calls = (start kind).after (accepted kind calls) :=
      h.after_eq
    rw [hsame, hafter, Entries.tabulate, List.map_map]
    exact List.map_id _
  rw [hkeys, Text.mem_distinct]
  simp only [accepted, List.mem_map, List.mem_flatMap, List.mem_filter, Bool.not_eq_true']
  constructor
  · rintro ⟨item, ⟨call, ⟨hcall, hrefused⟩, hitem⟩, rfl⟩
    exact ⟨call, hcall, hrefused, item, hitem, rfl⟩
  · rintro ⟨call, hcall, hrefused, item, hitem, rfl⟩
    exact ⟨item, ⟨call, ⟨hcall, hrefused⟩, hitem⟩, rfl⟩

omit [DecidableEq κ] in
theorem exists_result_of_ne_avg {m : Merger κ} (havg : m.kind ≠ .avg) :
    ∃ es, m.result = .ok es := by
  rw [result, exists_mapM_iff]
  intro e _
  obtain ⟨v, hv⟩ := e.2.exists_value havg
  exact ⟨_, bind_eq_ok.2 ⟨v, hv, rfl⟩⟩

def records (calls : List (Call κ)) (k : κ) : Int :=
  ((rowsFor .avg calls k).map fun row => max row.count 0).sum

theorem mem_keys_items_iff {k : κ} :
    k ∈ (calls.flatMap (·.items kind)).map (·.1) ↔ rowsFor kind calls k ≠ [] := by
  simp [rowsFor, List.filter_eq_nil_iff]

theorem records_nonneg (calls : List (Call κ)) (k : κ) : 0 ≤ records calls k := by
  apply List.sum_nonneg
  intro n hn
  obtain ⟨row, -, rfl⟩ := List.mem_map.1 hn
  exact Int.le_max_right _ _

/-- The values under a key have a mean unless their records are more than there are numbers. -/
theorem exists_value_iff_records {k : κ} {cell : Cell} (hk : rowsFor .avg calls k ≠ [])
    (hcell : Cell.empty.addRows .avg (rowsFor .avg calls k) = .ok cell) :
    (∃ v, cell.value .avg = .ok v) ↔ (Binary64.ofInt (records calls k)).isFinite = true := by
  obtain ⟨hcount, hplain⟩ := Cell.counts_of_addRows_avg hcell
  have hrecords : cell.count = records calls k := hcount.trans (Int.zero_add _)
  have hlength : 0 < (rowsFor .avg calls k).length := List.length_pos_iff.2 hk
  rw [← hrecords]
  apply Cell.exists_value_avg_iff
  · rw [hrecords]
    exact records_nonneg calls k
  · rw [hplain]
    omega

/-- An average has a result unless the records of a key are more than there are numbers. -/
theorem exists_result_avg_iff (h : ∀ call ∈ calls, call.isRefused .avg = false) :
    (∃ es, ((start .avg).after calls).result = .ok es) ↔
      ∀ k, (Binary64.ofInt (records calls k)).isFinite = true := by
  obtain ⟨cells, hcells, hafter⟩ := after_start_eq h
  rw [hafter, result, exists_mapM_iff]
  constructor
  · intro hresult k
    by_cases hk : rowsFor .avg calls k = []
    · rw [records, hk]
      exact Binary64.isFinite_ofInt (by decide)
    · rw [← exists_value_iff_records hk (hcells k)]
      have hentry := List.mem_map_of_mem (Text.mem_distinct.2 (mem_keys_items_iff.2 hk))
        (f := fun k => (k, cells k))
      obtain ⟨e, he⟩ := hresult (k, cells k) hentry
      obtain ⟨v, hv, -⟩ := bind_eq_ok.1 he
      exact ⟨v, hv⟩
  · intro hfinite e he
    obtain ⟨k, hk, rfl⟩ := List.mem_map.1 he
    have hrows : rowsFor .avg calls k ≠ [] := mem_keys_items_iff.1 (Text.mem_distinct.1 hk)
    obtain ⟨v, hv⟩ := (exists_value_iff_records hrows (hcells k)).2 (hfinite k)
    exact ⟨_, bind_eq_ok.2 ⟨v, hv, rfl⟩⟩

end Merger

/-- One of the calls fails on a row, after the calls and the rows before it. -/
structure FailsOn (kind : Aggregation) (calls before : List (Call κ)) (key : PartialRow → κ)
    (taken : List PartialRow) (row : PartialRow) : Prop where
  split : ∃ rest later, calls = before ++ ⟨key, taken ++ row :: rest⟩ :: later
  taken_ok : ∀ r ∈ taken, r.isRefused kind = false
  refused : row.isRefused kind = true

section FailsOn

variable {kind : Aggregation} {calls before later : List (Call κ)} {call : Call κ}
  {key : PartialRow → κ} {taken : List PartialRow} {row : PartialRow}

theorem FailsOn.append (h : FailsOn kind calls before key taken row) (later : List (Call κ)) :
    FailsOn kind (calls ++ later) before key taken row := by
  obtain ⟨⟨rest, between, rfl⟩, htaken, hrow⟩ := h
  exact ⟨⟨rest, between ++ later, by simp⟩, htaken, hrow⟩

theorem exists_failsOn_of_isRefused (hcalls : calls = before ++ call :: later)
    (h : call.isRefused kind = true) :
    ∃ taken row rest, call.rows = taken ++ row :: rest ∧
      FailsOn kind calls before call.key taken row := by
  obtain ⟨taken, row, rest, hrows, htaken, hrow⟩ := exists_first_refused h
  refine ⟨taken, row, rest, hrows, ⟨rest, later, ?_⟩, htaken, hrow⟩
  rw [hcalls, ← hrows]

end FailsOn

namespace Merger

variable [DecidableEq κ] {kind : Aggregation} {calls : List (Call κ)}

/-- Does a call that fails on a row come to nothing? An earlier call has a cell for the row, and
the rows before it have no values for an average, or counts that leave the cells as they are. -/
def Harmless (kind : Aggregation) (before : List (Call κ)) (key : PartialRow → κ)
    (taken : List PartialRow) (row : PartialRow) : Prop :=
  (∃ call ∈ before, call.isRefused kind = false ∧ key row ∈ (call.items kind).map (·.1)) ∧
    (kind = .avg → ∀ r ∈ taken, r.value = none) ∧
    (kind = .count → (((start kind).after before).addBatch key taken).1 =
      (start kind).after before)

/-- A call that fails leaves the merger as it was exactly if it comes to nothing. -/
theorem harmless_iff {before : List (Call κ)} {key : PartialRow → κ} {taken : List PartialRow}
    {row : PartialRow} (hbefore : (start kind).Unchanged before)
    (htaken : ∀ r ∈ taken, r.isRefused kind = false) (hrow : row.isRefused kind = true)
    (rest : List PartialRow) :
    (((start kind).after before).addBatch key (taken ++ row :: rest)).1 =
      (start kind).after before ↔ Harmless kind before key taken row := by
  have hkind : ((start kind).after before).kind = kind := kind_after_start kind before
  rw [← hkind] at htaken hrow
  obtain ⟨m', htake⟩ := exists_takeBatch key htaken
  have hsame := takeBatch_eq_self_iff htake hrow
  rw [← kind_of_takeBatch htake] at hrow
  rw [addBatch_fst_eq_self_iff htake hrow, hsame, hkind, mem_keys_after_start_iff hbefore]
  exact and_comm

/-- Failing calls leave the cells as they were exactly if each of them comes to nothing. -/
theorem unchanged_start_iff : (start kind).Unchanged calls ↔
    ∀ before key taken row, FailsOn kind calls before key taken row →
      Harmless kind before key taken row := by
  constructor
  · rintro h before key taken row ⟨⟨rest, later, rfl⟩, htaken, hrow⟩
    rw [← harmless_iff h.of_append htaken hrow rest]
    apply h before ⟨key, taken ++ row :: rest⟩ later rfl .tooLarge
    rw [addBatch_snd_eq ((start kind).after before) ⟨key, taken ++ row :: rest⟩,
      kind_after_start, if_pos]
    simp [isRefused, hrow]
  · intro h
    -- Whether a call comes to nothing depends on the calls before it, so the calls are followed
    -- from their end.
    induction calls using List.reverseRecOn with
    | nil => simp [Unchanged]
    | append_singleton calls last ih =>
      have hcalls :=
        ih fun before key taken row hfails => h before key taken row (hfails.append [last])
      intro before call later hsplit f hf
      obtain rfl | ⟨later, final, rfl⟩ := List.eq_nil_or_concat' later
      · obtain ⟨rfl, hlast⟩ := List.append_inj' hsplit rfl
        obtain rfl := (List.cons.inj hlast).1
        have hrefused : last.isRefused kind = true := by
          by_contra hok
          rw [addBatch_snd_eq, kind_after_start, if_neg hok] at hf
          cases hf
        obtain ⟨taken, row, rest, hrows, hfails⟩ := exists_failsOn_of_isRefused hsplit hrefused
        rw [hrows, harmless_iff hcalls hfails.taken_ok hfails.refused]
        exact h calls last.key taken row hfails
      · rw [← List.cons_append, ← List.append_assoc] at hsplit
        obtain ⟨hinit, -⟩ := List.append_inj' hsplit rfl
        exact hcalls before call later hinit f hf

/-- Failing calls leave a merger intact: each of them leaves the cells as they were, and in the
end there is a result, the one of the calls that have not failed. -/
structure IsIntact (kind : Aggregation) (calls : List (Call κ)) : Prop where
  unchanged : (start kind).Unchanged calls
  result : ∃ es, ((start kind).after calls).result = .ok es ∧
    ((start kind).after ((start kind).succeeded calls)).result = .ok es

/-- Failing calls leave a merger intact exactly if each of them comes to nothing, and no key of
an average has more records than there are numbers. A sum, a minimum and a maximum refuse no
row, so that no call on them fails. -/
theorem isIntact_iff (kind : Aggregation) (calls : List (Call κ)) :
    IsIntact kind calls ↔
      (∀ before key taken row, FailsOn kind calls before key taken row →
        Harmless kind before key taken row) ∧
      (kind = .avg →
        ∀ k, (Binary64.ofInt (records (accepted kind calls) k)).isFinite = true) := by
  have hsucceeded : (start kind).succeeded calls = accepted kind calls :=
    (start kind).succeeded_eq_accepted calls
  have hok : ∀ call ∈ accepted kind calls, call.isRefused kind = false :=
    fun _ => isRefused_of_mem_accepted
  constructor
  · rintro ⟨hunchanged, es, -, hes⟩
    refine ⟨unchanged_start_iff.1 hunchanged, ?_⟩
    rintro rfl
    rw [hsucceeded] at hes
    exact (exists_result_avg_iff hok).1 ⟨es, hes⟩
  · rintro ⟨hharmless, hrecords⟩
    have hunchanged : (start kind).Unchanged calls := unchanged_start_iff.2 hharmless
    have hafter : (start kind).after calls = (start kind).after (accepted kind calls) :=
      hunchanged.after_eq
    obtain ⟨es, hes⟩ : ∃ es, ((start kind).after (accepted kind calls)).result = .ok es := by
      by_cases havg : kind = .avg
      · subst havg
        exact (exists_result_avg_iff hok).2 (hrecords rfl)
      · exact exists_result_of_ne_avg (by rwa [kind_after_start])
    exact ⟨hunchanged, es, by rw [hafter, hes], by rw [hsucceeded, hes]⟩

/-- A call on an average fails on its only row and leaves a cell without values, of which there
is no mean. -/
theorem not_forall_isIntact :
    ¬ ∀ (kind : Aggregation) (calls : List (Call String)), IsIntact kind calls := by
  intro h
  let row : PartialRow := ⟨none, none, some "A", some 10, 10 ^ 400⟩
  obtain ⟨-, es, hes, -⟩ := h .avg [⟨PartialRow.labelKey, [row]⟩]
  have hresult : ((start .avg).after [⟨PartialRow.labelKey, [row]⟩]).result =
      .error .divisionByZero := by
    decide +kernel
  cases hresult.symm.trans hes

end Merger

end PromptChart
