import PromptChart.Proofs.Text.Words
import PromptChart.Regex.Search

namespace PromptChart.Regex

open Text (IsGap SameLetters)

/-- The place `d` lies behind `c`, and `x` stands between them. -/
structure Cursor.Goes (c : Cursor) (x : List Char) (d : Cursor) : Prop where
  before : d.before = x.reverse ++ c.before
  after : c.after = x ++ d.after

variable {c d m : Cursor} {x y : List Char} {accepts : Char → Bool}

theorem Cursor.Goes.trans (h : c.Goes x m) (h' : m.Goes y d) : c.Goes (x ++ y) d where
  before := by rw [h'.before, h.before, List.reverse_append, List.append_assoc]
  after := by rw [h.after, h'.after, List.append_assoc]

theorem Cursor.goes_nil_iff : c.Goes [] d ↔ c = d := by
  constructor
  · rintro ⟨hbefore, hafter⟩
    obtain ⟨before, after⟩ := d
    subst hbefore hafter
    rfl
  · rintro rfl
    exact ⟨rfl, rfl⟩

theorem Cursor.goes_append_iff : c.Goes (x ++ y) d ↔ ∃ m, c.Goes x m ∧ m.Goes y d := by
  constructor
  · rintro ⟨hbefore, hafter⟩
    refine ⟨⟨x.reverse ++ c.before, y ++ d.after⟩, ⟨rfl, ?_⟩, ⟨?_, rfl⟩⟩
    · rw [hafter, List.append_assoc]
    · rw [hbefore, List.reverse_append, List.append_assoc]
  · rintro ⟨m, hx, hy⟩
    exact hx.trans hy

theorem Cursor.goes_cons_iff {before text : List Char} {a b : Char} :
    Cursor.Goes ⟨before, b :: text⟩ (a :: x) d ↔
      a = b ∧ Cursor.Goes ⟨b :: before, text⟩ x d := by
  constructor
  · rintro ⟨hbefore, hafter⟩
    obtain ⟨rfl, hrest⟩ := List.cons.inj hafter
    exact ⟨rfl, by rw [hbefore, List.reverse_cons, List.append_assoc]; rfl, hrest⟩
  · rintro ⟨rfl, hbefore, hafter⟩
    exact ⟨by rw [hbefore, List.reverse_cons, List.append_assoc]; rfl, congrArg (a :: ·) hafter⟩

theorem Cursor.not_goes_cons_nil {before : List Char} {a : Char} :
    ¬ Cursor.Goes ⟨before, []⟩ (a :: x) d :=
  fun h => List.cons_ne_nil _ _ h.after.symm

/-- What an expression can take from one place to another. -/
def Takes : Regex → Cursor → Cursor → Prop
  | .empty, c, d => c.Goes [] d
  | .one accepts, c, d => ∃ a, accepts a = true ∧ c.Goes [a] d
  | .many accepts, c, d => ∃ x, (∀ a ∈ x, accepts a = true) ∧ c.Goes x d
  | .seq first second, c, d => ∃ m, first.Takes c m ∧ second.Takes m d
  | .alt first second, c, d => first.Takes c d ∨ second.Takes c d
  | .group _ body, c, d => body.Takes c d
  | .boundary, c, d => c.atBoundary = true ∧ c.Goes [] d

theorem mem_runs_iff {before text : List Char} {shorter : List Cursor} :
    d ∈ runs accepts before shorter text ↔
      d ∈ shorter ∨ ∃ x, (∀ a ∈ x, accepts a = true) ∧ Cursor.Goes ⟨before, text⟩ x d := by
  induction text generalizing before shorter with
  | nil =>
    rw [runs, List.mem_cons, or_comm]
    refine or_congr_right ?_
    rw [eq_comm]
    constructor
    · rintro rfl
      exact ⟨[], fun _ h => absurd h List.not_mem_nil, Cursor.goes_nil_iff.2 rfl⟩
    · rintro ⟨x, -, hgoes⟩
      cases x with
      | nil => exact Cursor.goes_nil_iff.1 hgoes
      | cons a x => exact absurd hgoes Cursor.not_goes_cons_nil
  | cons b rest ih =>
    -- a run is empty, or it takes the first character and goes on from there
    have hrun : (∃ x, (∀ a ∈ x, accepts a = true) ∧ Cursor.Goes ⟨before, b :: rest⟩ x d) ↔
        ⟨before, b :: rest⟩ = d ∨
          (accepts b = true ∧
            ∃ x, (∀ a ∈ x, accepts a = true) ∧ Cursor.Goes ⟨b :: before, rest⟩ x d) := by
      constructor
      · rintro ⟨x, hx, hgoes⟩
        cases x with
        | nil => exact .inl (Cursor.goes_nil_iff.1 hgoes)
        | cons a x =>
          obtain ⟨rfl, hgoes⟩ := Cursor.goes_cons_iff.1 hgoes
          obtain ⟨ha, hx⟩ := List.forall_mem_cons.1 hx
          exact .inr ⟨ha, x, hx, hgoes⟩
      · rintro (rfl | ⟨hb, x, hx, hgoes⟩)
        · exact ⟨[], fun _ h => absurd h List.not_mem_nil, Cursor.goes_nil_iff.2 rfl⟩
        · exact ⟨b :: x, List.forall_mem_cons.2 ⟨hb, hx⟩, Cursor.goes_cons_iff.2 ⟨rfl, hgoes⟩⟩
    rw [runs, hrun, eq_comm (b := d)]
    by_cases hb : accepts b = true
    · rw [if_pos hb, ih, List.mem_cons, or_assoc, or_left_comm, and_iff_right hb]
    · rw [if_neg hb, List.mem_cons, or_comm, eq_false hb, false_and, or_false]

theorem exists_mem_ends_iff (r : Regex) (s : State) (d : Cursor) :
    (∃ e ∈ r.ends s, e.cursor = d) ↔ r.Takes s.cursor d := by
  induction r generalizing s d with
  | empty => simp only [ends, List.mem_singleton, exists_eq_left, Takes, Cursor.goes_nil_iff]
  | one accepts =>
    obtain ⟨⟨before, after⟩, captures⟩ := s
    cases after with
    | nil => simp [ends, Takes, Cursor.not_goes_cons_nil]
    | cons b rest =>
      by_cases hb : accepts b = true <;>
        simp [ends, Takes, Cursor.goes_cons_iff, Cursor.goes_nil_iff, hb]
  | many accepts =>
    simp only [ends, List.mem_map, mem_runs_iff, List.not_mem_nil, false_or, Takes]
    constructor
    · rintro ⟨_, ⟨d, hd, rfl⟩, rfl⟩
      exact hd
    · exact fun hd => ⟨_, ⟨d, hd, rfl⟩, rfl⟩
  | seq first second ihf ihs =>
    simp only [ends, List.mem_flatMap, Takes, ← ihf]
    constructor
    · rintro ⟨e, ⟨m, hm, he⟩, hd⟩
      exact ⟨m.cursor, ⟨m, hm, rfl⟩, (ihs m d).1 ⟨e, he, hd⟩⟩
    · rintro ⟨_, ⟨m, hm, rfl⟩, htakes⟩
      obtain ⟨e, he, hd⟩ := (ihs m d).2 htakes
      exact ⟨e, ⟨m, hm, he⟩, hd⟩
  | alt first second ihf ihs =>
    simp only [ends, List.mem_append, or_and_right, exists_or, ihf, ihs, Takes]
  | group index body ih =>
    simp only [ends, List.mem_map, Takes, ← ih]
    constructor
    · rintro ⟨_, ⟨e, he, rfl⟩, hd⟩
      exact ⟨e, he, hd⟩
    · rintro ⟨e, he, hd⟩
      exact ⟨_, ⟨e, he, rfl⟩, hd⟩
  | boundary =>
    by_cases hb : s.cursor.atBoundary = true <;> simp [ends, Takes, hb, Cursor.goes_nil_iff]

theorem isSome_matchAt_iff (r : Regex) (c : Cursor) :
    (r.matchAt c).isSome = true ↔ ∃ d, r.Takes c d := by
  rw [matchAt, Option.isSome_map, List.isSome_head?]
  constructor
  · intro hne
    obtain ⟨e, he⟩ := List.exists_mem_of_ne_nil _ hne
    exact ⟨e.cursor, (exists_mem_ends_iff r _ _).1 ⟨e, he, rfl⟩⟩
  · rintro ⟨d, hd⟩
    obtain ⟨e, he, -⟩ := (exists_mem_ends_iff r ⟨c, []⟩ d).2 hd
    exact List.ne_nil_of_mem he

theorem start_of_matchAt {r : Regex} {m : Match} (h : r.matchAt c = some m) : m.start = c := by
  rw [matchAt, Option.map_eq_some_iff] at h
  obtain ⟨e, -, rfl⟩ := h
  rfl

theorem searchFrom_cons {r : Regex} {before text : List Char} {a : Char} :
    r.searchFrom before (a :: text) =
      (r.matchAt ⟨before, a :: text⟩).or (r.searchFrom (a :: before) text) := by
  rw [searchFrom]
  cases r.matchAt ⟨before, a :: text⟩ <;> rfl

theorem exists_searchFrom {r : Regex} {before text : List Char}
    (hgoes : Cursor.Goes ⟨before, text⟩ x c) (h : r.Takes c d) :
    ∃ m, r.searchFrom before text = some m ∧ m.position ≤ c.before.length := by
  have hposition {c : Cursor} {m : Match} (hmatch : r.matchAt c = some m) :
      m.position = c.before.length :=
    congrArg (·.before.length) (start_of_matchAt hmatch)
  induction x generalizing before text with
  | nil =>
    obtain rfl := Cursor.goes_nil_iff.1 hgoes
    obtain ⟨m, hm⟩ := Option.isSome_iff_exists.1 ((isSome_matchAt_iff r _).2 ⟨d, h⟩)
    refine ⟨m, ?_, (hposition hm).le⟩
    cases text with
    | nil => exact hm
    | cons a text => rw [searchFrom_cons, hm, Option.some_or]
  | cons a x ih =>
    cases text with
    | nil => exact absurd hgoes Cursor.not_goes_cons_nil
    | cons b text =>
      rw [searchFrom_cons]
      cases hm : r.matchAt ⟨before, b :: text⟩ with
      | some m =>
        refine ⟨m, rfl, ?_⟩
        rw [hposition hm, hgoes.before, List.length_append]
        exact Nat.le_add_left _ _
      | none => exact ih (Cursor.goes_cons_iff.1 hgoes).2

theorem isSome_searchFrom_iff (r : Regex) (before text : List Char) :
    (r.searchFrom before text).isSome = true ↔
      ∃ x m d, Cursor.Goes ⟨before, text⟩ x m ∧ r.Takes m d := by
  constructor
  · intro h
    induction text generalizing before with
    | nil =>
      obtain ⟨d, hd⟩ := (isSome_matchAt_iff r _).1 h
      exact ⟨[], _, d, Cursor.goes_nil_iff.2 rfl, hd⟩
    | cons b text ih =>
      rw [searchFrom_cons, Option.isSome_or, Bool.or_eq_true, isSome_matchAt_iff] at h
      obtain ⟨d, hd⟩ | hlater := h
      · exact ⟨[], _, d, Cursor.goes_nil_iff.2 rfl, hd⟩
      · obtain ⟨x, m, d, hgoes, hd⟩ := ih _ hlater
        exact ⟨b :: x, m, d, Cursor.goes_cons_iff.2 ⟨rfl, hgoes⟩, hd⟩
  · rintro ⟨x, m, d, hgoes, hd⟩
    obtain ⟨found, hfound, -⟩ := exists_searchFrom hgoes hd
    exact Option.isSome_of_eq_some hfound

theorem isIn_iff (r : Regex) (text : String) :
    r.isIn text = true ↔ ∃ x m d, Cursor.Goes ⟨[], text.toList⟩ x m ∧ r.Takes m d :=
  isSome_searchFrom_iff r [] text.toList

variable {r : Regex} {rs : List Regex} {w : List Char}

/-- What holds of several expressions and is kept by putting two of them together. -/
theorem chain_induction {motive : Regex → Prop} {combine : Regex → Regex → Regex}
    (hcombine : ∀ {first second}, motive first → motive second → motive (combine first second))
    (hne : rs ≠ []) (h : ∀ r ∈ rs, motive r) : motive (chain combine rs) := by
  induction rs with
  | nil => exact absurd rfl hne
  | cons r rs ih =>
    obtain ⟨hr, hrs⟩ := List.forall_mem_cons.1 h
    cases rs with
    | nil => exact hr
    | cons r' rs => exact hcombine hr (ih (List.cons_ne_nil r' rs) hrs)

theorem ends_inOrder_cons {s : State} :
    (inOrder (r :: rs)).ends s = (r.ends s).flatMap (inOrder rs).ends := by
  cases rs with
  | nil => exact (List.flatMap_singleton' _).symm
  | cons r' rs => rfl

theorem takes_inOrder_cons :
    (inOrder (r :: rs)).Takes c d ↔ ∃ m, r.Takes c m ∧ (inOrder rs).Takes m d := by
  cases rs with
  | nil => simp [inOrder, chain, Takes, Cursor.goes_nil_iff]
  | cons r' rs => rfl

theorem takes_inOrder_nil : (inOrder []).Takes c d ↔ c.Goes [] d := Iff.rfl

theorem takes_inOrder_append {others : List Regex} :
    (inOrder (rs ++ others)).Takes c d ↔
      ∃ m, (inOrder rs).Takes c m ∧ (inOrder others).Takes m d := by
  induction rs generalizing c with
  | nil => simp only [List.nil_append, takes_inOrder_nil, Cursor.goes_nil_iff, exists_eq_left']
  | cons r rs ih =>
    simp only [List.cons_append, takes_inOrder_cons, ih]
    constructor
    · rintro ⟨a, hr, m, hrs, hothers⟩
      exact ⟨m, ⟨a, hr, hrs⟩, hothers⟩
    · rintro ⟨m, ⟨a, hr, hrs⟩, hothers⟩
      exact ⟨a, hr, m, hrs, hothers⟩

theorem takes_firstOf (h : rs ≠ []) : (firstOf rs).Takes c d ↔ ∃ r ∈ rs, r.Takes c d := by
  induction rs with
  | nil => exact absurd rfl h
  | cons r rest ih =>
    cases rest with
    | nil => simp [firstOf, chain]
    | cons r' rest =>
      simpa [firstOf, chain, Takes] using or_congr_right (ih (List.cons_ne_nil r' rest))

theorem takes_ones (p : Char → Char → Bool) (w : List Char) :
    (inOrder (w.map fun a => .one (p a))).Takes c d ↔
      ∃ x, List.Forall₂ (fun a b => p a b = true) w x ∧ c.Goes x d := by
  induction w generalizing c with
  | nil => simp [takes_inOrder_nil]
  | cons a w ih =>
    rw [List.map_cons, takes_inOrder_cons]
    simp only [ih, Takes, List.forall₂_cons_left_iff]
    constructor
    · rintro ⟨m, ⟨b, hb, hgoes⟩, x, hx, hgoes'⟩
      exact ⟨b :: x, ⟨b, x, hb, hx, rfl⟩, hgoes.trans hgoes'⟩
    · rintro ⟨_, ⟨b, x, hb, hx, rfl⟩, hgoes⟩
      obtain ⟨m, hhere, hlater⟩ :=
        Cursor.goes_append_iff.1 (show c.Goes ([b] ++ x) d from hgoes)
      exact ⟨m, ⟨b, hb, hhere⟩, x, hx, hlater⟩

theorem takes_exactly {s : String} : (exactly s).Takes c d ↔ c.Goes s.toList d := by
  have hsame : (fun a b : Char => (b == a) = true) = (· = ·) := by
    funext a b
    exact propext (beq_iff_eq.trans eq_comm)
  rw [exactly, takes_ones (fun a b => b == a)]
  simp only [hsame, List.forall₂_eq_eq_eq, exists_eq_left']

theorem takes_caseless {s : String} :
    (caseless s).Takes c d ↔ ∃ x, SameLetters s.toList x ∧ c.Goes x d :=
  takes_ones Text.sameLetter s.toList

theorem takes_plus :
    (plus accepts).Takes c d ↔ ∃ x, x ≠ [] ∧ (∀ a ∈ x, accepts a = true) ∧ c.Goes x d := by
  constructor
  · rintro ⟨m, ⟨a, ha, hhere⟩, x, hx, hlater⟩
    exact ⟨a :: x, List.cons_ne_nil a x, List.forall_mem_cons.2 ⟨ha, hx⟩, hhere.trans hlater⟩
  · rintro ⟨x, hne, hx, hgoes⟩
    obtain ⟨a, x, rfl⟩ := List.exists_cons_of_ne_nil hne
    obtain ⟨ha, hx⟩ := List.forall_mem_cons.1 hx
    obtain ⟨m, hhere, hlater⟩ := Cursor.goes_append_iff.1 (show c.Goes ([a] ++ x) d from hgoes)
    exact ⟨m, ⟨a, ha, hhere⟩, x, hx, hlater⟩

theorem takes_space : space.Takes c d ↔ ∃ g, IsGap g ∧ c.Goes g d := by
  rw [space, takes_plus]
  exact exists_congr fun g => ⟨fun ⟨hne, hblank, hgoes⟩ => ⟨⟨hne, hblank⟩, hgoes⟩,
    fun ⟨hgap, hgoes⟩ => ⟨hgap.ne_nil, hgap.blank, hgoes⟩⟩

end PromptChart.Regex
