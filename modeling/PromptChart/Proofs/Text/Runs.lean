import Mathlib.Data.List.SplitBy
import PromptChart.Proofs.Text.Words
import PromptChart.Regex.Basic

namespace PromptChart.Text

variable {a b : Char} {cs g p q v w x y : List Char} {l m : List (List Char)}

/-- A text, cut wherever a word character and another one meet. -/
def runs (cs : List Char) : List (List Char) := cs.splitBy fun a b => isWord a == isWord b

/-- A word character and another one meet where two texts are put together, unless one of them
is empty. -/
def IsCut (x y : List Char) : Prop := ∀ a ∈ x.getLast?, ∀ b ∈ y.head?, isWord a ≠ isWord b

structure IsWordRun (w : List Char) : Prop where
  ne_nil : w ≠ []
  word : ∀ c ∈ w, isWord c = true

instance (w : List Char) : Decidable (IsWordRun w) :=
  decidable_of_iff (w ≠ [] ∧ ∀ c ∈ w, isWord c = true)
    ⟨fun h => ⟨h.1, h.2⟩, fun h => ⟨h.1, h.2⟩⟩

theorem IsWordRun.isSolid (hw : IsWordRun w) : IsSolid w where
  ne_nil := hw.ne_nil
  solid c hc := isBlank_of_isWord (hw.word c hc)

theorem flatten_runs (cs : List Char) : (runs cs).flatten = cs := List.flatten_splitBy _ cs

theorem nil_not_mem_runs (cs : List Char) : [] ∉ runs cs := List.nil_notMem_splitBy _ cs

theorem runs_append (h : IsCut x y) : runs (x ++ y) = runs x ++ runs y :=
  List.splitBy_append fun a ha b hb => beq_false_of_ne (h a ha b hb)

theorem runs_of_forall {kind : Bool} (hne : w ≠ []) (hw : ∀ c ∈ w, isWord c = kind) :
    runs w = [w] := by
  apply List.splitBy_of_isChain hne
  apply List.Pairwise.isChain
  exact List.pairwise_of_forall_mem_list
    fun a ha b hb => by rw [hw a ha, hw b hb, beq_self_eq_true]

theorem runs_append_word (hw : IsWordRun w) (hx : ∀ a ∈ x.getLast?, isWord a = false)
    (hy : ∀ b ∈ y.head?, isWord b = false) : runs (x ++ (w ++ y)) = runs x ++ w :: runs y := by
  have hstart : IsCut x (w ++ y) := by
    intro a ha b hb
    rw [List.head?_append_of_ne_nil _ hw.ne_nil] at hb
    rw [hx a ha, hw.word b (List.mem_of_mem_head? hb)]
    exact Bool.false_ne_true
  have hstop : IsCut w y := by
    intro a ha b hb
    rw [hw.word a (List.mem_of_mem_getLast? ha), hy b hb]
    exact Bool.false_ne_true.symm
  rw [runs_append hstart, runs_append hstop, runs_of_forall hw.ne_nil hw.word,
    List.singleton_append]

theorem pair_sublist_runs (hv : IsWordRun v) (hw : IsWordRun w)
    (hx : ∀ a ∈ x.getLast?, isWord a = false)
    (hstart : ∀ a ∈ (g ++ (w ++ y)).head?, isWord a = false)
    (hstop : ∀ a ∈ g.getLast?, isWord a = false) (hy : ∀ a ∈ y.head?, isWord a = false) :
    [v, w].Sublist (runs (x ++ (v ++ (g ++ (w ++ y))))) := by
  rw [runs_append_word hv hx hstart, runs_append_word hw hstop hy]
  exact List.Sublist.trans (by simp) (List.sublist_append_right _ _)

theorem IsGap.runs_eq (hg : IsGap g) : runs g = [g] :=
  runs_of_forall hg.ne_nil fun c hc => isWord_of_isBlank (hg.blank c hc)

theorem IsGap.not_isWord_last (hg : IsGap g) : ∀ a ∈ g.getLast?, isWord a = false :=
  fun a ha => isWord_of_isBlank (hg.blank a (List.mem_of_mem_getLast? ha))

theorem runs_pair (hv : IsWordRun v) (hg : IsGap g) (hw : IsWordRun w) :
    runs [v, g, w].flatten = [v, g, w] := by
  have hfirst := runs_append_word (x := []) (y := g ++ w) hv (fun a ha => by cases ha)
    hg.not_isWord_head
  have hsecond := runs_append_word (x := g) (y := []) hw hg.not_isWord_last
    fun b hb => by cases hb
  rw [List.append_nil] at hsecond
  rw [List.flatten_cons, List.flatten_cons, List.flatten_singleton]
  refine hfirst.trans ?_
  rw [hsecond, hg.runs_eq]
  rfl

theorem isCut_of_runs (h : runs cs = l ++ m) : IsCut l.flatten m.flatten := by
  have hchain := List.isChain_getLast_head_splitBy (fun a b => isWord a == isWord b) cs
  have hnil := nil_not_mem_runs cs
  rw [← runs, h, List.isChain_append] at hchain
  rw [h, List.mem_append, not_or] at hnil
  intro a ha b hb
  rcases List.eq_nil_or_concat l with rfl | ⟨l, u, rfl⟩
  · cases ha
  · cases m with
    | nil => cases hb
    | cons v m =>
      obtain ⟨hu, hv, hcut⟩ := hchain.2.2 u (by simp) v rfl
      obtain rfl : u.getLast hu = a := by
        rwa [List.concat_eq_append, List.flatten_append, List.flatten_singleton,
          List.getLast?_append_of_ne_nil _ hu, List.getLast?_eq_some_getLast hu,
          Option.mem_some_iff] at ha
      obtain rfl : v.head hv = b := by
        rwa [List.flatten_cons, List.head?_append_of_ne_nil _ hv, List.head?_eq_some_head hv,
          Option.mem_some_iff] at hb
      exact ne_of_beq_false hcut

theorem infix_runs_iff (hm : runs m.flatten = m) :
    m <:+: runs cs ↔
      ∃ x y, x ++ (m.flatten ++ y) = cs ∧
        IsCut x (m.flatten ++ y) ∧ IsCut (x ++ m.flatten) y := by
  constructor
  · rintro ⟨l, r, hruns⟩
    refine ⟨l.flatten, r.flatten, ?_, ?_, ?_⟩
    · rw [← flatten_runs cs, ← hruns, List.flatten_append, List.flatten_append,
        List.append_assoc]
    · rw [← List.flatten_append]
      exact isCut_of_runs (hruns.symm.trans (List.append_assoc l m r))
    · rw [← List.flatten_append]
      exact isCut_of_runs hruns.symm
  · rintro ⟨x, y, rfl, hstart, hstop⟩
    by_cases hnil : m.flatten = []
    · rw [hnil] at hm
      rw [← hm]
      exact List.nil_infix
    · have hlast : IsCut m.flatten y := fun a ha b hb =>
        hstop a (by rwa [List.getLast?_append_of_ne_nil _ hnil]) b hb
      rw [runs_append hstart, runs_append hlast, hm, ← List.append_assoc]
      exact List.infix_append _ _ _

theorem exists_word_suffix (x : List Char) :
    ∃ rest p,
      x = rest ++ p ∧ (∀ c ∈ p, isWord c = true) ∧ ∀ c ∈ rest.getLast?, isWord c = false := by
  obtain ⟨q, rest, hx, hq, hrest⟩ := exists_span x.reverse isWord
  refine ⟨rest.reverse, q.reverse, ?_, fun c hc => hq c (List.mem_reverse.1 hc), ?_⟩
  · rw [← List.reverse_append, ← hx, List.reverse_reverse]
  · rwa [List.getLast?_reverse]

theorem infix_iff_exists_run (hw : IsWordRun w) : w <:+: cs ↔ ∃ run ∈ runs cs, w <:+: run := by
  constructor
  · rintro ⟨x, y, rfl⟩
    obtain ⟨before, p, rfl, hp, hbefore⟩ := exists_word_suffix x
    obtain ⟨q, after, rfl, hq, hafter⟩ := exists_span y isWord
    have hrun : IsWordRun (p ++ (w ++ q)) :=
      ⟨by simp [hw.ne_nil],
        List.forall_mem_append.2 ⟨hp, List.forall_mem_append.2 ⟨hw.word, hq⟩⟩⟩
    have htext : before ++ p ++ w ++ (q ++ after) = before ++ (p ++ (w ++ q) ++ after) := by
      simp
    refine ⟨p ++ (w ++ q), ?_, p, q, List.append_assoc p w q⟩
    rw [htext, runs_append_word hrun hbefore hafter]
    exact List.mem_append_right _ (.head _)
  · rintro ⟨run, hrun, hinfix⟩
    rw [← flatten_runs cs]
    obtain ⟨l, r, hl⟩ := List.append_of_mem hrun
    rw [hl, List.flatten_append, List.flatten_cons]
    exact hinfix.trans (List.infix_append' _ _ _)

/-- Two words with a gap between them stand in a text exactly if they end and start the runs
around it. -/
theorem infix_iff_exists_runs (hv : IsWordRun v) (hg : IsGap g) (hw : IsWordRun w) :
    v ++ (g ++ w) <:+: cs ↔
      ∃ first second, v <:+ first ∧ w <+: second ∧ [first, g, second] <:+: runs cs := by
  constructor
  · rintro ⟨x, y, rfl⟩
    obtain ⟨before, p, rfl, hp, hbefore⟩ := exists_word_suffix x
    obtain ⟨q, after, rfl, hq, hafter⟩ := exists_span y isWord
    have hfirst : IsWordRun (p ++ v) :=
      ⟨List.append_ne_nil_of_right_ne_nil p hv.ne_nil, List.forall_mem_append.2 ⟨hp, hv.word⟩⟩
    have hsecond : IsWordRun (w ++ q) :=
      ⟨List.append_ne_nil_of_left_ne_nil hw.ne_nil q, List.forall_mem_append.2 ⟨hw.word, hq⟩⟩
    have htext : before ++ p ++ (v ++ (g ++ w)) ++ (q ++ after) =
        before ++ (p ++ v ++ (g ++ (w ++ q ++ after))) := by simp
    refine ⟨p ++ v, w ++ q, List.suffix_append p v, List.prefix_append w q, runs before,
      runs after, ?_⟩
    rw [htext, runs_append_word hfirst hbefore hg.not_isWord_head,
      runs_append_word hsecond hg.not_isWord_last hafter, hg.runs_eq]
    simp
  · rintro ⟨first, second, ⟨p, rfl⟩, ⟨q, rfl⟩, l, r, hruns⟩
    refine ⟨l.flatten ++ p, q ++ r.flatten, ?_⟩
    rw [← flatten_runs cs, ← hruns]
    simp

open Regex (Cursor)

theorem atBoundary_iff_of_head (hb : b ∈ y.head?) (hword : isWord b = true) :
    Cursor.atBoundary ⟨x.reverse, y⟩ = true ↔ IsCut x y := by
  rw [Option.mem_def] at hb
  simp only [Cursor.atBoundary, List.head?_reverse, hb, Option.any_some, hword, bne_iff_ne,
    ne_eq, IsCut, Option.mem_def, Option.some.injEq, forall_eq']
  cases x.getLast? <;> simp

theorem atBoundary_iff_of_last (ha : a ∈ x.getLast?) (hword : isWord a = true) :
    Cursor.atBoundary ⟨x.reverse, y⟩ = true ↔ IsCut x y := by
  rw [Option.mem_def] at ha
  simp only [Cursor.atBoundary, List.head?_reverse, ha, Option.any_some, hword, bne_iff_ne,
    ne_eq, IsCut, Option.mem_def, Option.some.injEq, forall_eq']
  cases y.head? <;> simp

end PromptChart.Text
