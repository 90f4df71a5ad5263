import PromptChart.Proofs.Regex.Scans
import PromptChart.Trace.Step

namespace PromptChart.Trace

open Regex (Cursor Finds Scans append_stop_inj)
open Text (IsGap SameLetters isBlank sameLetter)

def isBreak (a : Char) : Bool := a == '%' || a == '\''

structure Clause where
  word : List Char
  gap : List Char
  body : List Char
  keyword : SameLetters "ILIKE".toList word
  isGap : IsGap gap
  ne_nil : body ≠ []
  unbroken : ∀ a ∈ body, isBreak a = false

namespace Clause

def head (k : Clause) : List Char := k.word ++ k.gap

def text (k : Clause) : List Char := k.head ++ '\'' :: '%' :: (k.body ++ ['%', '\''])

variable {k l : Clause} {ks : List Clause} {a : Char} {cs u v x y : List Char}

theorem length_word (k : Clause) : k.word.length = 5 := k.keyword.length_eq.symm

theorem isSolid_word (k : Clause) : Text.IsSolid k.word := k.keyword.isSolid (by decide)

/-- A sign that is neither a letter of the keyword nor white space. -/
structure IsForeign (a : Char) : Prop where
  letter : ∀ letter ∈ "ILIKE".toList, sameLetter letter a = false
  solid : isBlank a = false

instance (a : Char) : Decidable (IsForeign a) :=
  decidable_of_iff ((∀ letter ∈ "ILIKE".toList, sameLetter letter a = false) ∧
    isBlank a = false) ⟨fun h => ⟨h.1, h.2⟩, fun h => ⟨h.1, h.2⟩⟩

theorem not_mem_head (h : IsForeign a) (k : Clause) : a ∉ k.head := by
  rw [head, List.mem_append]
  rintro (hword | hgap)
  · obtain ⟨letter, hletter, hsame⟩ := Text.exists_of_mem_right k.keyword hword
    exact absurd hsame (ne_true_of_eq_false (h.letter letter hletter))
  · exact absurd (k.isGap.blank a hgap) (ne_true_of_eq_false h.solid)

theorem unbroken_head (k : Clause) : ∀ a ∈ k.head, isBreak a = false := by
  intro a ha
  have hpercent : a ≠ '%' := fun h => not_mem_head (by decide) k (h ▸ ha)
  have hquote : a ≠ '\'' := fun h => not_mem_head (by decide) k (h ▸ ha)
  rw [isBreak, beq_false_of_ne hpercent, beq_false_of_ne hquote]
  rfl

theorem head_ne_nil (k : Clause) : k.head ≠ [] :=
  List.append_ne_nil_of_left_ne_nil k.isSolid_word.ne_nil _

theorem text_ne_nil (k : Clause) : k.text ≠ [] :=
  List.append_ne_nil_of_left_ne_nil k.head_ne_nil _

theorem text_append (k : Clause) (cs : List Char) :
    k.text ++ cs = k.head ++ '\'' :: '%' :: (k.body ++ '%' :: '\'' :: cs) := by
  simp [text]

/-- The white space behind a word shows where the word ends, and its length where it starts. -/
theorem head_inj (h : x ++ k.head = l.head) : x = [] ∧ k.word = l.word ∧ k.gap = l.gap := by
  rw [head, head, ← List.append_assoc] at h
  have hgap : k.gap = l.gap := by
    rcases List.append_eq_append_iff.1 h with ⟨y, hword, hgap⟩ | ⟨y, hword, hgap⟩
    · have hlength := congrArg List.length hword
      simp only [List.length_append, length_word] at hlength
      obtain rfl := List.length_eq_zero_iff.1 (show y.length = 0 by omega)
      exact hgap
    · -- white space that the other clause does not have would be the end of the word
      obtain rfl : y = [] := by
        by_contra hne
        have hlast : y.getLast hne ∈ k.word := by
          apply List.mem_of_mem_getLast?
          rw [← List.getLast?_append_of_ne_nil x k.isSolid_word.ne_nil, hword,
            List.getLast?_append_of_ne_nil _ hne, List.getLast?_eq_some_getLast hne]
          rfl
        have hblank :=
          l.isGap.blank _ (hgap ▸ List.mem_append_left k.gap (List.getLast_mem hne))
        exact absurd hblank (ne_true_of_eq_false (k.isSolid_word.solid _ hlast))
      exact hgap.symm
  rw [hgap] at h
  have hword := List.append_cancel_right h
  have hlength := congrArg List.length hword
  simp only [List.length_append, length_word] at hlength
  obtain rfl := List.length_eq_zero_iff.1 (show x.length = 0 by omega)
  exact ⟨rfl, hword, hgap⟩

theorem eq_of_append (h : k.text ++ u = l.text ++ v) : k = l := by
  rw [text_append, text_append] at h
  obtain ⟨hhead, -, hrest⟩ := append_stop_inj k.unbroken_head l.unbroken_head rfl rfl h
  obtain ⟨hbody, -⟩ := append_stop_inj k.unbroken l.unbroken rfl rfl (List.cons.inj hrest).2
  obtain ⟨-, hword, hgap⟩ := head_inj (x := []) hhead
  cases k
  cases l
  cases hword
  cases hgap
  cases hbody
  rfl

theorem not_prefix_of_first (h : sameLetter 'I' a = false) : ¬ k.text <+: a :: cs := by
  rintro ⟨v, hv⟩
  obtain ⟨b, word, hfirst, -, hword⟩ := List.forall₂_cons_left_iff.1 k.keyword
  rw [text_append, head, hword] at hv
  obtain ⟨rfl, -⟩ := List.cons.inj hv
  exact absurd hfirst (ne_true_of_eq_false h)

theorem not_prefix_of_percent (hx : ∀ a ∈ x, isBreak a = false) :
    ¬ k.text <+: x ++ '%' :: cs := by
  rintro ⟨v, hv⟩
  rw [text_append] at hv
  obtain ⟨-, hstop, -⟩ := append_stop_inj k.unbroken_head hx rfl rfl hv
  exact absurd hstop (by decide)

theorem not_prefix_inside (h : l.text = x ++ y) (hx : x ≠ []) (hy : y ≠ []) :
    ¬ k.text <+: y ++ cs := by
  rcases List.append_eq_append_iff.1 h with ⟨z, -, hz⟩ | ⟨z, hz, rfl⟩
  · -- from the quote on
    match z with
    | [] =>
      subst hz
      exact not_prefix_of_first (by decide)
    | [_] =>
      obtain rfl := (List.cons.inj hz).2
      exact not_prefix_of_percent (List.forall_mem_nil _)
    | _ :: _ :: z =>
      have hbody := (List.cons.inj (List.cons.inj hz).2).2
      rcases List.append_eq_append_iff.1 hbody with ⟨w, -, hw⟩ | ⟨w, hw, rfl⟩
      · match w with
        | [] =>
          subst hw
          exact not_prefix_of_percent (List.forall_mem_nil _)
        | [_] =>
          obtain rfl := (List.cons.inj hw).2
          exact not_prefix_of_first (by decide)
        | _ :: _ :: w =>
          exact absurd (List.append_eq_nil_iff.1 (List.cons.inj (List.cons.inj hw).2).2.symm).2
            hy
      · rw [List.append_assoc]
        exact not_prefix_of_percent fun a ha => l.unbroken a (hw ▸ List.mem_append_right z ha)
  · -- before the quote
    rintro ⟨v, hv⟩
    rw [text_append, List.append_assoc] at hv
    have hunbroken : ∀ a ∈ z, isBreak a = false :=
      fun a ha => l.unbroken_head a (hz ▸ List.mem_append_right x ha)
    obtain ⟨rfl, -⟩ := append_stop_inj k.unbroken_head hunbroken rfl rfl hv
    exact hx (head_inj hz.symm).1

/-- Where none of some characters is the first letter of a keyword, they are passed over. -/
theorem scans_append (hx : ∀ a ∈ x, sameLetter 'I' a = false) (h : Scans text cs ks) :
    Scans text (x ++ cs) ks := by
  induction x with
  | nil => exact h
  | cons a x ih =>
    obtain ⟨ha, hx⟩ := List.forall_mem_cons.1 hx
    exact .skip (fun _ => not_prefix_of_first ha) (ih hx)

theorem scans_unbroken_append (hx : ∀ a ∈ x, isBreak a = false) (k : Clause)
    (h : Scans text cs ks) :
    Scans text (x ++ (k.text ++ cs)) (k :: ks) := by
  induction x with
  | nil => exact .piece k h
  | cons a x ih =>
    refine .skip ?_ (ih (List.forall_mem_cons.1 hx).2)
    rintro l ⟨v, (hv : l.text ++ v = (a :: x) ++ (k.text ++ cs))⟩
    -- the clause would come to its quote where the next one does, with a longer way to it
    rw [text_append k, text_append l, ← List.append_assoc] at hv
    have hunbroken : ∀ b ∈ (a :: x) ++ k.head, isBreak b = false :=
      List.forall_mem_append.2 ⟨hx, k.unbroken_head⟩
    obtain ⟨hhead, -, -⟩ := append_stop_inj l.unbroken_head hunbroken rfl rfl hv
    exact List.cons_ne_nil a x (head_inj hhead.symm).1

theorem getLast?_text (k : Clause) : k.text.getLast? = some '\'' := by
  have htext : k.text = (k.head ++ '\'' :: '%' :: (k.body ++ ['%'])) ++ ['\''] := by simp [text]
  rw [htext, List.getLast?_concat]

theorem scans_append_right (hx : ∀ a ∈ x, sameLetter 'I' a = false) (hquote : '\'' ∉ x)
    (h : Scans text cs ks) :
    Scans text (cs ++ x) ks := by
  induction h with
  | nil => simpa using scans_append hx .nil
  | @skip a cs ks hnone _ ih =>
    refine .skip (fun k (hk : k.text <+: (a :: cs) ++ x) => ?_) ih
    rcases List.prefix_or_prefix_of_prefix hk (List.prefix_append (a :: cs) x) with hshort |
      ⟨y, hy⟩
    · exact hnone k hshort
    · rw [← hy, List.prefix_append_right_inj] at hk
      -- the quote that ends the clause would be one of them
      have hne : y ≠ [] := by
        rintro rfl
        exact hnone k ⟨[], by rw [← hy]; simp⟩
      have hlast : y.getLast? = some '\'' := by
        rw [← k.getLast?_text, ← hy, List.getLast?_append_of_ne_nil _ hne]
      exact hquote (hk.subset (List.mem_of_mem_getLast? hlast))
  | piece k _ ih =>
    rw [List.append_assoc]
    exact .piece k ih

end Clause

theorem finds_lookUp : Finds lookUp 1 Clause.text Clause.body := by
  refine Regex.finds_of_takes [.caseless "ILIKE", .space, .one (· == '\''), .one (· == '%')]
    [.one (· == '%'), .one (· == '\'')] (by decide) rfl (by decide) Clause.text_ne_nil
    (fun _ _ _ _ => Clause.eq_of_append) ?_ ?_
  · intro k c d hgoes
    have htext :
        k.text = k.word ++ (k.gap ++ (['\''] ++ (['%'] ++ (k.body ++ (['%'] ++ ['\'']))))) := by
      simp [Clause.text, Clause.head]
    rw [htext] at hgoes
    simp only [Cursor.goes_append_iff] at hgoes
    obtain ⟨c₁, hword, c₂, hgap, c₃, hquote, c₄, hpercent, c₅, hbody, c₆, hpercent', hquote'⟩ :=
      hgoes
    have hheld : ∀ a ∈ k.body, (a != '%' && a != '\'') = true := by
      intro a ha
      have hfree := k.unbroken a ha
      rw [isBreak, Bool.or_eq_false_iff] at hfree
      rw [bne, bne, hfree.1, hfree.2]
      rfl
    exact ⟨c₁, Regex.takes_caseless.2 ⟨_, k.keyword, hword⟩, c₂,
      Regex.takes_space.2 ⟨_, k.isGap, hgap⟩, c₃, ⟨_, rfl, hquote⟩, c₄, ⟨_, rfl, hpercent⟩, c₅,
      Regex.takes_plus.2 ⟨_, k.ne_nil, hheld, hbody⟩, c₆, ⟨_, rfl, hpercent'⟩,
      ⟨_, rfl, hquote'⟩⟩
  · rintro c c₁ c₂ d ⟨c₃, hword, c₄, hgap, c₅, ⟨a, ha, hquote⟩, ⟨b, hb, hpercent⟩⟩ hbody
      ⟨c₆, ⟨b', hb', hpercent'⟩, ⟨a', ha', hquote'⟩⟩
    obtain ⟨word, hkeyword, hword⟩ := Regex.takes_caseless.1 hword
    obtain ⟨gap, hisGap, hgap⟩ := Regex.takes_space.1 hgap
    obtain ⟨body, hne, hbody, hgoes⟩ := Regex.takes_plus.1 hbody
    rw [beq_iff_eq] at ha hb hb' ha'
    subst ha hb hb' ha'
    have hunbroken : ∀ a ∈ body, isBreak a = false := by
      intro a ha
      have hfree := hbody a ha
      simp only [Bool.and_eq_true, bne_iff_ne] at hfree
      rw [isBreak, beq_false_of_ne hfree.1, beq_false_of_ne hfree.2]
      rfl
    refine ⟨⟨word, gap, body, hkeyword, hisGap, hne, hunbroken⟩, ?_, hgoes⟩
    have hfront := (hword.trans hgap).trans (hquote.trans hpercent)
    have hall := hfront.trans (hgoes.trans (hpercent'.trans hquote'))
    simpa [Clause.text, Clause.head] using hall

theorem lookedUp_of_scans {s : String} {ks : List Clause} (h : Scans Clause.text s.toList ks) :
    lookedUp s =
      (ks.map fun k => Text.stripped (String.ofList k.body)).filter (!·.isEmpty) := by
  have hgroups := congrArg (List.map Text.stripped) (finds_lookUp.map_group h)
  rw [List.map_map, List.map_map] at hgroups
  exact congrArg (List.filter (!·.isEmpty)) hgroups

end PromptChart.Trace
