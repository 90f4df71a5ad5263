import PromptChart.Prompt.Keywords
import PromptChart.Proofs.Catalog.Products
import PromptChart.Proofs.Regex.Respaced

namespace PromptChart.Prompt

open Text (IsGap Respaced isBlank lower)
open Regex (Blind Cursor Level Match SamePlace)

/-- How far a place is into a text, all white space before a character counted once. -/
def rank (before : List Char) : Nat :=
  2 * before.countP (fun c => !isBlank c) + if before.head?.any isBlank then 1 else 0

theorem rank_of_level {x y : List Char} (h : Level x y) : rank x = rank y := by
  rw [rank, rank, h.count, h.blank]

variable {c d : Cursor} {text : List Char}

theorem rank_lt (hc : c.before.reverse ++ c.after = text)
    (hd : d.before.reverse ++ d.after = text) (hedge : c.IsEdge)
    (h : c.before.length < d.before.length) : rank c.before < rank d.before := by
  have hbound (x : List Char) : 2 * x.countP (fun c => !isBlank c) ≤ rank x ∧
      rank x ≤ 2 * x.countP (fun c => !isBlank c) + 1 := by
    rw [rank]
    split <;> omega
  rcases List.append_eq_append_iff.1 (hc.trans hd.symm) with ⟨z, hbefore, hafter⟩ |
    ⟨z, hbefore, -⟩
  · have hz : d.before = z.reverse ++ c.before := by
      rw [← List.reverse_reverse d.before, hbefore, List.reverse_append, List.reverse_reverse]
    have hne : z ≠ [] := by
      rintro rfl
      rw [hz] at h
      exact absurd h (Nat.lt_irrefl _)
    have hcount : d.before.countP (fun c => !isBlank c) =
        z.countP (fun c => !isBlank c) + c.before.countP fun c => !isBlank c := by
      rw [hz, List.countP_append, List.countP_reverse]
    rcases Nat.eq_zero_or_pos (z.countP fun c => !isBlank c) with hzero | hpos
    -- nothing but white space lies between the places, so the first of them is the start of a
    -- gap
    · have hgap : IsGap z := ⟨hne, fun a ha => by simpa using List.countP_eq_zero.1 hzero a ha⟩
      have hclear : c.before.head?.any isBlank = false := by
        obtain ⟨b, rest, rfl, hb, -⟩ := hgap.exists_cons
        have hblank : c.after.head?.any isBlank = true := by
          rw [hafter]
          exact hb
        exact eq_false_of_ne_true fun hbefore => ne_true_of_eq_false (hedge hbefore) hblank
      obtain ⟨b, hb, hhead⟩ := Regex.exists_head_reverse hgap c.before
      have hblank : d.before.head?.any isBlank = true := by
        rw [hz, hhead]
        exact hb
      rw [rank, rank, hcount, hzero, hclear, hblank, if_neg Bool.false_ne_true, if_pos rfl]
      omega
    · have := hbound c.before
      have := hbound d.before
      omega
  · have hlength := congrArg List.length hbefore
    simp only [List.length_append, List.length_reverse] at hlength
    omega

theorem length_le_iff (hc : c.before.reverse ++ c.after = text)
    (hd : d.before.reverse ++ d.after = text) (hcedge : c.IsEdge) (hdedge : d.IsEdge) :
    c.before.length ≤ d.before.length ↔ rank c.before ≤ rank d.before := by
  rcases Nat.lt_trichotomy c.before.length d.before.length with hlt | heq | hgt
  · exact iff_of_true hlt.le (rank_lt hc hd hcedge hlt).le
  · have hbefore := List.append_inj_left (hc.trans hd.symm) (by simpa using heq)
    rw [List.reverse_inj.1 hbefore]
    exact iff_of_true le_rfl le_rfl
  · exact iff_of_false hgt.not_ge (rank_lt hd hc hdedge hgt).not_ge

/-- The numbers of characters before the same place in two texts. -/
def SamePosition (u v : List Char) (m n : Nat) : Prop :=
  ∃ c d : Cursor, SamePlace u v c d ∧ c.before.length = m ∧ d.before.length = n

variable {u v : List Char} {m n m' n' : Nat}

theorem SamePosition.le_iff (h : SamePosition u v m n) (h' : SamePosition u v m' n') :
    m ≤ m' ↔ n ≤ n' := by
  obtain ⟨c, d, h, rfl, rfl⟩ := h
  obtain ⟨c', d', h', rfl, rfl⟩ := h'
  rw [length_le_iff h.left h'.left h.isEdge_left h'.isEdge_left,
    length_le_iff h.right h'.right h.isEdge_right h'.isEdge_right, rank_of_level h.before,
    rank_of_level h'.before]

theorem SamePosition.min (h : SamePosition u v m n) (h' : SamePosition u v m' n') :
    SamePosition u v (min m m') (min n n') := by
  have hle := h.le_iff h'
  by_cases hm : m ≤ m'
  · rwa [Nat.min_eq_left hm, Nat.min_eq_left (hle.1 hm)]
  · have hn := mt hle.2 hm
    rwa [Nat.min_eq_right (Nat.le_of_not_le hm), Nat.min_eq_right (Nat.le_of_not_le hn)]

theorem SamePosition.foldl_min {l l' : List Nat} (h : SamePosition u v m n)
    (hl : List.Forall₂ (SamePosition u v) l l') :
    SamePosition u v (l.foldl Min.min m) (l'.foldl Min.min n) := by
  induction hl generalizing m n with
  | nil => exact h
  | cons hnext _ ih => exact ih (h.min hnext)

theorem samePosition_min? {l l' : List Nat} (h : List.Forall₂ (SamePosition u v) l l') :
    Option.Rel (SamePosition u v) l.min? l'.min? := by
  cases h with
  | nil => exact .none
  | cons hhead hrest =>
    rw [List.min?_cons', List.min?_cons']
    exact .some (hhead.foldl_min hrest)

theorem forall₂_mergeSort {α β : Type} {related : α → β → Prop} (le : α → α → Bool)
    (le' : β → β → Bool) {l : List α} {l' : List β} (h : List.Forall₂ related l l')
    (hle : ∀ {a b a' b'}, related a b → related a' b' → le a a' = le' b b') :
    List.Forall₂ related (l.mergeSort le) (l'.mergeSort le') := by
  obtain ⟨hlength, hrelated⟩ := List.forall₂_iff_zip.1 h
  have hleft : (l.zip l').map Prod.fst = l := List.map_fst_zip hlength.le
  have hright : (l.zip l').map Prod.snd = l' := List.map_snd_zip hlength.ge
  -- both lists are sorted as the list of pairs is
  have hsorted :
      (l.zip l').mergeSort (fun p q => le p.1 q.1) =
        (l.zip l').mergeSort fun p q => le' p.2 q.2 := by
    have hid := List.map_mergeSort (f := id) (l := l.zip l') (r := fun p q => le p.1 q.1)
      (s := fun p q => le' p.2 q.2) fun p hp q hq => hle (hrelated hp) (hrelated hq)
    rwa [List.map_id, List.map_id] at hid
  have hfirst := List.map_mergeSort (f := Prod.fst) (l := l.zip l') (r := fun p q => le p.1 q.1)
    (s := le) fun _ _ _ _ => rfl
  have hsecond := List.map_mergeSort (f := Prod.snd) (l := l.zip l')
    (r := fun p q => le' p.2 q.2) (s := le') fun _ _ _ _ => rfl
  rw [hleft] at hfirst
  rw [hright] at hsecond
  rw [← hfirst, ← hsecond, hsorted, List.forall₂_map_left_iff, List.forall₂_map_right_iff,
    List.forall₂_same]
  exact fun p hp => hrelated (List.mem_mergeSort.1 hp)

variable {s t : String}

/-- A pattern that first matches in the same place of texts that differ in the amounts of white
space. -/
def IsBlind (p : TermPattern) : Prop :=
  ∀ s t : String, Respaced [] s.toList t.toList →
    Option.Rel (SamePosition s.toList t.toList) (p.position? s) (p.position? t)

/-- Patterns of letters that are no white space, and gaps, do not see how much of it there
is. -/
theorem isBlind_ofPieces {source : String} {pieces : List TermPiece}
    (h : ∀ piece ∈ pieces, TermPattern.isSolidPiece piece = true) :
    IsBlind (.ofPieces source pieces) := by
  intro s t hst
  rw [TermPattern.ofPieces, TermPattern.position?_ofRegex, TermPattern.position?_ofRegex]
  refine Regex.rel_map (Blind.search ?_ hst)
    fun {m n} hfound => ⟨m.start, n.start, hfound.start, rfl, rfl⟩
  induction pieces with
  | nil => exact Regex.blind_empty
  | cons piece pieces ih =>
    obtain ⟨hpiece, hrest⟩ := List.forall_mem_cons.1 h
    rw [List.map_cons]
    cases piece with
    | letter a =>
      have ha : isBlank a = false := by simpa [TermPattern.isSolidPiece] using hpiece
      exact (Regex.clear_one (Regex.isClear_sameLetter ha)).led.blind.inOrder_cons (ih hrest)
    | gap => exact Regex.blind_gap.inOrder_cons (ih hrest)

theorem samePosition_product {p : Product} (hp : ∀ pattern ∈ p.patterns, IsBlind pattern)
    (h : Respaced [] s.toList t.toList) :
    Option.Rel (SamePosition s.toList t.toList) (p.position? s) (p.position? t) := by
  apply samePosition_min?
  generalize p.patterns = patterns at hp
  induction patterns with
  | nil => exact .nil
  | cons pattern patterns ih =>
    obtain ⟨hpattern, hrest⟩ := List.forall_mem_cons.1 hp
    have hhere := hpattern s t h
    rw [List.filterMap_cons, List.filterMap_cons]
    generalize pattern.position? s = place at hhere
    generalize pattern.position? t = place' at hhere
    cases hhere with
    | none => exact ih hrest
    | some hplace => exact .cons hplace (ih hrest)

/-- A product with its place, found in two texts. -/
def SameProduct (u v : List Char) (p q : Nat × String) : Prop :=
  SamePosition u v p.1 q.1 ∧ p.2 = q.2

theorem map_snd_eq {l l' : List (Nat × String)} (h : List.Forall₂ (SameProduct u v) l l') :
    l.map (·.2) = l'.map (·.2) := by
  induction h with
  | nil => rfl
  | cons hhere _ ih => rw [List.map_cons, List.map_cons, hhere.2, ih]

theorem sameProduct_addProduct {p : Product} {found found' : List (Nat × String)}
    (hp : ∀ pattern ∈ p.patterns, IsBlind pattern) (h : Respaced [] s.toList t.toList)
    (hfound : List.Forall₂ (SameProduct s.toList t.toList) found found') :
    List.Forall₂ (SameProduct s.toList t.toList) (addProduct s found p)
      (addProduct t found' p) := by
  have hany (label : String) : found.any (·.2 = label) = found'.any (·.2 = label) := by
    have hlabels := congrArg (List.any · (· = label)) (map_snd_eq hfound)
    simp only [List.any_map] at hlabels
    exact hlabels
  have hplace := samePosition_product hp h
  simp only [addProduct, hany]
  split
  · exact hfound
  · generalize p.position? s = place at hplace
    generalize p.position? t = place' at hplace
    cases hplace with
    | none => exact hfound
    | some hplace => exact List.rel_append hfound (.cons ⟨hplace, rfl⟩ .nil)

theorem sameProduct_foldl {products : List Product} {found found' : List (Nat × String)}
    (hproducts : ∀ p ∈ products, ∀ pattern ∈ p.patterns, IsBlind pattern)
    (h : Respaced [] s.toList t.toList)
    (hfound : List.Forall₂ (SameProduct s.toList t.toList) found found') :
    List.Forall₂ (SameProduct s.toList t.toList) (products.foldl (addProduct s) found)
      (products.foldl (addProduct t) found') := by
  induction products generalizing found found' with
  | nil => exact hfound
  | cons p products ih =>
    obtain ⟨hp, hrest⟩ := List.forall_mem_cons.1 hproducts
    exact ih hrest (sameProduct_addProduct hp h hfound)

theorem terms_respaced {c : Catalog} {p q : String}
    (hproducts : ∀ product ∈ c.products, ∀ pattern ∈ product.patterns, IsBlind pattern)
    (h : Respaced [] (lower p).toList (lower q).toList) : terms c p = terms c q := by
  have hsorted := forall₂_mergeSort (fun a b => a.1 ≤ b.1) (fun a b => a.1 ≤ b.1)
    (sameProduct_foldl hproducts h .nil)
    fun hplace hplace' => decide_eq_decide.2 (hplace.1.le_iff hplace'.1)
  exact congrArg Text.distinct (map_snd_eq hsorted)

end PromptChart.Prompt
