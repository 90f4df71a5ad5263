import PromptChart.Catalog.Freight
import PromptChart.Proofs.Catalog.Products
import PromptChart.Proofs.Entries
import PromptChart.Prompt.Keywords

namespace PromptChart.Prompt

open Text (distinct lower)

theorem pairwise_mergeSort_of_pairwise {α : Type} (le : α → α → Bool) {related : α → α → Prop}
    {l : List α} (trans : ∀ a b c, le a b = true → le b c = true → le a c = true)
    (total : ∀ a b, (le a b || le b a) = true) (h : l.Pairwise related) :
    (l.mergeSort le).Pairwise fun a b => le a b = true ∧ (le b a = true → related a b) := by
  -- the list with its numbers is sorted by them where the order leaves two items open
  rw [← List.mergeSort_zipIdx, List.pairwise_map]
  have hsorted := List.pairwise_mergeSort (List.zipIdxLE_trans trans)
    (List.zipIdxLE_total total) l.zipIdx
  have hnodup : ((l.zipIdx.mergeSort (List.zipIdxLE le)).map Prod.snd).Nodup := by
    rw [((List.mergeSort_perm l.zipIdx (List.zipIdxLE le)).map Prod.snd).nodup_iff,
      List.zipIdx_map_snd]
    exact List.nodup_range'
  refine (hsorted.and (List.pairwise_map.1 hnodup)).imp_of_mem ?_
  intro x y hx hy ⟨hle, hne⟩
  rw [List.mem_mergeSort, List.mem_zipIdx_iff_getElem?] at hx hy
  rw [List.zipIdxLE] at hle
  split at hle
  next hxy =>
    refine ⟨hxy, fun hyx => ?_⟩
    rw [if_pos hyx, decide_eq_true_eq] at hle
    obtain ⟨hi, hx⟩ := List.getElem?_eq_some_iff.1 hx
    obtain ⟨hj, hy⟩ := List.getElem?_eq_some_iff.1 hy
    rw [← hx, ← hy]
    exact List.pairwise_iff_getElem.1 h _ _ hi hj (Nat.lt_of_le_of_ne hle hne)
  next => cases hle

theorem pairwise_distinct_map {α β : Type} [DecidableEq β] {f : α → β} {related : α → α → Prop}
    {l : List α} (h : l.Pairwise related) :
    (distinct (l.map f)).Pairwise fun b d =>
      ∀ y ∈ l, f y = d → ∃ x ∈ l, f x = b ∧ related x y := by
  induction l with
  | nil => exact .nil
  | cons x rest ih =>
    obtain ⟨hx, hrest⟩ := List.pairwise_cons.1 h
    have hlater {d : β} {y : α} (hd : d ∈ (distinct (rest.map f)).filter (· ≠ f x))
        (hy : y ∈ x :: rest) (hyd : f y = d) : y ∈ rest := by
      refine (List.mem_cons.1 hy).resolve_left ?_
      rintro rfl
      exact of_decide_eq_true (List.mem_filter.1 hd).2 hyd.symm
    rw [List.map_cons, distinct, List.pairwise_cons]
    constructor
    · intro d hd y hy hyd
      exact ⟨x, .head _, rfl, hx y (hlater hd hy hyd)⟩
    · refine ((ih hrest).filter _).imp_of_mem ?_
      intro b d _ hd hbefore y hy hyd
      obtain ⟨x', hx', hb, hrelated⟩ := hbefore y (hlater hd hy hyd) hyd
      exact ⟨x', .tail _ hx', hb, hrelated⟩

/-- An entry of the vocabulary and a place in a text. -/
structure Mention where
  index : Nat
  product : Product
  place : Nat

/-- The earlier place comes first, and of two entries at one place the one that the vocabulary
has first. -/
def Mention.Before (e f : Mention) : Prop :=
  e.place < f.place ∨ e.place = f.place ∧ e.index < f.index

def upTo (c : Catalog) (index : Nat) : Catalog := { c with products := c.products.take index }

/-- An entry is reported, with the first place where it stands, unless it is shadowed by a label
that the entries before it have reported. -/
structure IsReported (c : Catalog) (prompt : String) (e : Mention) : Prop where
  entry : c.products[e.index]? = some e.product
  place : IsLeast {n | e.product.StandsAt (lower prompt).toList n} e.place
  unshadowed : ∀ label ∈ e.product.shadowedBy, label ∉ terms (upTo c e.index) prompt

/-- The places and labels that the entries of a vocabulary report. -/
def found (products : List Product) (text : String) : List (Nat × String) :=
  products.foldl (addProduct text) []

def mention? (text : String) (products : List Product) (p : Product) (index : Nat) :
    Option Mention :=
  if p.shadowedBy.any fun label => (found (products.take index) text).any (·.2 = label) then
    none
  else (p.position? text).map (⟨index, p, ·⟩)

def mentions (text : String) (products : List Product) : List Mention :=
  products.zipIdx.filterMap fun entry => mention? text products entry.1 entry.2

variable {c : Catalog} {prompt label text : String} {p : Product} {products : List Product}
  {e f : Mention} {index : Nat}

theorem any_found_iff :
    (found c.products (lower prompt)).any (·.2 = label) = true ↔ label ∈ terms c prompt := by
  rw [terms, ← found, Text.mem_distinct]
  simp [List.mem_mergeSort]

theorem mention?_eq_some_iff : mention? text products p index = some e ↔
    e.index = index ∧ e.product = p ∧ p.position? text = some e.place ∧
      ∀ label ∈ p.shadowedBy,
        ¬ (found (products.take index) text).any (·.2 = label) = true := by
  obtain ⟨i, q, n⟩ := e
  rw [mention?]
  split
  next hany =>
    obtain ⟨label, hlabel, hfound⟩ := List.any_eq_true.1 hany
    exact iff_of_false (fun h => by cases h) fun h => h.2.2.2 label hlabel hfound
  next hany =>
    rw [Option.map_eq_some_iff]
    constructor
    · rintro ⟨place, hplace, he⟩
      obtain ⟨rfl, rfl, rfl⟩ := Mention.mk.inj he
      exact ⟨rfl, rfl, hplace,
        fun label hlabel hfound => hany (List.any_eq_true.2 ⟨label, hlabel, hfound⟩)⟩
    · rintro ⟨rfl, rfl, hplace, -⟩
      exact ⟨n, hplace, rfl⟩

theorem mem_mentions_iff : e ∈ mentions (lower prompt) c.products ↔ IsReported c prompt e := by
  have hopen : (∀ label ∈ e.product.shadowedBy,
      ¬ (found (c.products.take e.index) (lower prompt)).any (·.2 = label) = true) ↔
      ∀ label ∈ e.product.shadowedBy, label ∉ terms (upTo c e.index) prompt :=
    forall₂_congr fun label _ => not_congr (any_found_iff (c := upTo c e.index))
  rw [mentions, List.mem_filterMap]
  constructor
  · rintro ⟨⟨p, i⟩, hentry, he⟩
    obtain ⟨rfl, rfl, hplace, hfound⟩ := mention?_eq_some_iff.1 he
    exact ⟨List.mem_zipIdx_iff_getElem?.1 hentry, Product.position?_eq_some_iff.1 hplace,
      hopen.1 hfound⟩
  · rintro ⟨hentry, hplace, hterms⟩
    exact ⟨(e.product, e.index), List.mem_zipIdx_iff_getElem?.2 hentry,
      mention?_eq_some_iff.2 ⟨rfl, rfl, Product.position?_eq_some_iff.2 hplace, hopen.2 hterms⟩⟩

theorem pairwise_mentions (text : String) (products : List Product) :
    (mentions text products).Pairwise fun e f => e.index < f.index := by
  have hindex : products.zipIdx.Pairwise fun a b => a.2 < b.2 := by
    rw [← List.pairwise_map (f := Prod.snd), List.zipIdx_map_snd]
    exact List.pairwise_lt_range'
  rw [mentions, List.pairwise_filterMap]
  refine hindex.imp fun hlt e he f hf => ?_
  rwa [(mention?_eq_some_iff.1 he).1, (mention?_eq_some_iff.1 hf).1]

theorem mentions_concat (text : String) (products : List Product) (p : Product) :
    mentions text (products ++ [p]) = mentions text products ++
      (mention? text products p products.length).toList := by
  have hearlier {i : Nat} (hi : i ≤ products.length) (q : Product) :
      mention? text (products ++ [p]) q i = mention? text products q i := by
    rw [mention?, mention?, List.take_append_of_le_length hi]
  rw [mentions, List.zipIdx_append, List.filterMap_append]
  congr 1
  · apply List.filterMap_congr
    rintro ⟨q, i⟩ hq
    exact hearlier (List.snd_lt_of_mem_zipIdx hq).le q
  · rw [Nat.zero_add, List.zipIdx_singleton, ← hearlier le_rfl p]
    cases hmention : mention? text (products ++ [p]) p products.length with
    | none => exact List.filterMap_cons_none hmention
    | some e => exact List.filterMap_cons_some hmention

theorem found_eq (text : String) (products : List Product) :
    found products text = (mentions text products).map fun e => (e.place, e.product.label) := by
  induction products using List.reverseRecOn with
  | nil => rfl
  | append_singleton products p ih =>
    rw [mentions_concat, List.map_append, ← ih, mention?, List.take_length, found,
      List.foldl_concat, ← found, addProduct]
    split
    · exact (List.append_nil _).symm
    · cases p.position? text with
      | none => exact (List.append_nil _).symm
      | some place => rfl

example :
    found Catalog.freightProducts "tool box, drawer system" = [(10, "Drawer System"),
      (0, "Tool Box")] := by
  decide +kernel

theorem terms_eq (c : Catalog) (prompt : String) :
    terms c prompt =
      distinct (((mentions (lower prompt) c.products).mergeSort fun e f =>
        e.place ≤ f.place).map (·.product.label)) := by
  have hsort := List.map_mergeSort (f := fun e : Mention => (e.place, e.product.label))
    (l := mentions (lower prompt) c.products) (r := fun e f => e.place ≤ f.place)
    (s := fun a b => a.1 ≤ b.1) fun _ _ _ _ => rfl
  rw [terms, ← found, found_eq, ← hsort, List.map_map]
  rfl

theorem mem_terms_iff :
    label ∈ terms c prompt ↔ ∃ e, IsReported c prompt e ∧ e.product.label = label := by
  simp only [terms_eq, Text.mem_distinct, List.mem_map, List.mem_mergeSort, mem_mentions_iff]

/-- The labels of the entries that are reported, each once, in the order of the places where
they first stand. -/
structure IsListing (c : Catalog) (prompt : String) (labels : List String) : Prop where
  nodup : labels.Nodup
  mem_iff : ∀ label, label ∈ labels ↔ ∃ e, IsReported c prompt e ∧ e.product.label = label
  ordered : labels.Pairwise fun label later =>
    ∀ f, IsReported c prompt f → f.product.label = later →
      ∃ e, IsReported c prompt e ∧ e.product.label = label ∧ e.Before f

theorem isListing_terms (c : Catalog) (prompt : String) :
    IsListing c prompt (terms c prompt) where
  nodup := Text.nodup_distinct _
  mem_iff label := mem_terms_iff
  ordered := by
    have hsorted := pairwise_mergeSort_of_pairwise (fun e f : Mention => e.place ≤ f.place)
      (fun a b d => by simpa using Nat.le_trans)
      (fun a b => by simpa using Nat.le_total a.place b.place)
      (pairwise_mentions (lower prompt) c.products)
    have hlabels := pairwise_distinct_map (f := fun e : Mention => e.product.label) hsorted
    simp only [List.mem_mergeSort, mem_mentions_iff, decide_eq_true_eq] at hlabels
    rw [terms_eq]
    refine hlabels.imp fun hbefore f hf hlater => ?_
    obtain ⟨e, he, hlabel, hle, htie⟩ := hbefore f hf hlater
    exact ⟨e, he, hlabel, (Nat.lt_or_eq_of_le hle).imp_right fun heq => ⟨heq, htie heq.ge⟩⟩

theorem Mention.before_iff :
    e.Before f ↔ Prod.Lex (· < ·) (· < ·) (e.place, e.index) (f.place, f.index) := by
  rw [Prod.lex_def]
  rfl

theorem Mention.Before.trans {d : Mention} (h : d.Before e) (h' : e.Before f) : d.Before f := by
  rw [before_iff] at *
  exact Prod.Lex.trans h h'

theorem Mention.wellFounded_before : WellFounded Mention.Before :=
  Subrelation.wf before_iff.1 (InvImage.wf _ (Prod.lex Nat.lt_wfRel Nat.lt_wfRel).wf)

/-- No two labels are each listed before the other: an entry of one would always have an earlier
one. -/
theorem not_before_each_other {label other : String}
    (h : ∀ f, IsReported c prompt f → f.product.label = other →
      ∃ e, IsReported c prompt e ∧ e.product.label = label ∧ e.Before f)
    (h' : ∀ f, IsReported c prompt f → f.product.label = label →
      ∃ e, IsReported c prompt e ∧ e.product.label = other ∧ e.Before f) (f : Mention) :
    IsReported c prompt f → f.product.label ≠ label := by
  induction f using Mention.wellFounded_before.induction with
  | _ f ih =>
    intro hf hlabel
    obtain ⟨e, he, hother, hef⟩ := h' f hf hlabel
    obtain ⟨d, hd, hlabel', hde⟩ := h e he hother
    exact ih d (hde.trans hef) hd hlabel'

/-- These labels in this order, and nothing else, are the products that a prompt names. -/
theorem isListing_iff (c : Catalog) (prompt : String) (labels : List String) :
    IsListing c prompt labels ↔ labels = terms c prompt := by
  constructor
  · intro h
    have hterms := isListing_terms c prompt
    have hperm : labels.Perm (terms c prompt) := by
      rw [List.perm_ext_iff_of_nodup h.nodup hterms.nodup]
      intro label
      rw [h.mem_iff, hterms.mem_iff]
    refine List.Perm.eq_of_pairwise ?_ h.ordered hterms.ordered hperm
    intro label other hlabel _ hbefore hbehind
    obtain ⟨e, he, hlabel⟩ := (h.mem_iff label).1 hlabel
    exact absurd hlabel (not_before_each_other hbefore hbehind e he)
  · rintro rfl
    exact isListing_terms c prompt

end PromptChart.Prompt
