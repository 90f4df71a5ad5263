import PromptChart.Proofs.Regex.Takes

namespace PromptChart.Regex

open Text (IsGap SameLetters isBlank sameLetter)

def Capture.text (c : Capture) : List Char := c.start.textTo c.stop

def State.texts (s : State) : List (Nat × List Char) :=
  s.captures.map fun c => (c.index, c.text)

def Match.texts (m : Match) : List (Nat × List Char) :=
  m.captures.map fun c => (c.index, c.text)

theorem Match.group_eq (m : Match) (index : Nat) :
    m.group index = String.ofList ((m.texts.lookup index).getD []) := by
  rw [Match.group, Match.texts]
  induction m.captures with
  | nil => rfl
  | cons c rest ih =>
    rw [List.find?_cons, List.map_cons, List.lookup_cons]
    by_cases hindex : c.index = index
    · subst hindex
      simp [Capture.text]
    · simpa [hindex, beq_false_of_ne (Ne.symm hindex)] using ih

theorem Cursor.Goes.textTo {c d : Cursor} {x : List Char} (h : c.Goes x d) :
    c.textTo d = x := by
  rw [Cursor.textTo, h.after, List.length_append, Nat.add_sub_cancel, List.take_left]

/-- Does an expression end here before it ends anywhere else? -/
def Prefers (r : Regex) (s e : State) : Prop := (r.ends s).head? = some e

variable {r first second body : Regex} {rs : List Regex} {s m e : State} {accepts : Char → Bool}
  {index : Nat} {before g w x y : List Char} {captures : List Capture}

theorem prefers_empty (s : State) : empty.Prefers s s := rfl

theorem Prefers.seq (hfirst : first.Prefers s m) (hsecond : second.Prefers m e) :
    (Regex.seq first second).Prefers s e := by
  obtain ⟨others, hends⟩ := List.head?_eq_some_iff.1 hfirst
  obtain ⟨later, hends'⟩ := List.head?_eq_some_iff.1 hsecond
  rw [Prefers, ends, hends, List.flatMap_cons, hends']
  rfl

theorem Prefers.alt_left (h : first.Prefers s e) : (Regex.alt first second).Prefers s e := by
  rw [Prefers, ends, List.head?_append, h]
  rfl

theorem Prefers.alt_right (hfirst : first.ends s = []) (h : second.Prefers s e) :
    (Regex.alt first second).Prefers s e := by
  rwa [Prefers, ends, hfirst, List.nil_append]

theorem Prefers.group (h : body.Prefers s e) :
    (Regex.group index body).Prefers s
      { e with captures := ⟨index, s.cursor, e.cursor⟩ :: e.captures } := by
  rw [Prefers, ends, List.head?_map, h]
  rfl

theorem Prefers.inOrder_cons (h : r.Prefers s m) (hrest : (inOrder rs).Prefers m e) :
    (inOrder (r :: rs)).Prefers s e := by
  cases rs with
  | nil =>
    obtain rfl : m = e := Option.some.inj hrest
    exact h
  | cons r' rs => exact h.seq hrest

theorem prefers_one {a : Char} (ha : accepts a = true) :
    (one accepts).Prefers ⟨⟨before, a :: y⟩, captures⟩ ⟨⟨a :: before, y⟩, captures⟩ := by
  simp only [Prefers, ends, ha, ↓reduceIte, List.head?_cons]

theorem head?_runs (hx : ∀ a ∈ x, accepts a = true) (hy : ∀ a ∈ y.head?, accepts a = false)
    (shorter : List Cursor) :
    (runs accepts before shorter (x ++ y)).head? = some ⟨x.reverse ++ before, y⟩ := by
  induction x generalizing before shorter with
  | nil =>
    cases y with
    | nil => rfl
    | cons a rest =>
      rw [List.nil_append, runs, if_neg (Bool.eq_false_iff.1 (hy a rfl))]
      rfl
  | cons a x ih =>
    obtain ⟨ha, hx⟩ := List.forall_mem_cons.1 hx
    rw [List.cons_append, runs, if_pos ha, ih hx, List.reverse_cons, List.append_assoc]
    rfl

theorem prefers_many (hx : ∀ a ∈ x, accepts a = true) (hy : ∀ a ∈ y.head?, accepts a = false) :
    (many accepts).Prefers ⟨⟨before, x ++ y⟩, captures⟩ ⟨⟨x.reverse ++ before, y⟩,
      captures⟩ := by
  rw [Prefers, ends, List.head?_map, head?_runs hx hy]
  rfl

theorem prefers_plus (hne : x ≠ []) (hx : ∀ a ∈ x, accepts a = true)
    (hy : ∀ a ∈ y.head?, accepts a = false) :
    (plus accepts).Prefers ⟨⟨before, x ++ y⟩, captures⟩ ⟨⟨x.reverse ++ before, y⟩,
      captures⟩ := by
  obtain ⟨a, x, rfl⟩ := List.exists_cons_of_ne_nil hne
  obtain ⟨ha, hx⟩ := List.forall_mem_cons.1 hx
  rw [List.reverse_cons, List.append_assoc]
  exact (prefers_one ha).seq (prefers_many hx hy)

theorem prefers_space (hg : IsGap g) (hy : ∀ a ∈ y.head?, isBlank a = false) :
    space.Prefers ⟨⟨before, g ++ y⟩, captures⟩ ⟨⟨g.reverse ++ before, y⟩, captures⟩ :=
  prefers_plus hg.ne_nil hg.blank hy

theorem prefers_caseless (word : String) :
    (caseless word).Prefers ⟨⟨before, word.toList ++ y⟩, captures⟩
      ⟨⟨word.toList.reverse ++ before, y⟩, captures⟩ := by
  rw [caseless]
  generalize word.toList = w
  induction w generalizing before with
  | nil => exact prefers_empty _
  | cons a rest ih =>
    rw [List.map_cons, List.reverse_cons, List.append_assoc]
    exact (prefers_one (Text.sameLetter_self a)).inOrder_cons ih

def diverges (w x : List Char) : Bool := (w.zip x).any fun p => !sameLetter p.1 p.2

theorem not_diverges (hw : SameLetters w g) (h : g ++ before = x ++ y) :
    diverges w x = false := by
  induction hw generalizing x with
  | nil => rfl
  | cons ha _ ih =>
    cases x with
    | nil => rfl
    | cons b x =>
      obtain ⟨rfl, hrest⟩ := List.cons.inj h
      rw [diverges, List.zip_cons_cons, List.any_cons, ha]
      exact ih hrest

theorem ends_eq_nil (h : ∀ d, ¬ r.Takes s.cursor d) : r.ends s = [] := by
  rw [List.eq_nil_iff_forall_not_mem]
  exact fun e he => h e.cursor ((exists_mem_ends_iff r s e.cursor).1 ⟨e, he, rfl⟩)

theorem prefers_firstOf {words : List String} {word : String} (hmem : word ∈ words)
    (hothers : ∀ other ∈ words, other = word ∨ diverges other.toList word.toList = true) :
    (firstOf (words.map caseless)).Prefers ⟨⟨before, word.toList ++ y⟩, captures⟩
      ⟨⟨word.toList.reverse ++ before, y⟩, captures⟩ := by
  induction words with
  | nil => cases hmem
  | cons other rest ih =>
    obtain ⟨hother, hrest⟩ := List.forall_mem_cons.1 hothers
    by_cases heq : other = word
    · subst heq
      cases rest with
      | nil => exact prefers_caseless other
      | cons next rest => exact (prefers_caseless other).alt_left
    · have hlater : word ∈ rest := (List.mem_cons.1 hmem).resolve_left (Ne.symm heq)
      have hnone : (caseless other).ends ⟨⟨before, word.toList ++ y⟩, captures⟩ = [] := by
        apply ends_eq_nil
        intro d htakes
        obtain ⟨z, hz, hgoes⟩ := takes_caseless.1 htakes
        exact absurd (not_diverges hz hgoes.after.symm) (by simp [hother.resolve_left heq])
      cases rest with
      | nil => cases hlater
      | cons next rest => exact (ih hlater hrest).alt_right hnone

theorem Prefers.search (h : r.Prefers ⟨⟨[], x⟩, []⟩ e) :
    ∃ found, r.search (String.ofList x) = some found ∧ found.texts = e.texts := by
  refine ⟨⟨⟨[], x⟩, e.cursor, e.captures⟩, ?_, rfl⟩
  have hmatch : r.matchAt ⟨[], x⟩ = some ⟨⟨[], x⟩, e.cursor, e.captures⟩ := by
    rw [matchAt, h]
    rfl
  rw [Regex.search, String.toList_ofList]
  cases x with
  | nil => exact hmatch
  | cons a rest => rw [searchFrom, hmatch]

end PromptChart.Regex
