import PromptChart.Proofs.Regex.Blind

namespace PromptChart.Regex

open Text (IsGap IsSolid IsPhrase Respaced isBlank isWord sameLetter)

variable {phrases : List String} {r first second body : Regex} {rs : List Regex} {index : Nat}
  {a : Char} {g u v x y : List Char} {word : String}

/-- An expression without white space but that of the phrases, which starts with something
else. -/
structure Clear (phrases : List String) (r : Regex) : Prop where
  steady : Steady phrases r
  firm : r.Firm

/-- An expression that does not start with white space and does not see how much of it there
is. -/
structure Led (phrases : List String) (r : Regex) : Prop where
  blind : Blind phrases r
  firm : r.Firm

theorem Clear.led (h : Clear phrases r) : Led phrases r := ⟨h.steady.blind h.firm, h.firm⟩

theorem firm_seq (h : first.Firm) : (Regex.seq first second).Firm := by
  intro s hs
  rw [ends, h s hs]
  rfl

theorem firm_alt (hfirst : first.Firm) (hsecond : second.Firm) :
    (Regex.alt first second).Firm := by
  intro s hs
  rw [ends, hfirst s hs, hsecond s hs]
  rfl

theorem firm_inOrder (h : r.Firm) : (inOrder (r :: rs)).Firm := by
  cases rs with
  | nil => exact h
  | cons r' rs => exact firm_seq h

theorem clear_one {accepts : Char → Bool} (h : IsClear accepts) : Clear phrases (one accepts) :=
  ⟨steady_one h, firm_one h⟩

theorem Clear.seq (hfirst : Clear phrases first) (hsecond : Steady phrases second) :
    Clear phrases (.seq first second) :=
  ⟨hfirst.steady.seq hsecond, firm_seq hfirst.firm⟩

theorem Clear.group (h : Clear phrases body) : Clear phrases (.group index body) where
  steady := h.steady.group
  firm s hs := by
    rw [ends, h.firm s hs]
    rfl

theorem Clear.inOrder (hne : rs ≠ []) (h : ∀ r ∈ rs, Clear phrases r) :
    Clear phrases (inOrder rs) :=
  chain_induction (fun hr hs => hr.seq hs.steady) hne h

theorem Clear.firstOf (hne : rs ≠ []) (h : ∀ r ∈ rs, Clear phrases r) :
    Clear phrases (firstOf rs) :=
  chain_induction (fun hr hs => ⟨hr.steady.alt hs.steady, firm_alt hr.firm hs.firm⟩) hne h

theorem Led.firstOf (hne : rs ≠ []) (h : ∀ r ∈ rs, Led phrases r) : Led phrases (firstOf rs) :=
  chain_induction (fun hr hs => ⟨hr.blind.alt hr.firm hs.blind, firm_alt hr.firm hs.firm⟩) hne h

theorem Led.opt (h : Led phrases r) : Blind phrases (opt r) := h.blind.alt h.firm blind_empty

theorem Blind.inOrder_cons (h : Blind phrases r) (hrs : Blind phrases (inOrder rs)) :
    Blind phrases (inOrder (r :: rs)) := by
  cases rs with
  | nil => exact h
  | cons r' rs => exact h.seq hrs

theorem Led.inOrder_cons (h : Led phrases r) (hrs : Blind phrases (inOrder rs)) :
    Led phrases (inOrder (r :: rs)) :=
  ⟨h.blind.inOrder_cons hrs, firm_inOrder h.firm⟩

theorem Led.space_inOrder (h : Led phrases (inOrder (r :: rs))) :
    Blind phrases (inOrder (space :: r :: rs)) :=
  h.blind.space_seq h.firm

theorem Led.gap_inOrder (h : Led phrases r) (hrs : Blind phrases (inOrder rs)) :
    Led phrases (inOrder (r :: gap :: rs)) :=
  h.inOrder_cons (blind_gap.inOrder_cons hrs)

theorem isClear_sameLetter (ha : isBlank a = false) : IsClear (sameLetter a) := fun _ hsame =>
  eq_false_of_ne_true (mt (Text.isBlank_of_sameLetter hsame) (ne_true_of_eq_false ha))

theorem isClear_beq (ha : isBlank a = false) : IsClear (· == a) := by
  intro c hc
  rwa [beq_iff_eq.1 hc]

theorem isClear_isWord : IsClear isWord := fun _ => Text.isBlank_of_isWord

theorem clear_caseless (h : IsSolid word.toList) : Clear phrases (caseless word) := by
  apply Clear.inOrder (by simpa using h.ne_nil)
  intro r hr
  obtain ⟨a, ha, rfl⟩ := List.mem_map.1 hr
  exact clear_one (isClear_sameLetter (h.solid a ha))

theorem clear_exactly (h : IsSolid word.toList) : Clear phrases (exactly word) := by
  apply Clear.inOrder (by simpa using h.ne_nil)
  intro r hr
  obtain ⟨a, ha, rfl⟩ := List.mem_map.1 hr
  exact clear_one (isClear_beq (h.solid a ha))

theorem clear_phrase (hphrase : IsPhrase word.toList) (hmem : word ∈ phrases) :
    Clear phrases (caseless word) := by
  refine ⟨steady_phrase hphrase hmem, ?_⟩
  obtain ⟨first, second, hfirst, -, hcut⟩ := hphrase
  obtain ⟨a, rest, rfl⟩ := List.exists_cons_of_ne_nil hfirst.ne_nil
  rw [caseless, hcut]
  exact firm_inOrder (firm_one (isClear_sameLetter (List.forall_mem_cons.1 hfirst.solid).1))

theorem clear_word : Clear phrases Regex.word :=
  (clear_one isClear_isWord).seq (steady_many isClear_isWord)

/-- A place that is not inside a gap. -/
def Cursor.IsEdge (c : Cursor) : Prop :=
  c.before.head?.any isBlank = true → c.after.head?.any isBlank = false

/-- Two places in two texts, with the same before them but for the amounts of white space. -/
structure SamePlace (u v : List Char) (c d : Cursor) : Prop where
  left : c.before.reverse ++ c.after = u
  right : d.before.reverse ++ d.after = v
  before : Level c.before d.before
  isEdge_left : c.IsEdge
  isEdge_right : d.IsEdge

/-- Two matches with the same captures that start in the same place. -/
structure Found (u v : List Char) (m n : Match) : Prop where
  texts : m.texts = n.texts
  start : SamePlace u v m.start n.start

variable {m n : Match} {c d : Cursor}

theorem texts_matchAt (r : Regex) (c : Cursor) :
    (r.matchAt c).map Match.texts = r.andThen (fun e => some e.texts) ⟨c, []⟩ := by
  rw [matchAt, andThen]
  cases r.ends ⟨c, []⟩ with
  | nil => rfl
  | cons e rest => rfl

theorem agree_texts : Agree phrases fun e : State => some e.texts where
  same h := congrArg some h.texts
  start _ hnone := by cases hnone
  stop _ hnone := by cases hnone

theorem Blind.matchAt (h : Blind phrases r) (hafter : Respaced phrases c.after d.after)
    (hplace : SamePlace u v c d) :
    Option.Rel (Found u v) (r.matchAt c) (r.matchAt d) := by
  have htexts := (h agree_texts).same (s := ⟨c, []⟩) (t := ⟨d, []⟩) ⟨hplace.before, hafter, rfl⟩
  rw [← texts_matchAt, ← texts_matchAt] at htexts
  cases hm : r.matchAt c with
  | none =>
    rw [hm, Option.map_none, eq_comm, Option.map_eq_none_iff] at htexts
    rw [htexts]
    exact .none
  | some m =>
    rw [hm, Option.map_some, eq_comm, Option.map_eq_some_iff] at htexts
    obtain ⟨n, hn, htexts⟩ := htexts
    rw [hn]
    refine .some ⟨htexts.symm, ?_⟩
    rwa [start_of_matchAt hm, start_of_matchAt hn]

theorem Blind.searchFrom_gap (h : Blind phrases r) (hg : IsGap g)
    (hu : ∀ a ∈ u.head?, isBlank a = false) :
    r.searchFrom x (g ++ u) = (r.matchAt ⟨x, g ++ u⟩).or (r.searchFrom (g.reverse ++ x) u) := by
  obtain ⟨c, g, rfl, hc, hrest⟩ := hg.exists_cons
  clear hg
  induction g generalizing c x with
  | nil => exact searchFrom_cons
  | cons d g ih =>
    obtain ⟨hd, hrest'⟩ := List.forall_mem_cons.1 hrest
    rw [List.cons_append, searchFrom_cons, ih d hd hrest', List.reverse_cons (a := c),
      List.append_assoc]
    have hinside := Inside.intro x [] ⟨List.cons_ne_nil c [], by simpa using hc⟩
      ⟨List.cons_ne_nil d g, hrest⟩ hu
    cases hmatch : r.matchAt ⟨x, c :: (d :: g ++ u)⟩ with
    | some m => rfl
    | none =>
      have hnone := (h agree_texts).start hinside (by
        rw [← texts_matchAt, Option.map_eq_none_iff]
        exact hmatch)
      rw [← texts_matchAt, Option.map_eq_none_iff] at hnone
      rw [Option.none_or, Option.none_or]
      exact (congrArg (Option.or · _) hnone).trans Option.none_or

theorem rel_or {α β : Type} {related : α → β → Prop} {a a' : Option α} {b b' : Option β}
    (h : Option.Rel related a b) (h' : Option.Rel related a' b') :
    Option.Rel related (a.or a') (b.or b') := by
  cases h with
  | none => exact h'
  | some h => exact .some h

theorem rel_map {α β γ δ : Type} {related : α → β → Prop} {related' : γ → δ → Prop} {f : α → γ}
    {f' : β → δ} {a : Option α} {b : Option β} (h : Option.Rel related a b)
    (hf : ∀ {a b}, related a b → related' (f a) (f' b)) :
    Option.Rel related' (a.map f) (b.map f') := by
  cases h with
  | none => exact .none
  | some h => exact .some (hf h)

/-- An expression that does not see the amounts of white space finds the same in respaced
texts. -/
theorem Blind.searchFrom (h : Blind phrases r) (hafter : Respaced phrases u v)
    (hplace : SamePlace (x.reverse ++ u) (y.reverse ++ v) ⟨x, u⟩ ⟨y, v⟩) :
    Option.Rel (Found (x.reverse ++ u) (y.reverse ++ v)) (r.searchFrom x u)
      (r.searchFrom y v) := by
  induction hafter generalizing x y with
  | nil => exact h.matchAt .nil hplace
  | @char a u v ha hstart hrest ih =>
    have hedge {z w : List Char} : Cursor.IsEdge ⟨a :: z, w⟩ := fun hblank =>
      absurd (show isBlank a = true from hblank) (Bool.eq_false_iff.1 ha)
    have hlater := ih (x := a :: x) (y := a :: y) ⟨rfl, rfl, hplace.before.cons a, hedge, hedge⟩
    rw [List.reverse_cons, List.reverse_cons, List.append_assoc, List.append_assoc] at hlater
    rw [searchFrom_cons, searchFrom_cons]
    exact rel_or (h.matchAt (.char ha hstart hrest) hplace) hlater
  | @gap g g' u v hg hg' hhead hrest ih =>
    have hhead' := Respaced.head hrest hhead
    have hlater := ih (x := g.reverse ++ x) (y := g'.reverse ++ y)
      ⟨rfl, rfl, hplace.before.gap hg hg', fun _ => any_head_eq_false hhead,
        fun _ => any_head_eq_false hhead'⟩
    rw [List.reverse_append, List.reverse_append, List.reverse_reverse, List.reverse_reverse,
      List.append_assoc, List.append_assoc] at hlater
    rw [h.searchFrom_gap hg hhead, h.searchFrom_gap hg' hhead']
    exact rel_or (h.matchAt (.gap hg hg' hhead hrest) hplace) hlater

theorem Blind.search (h : Blind phrases r) {s t : String}
    (hst : Respaced phrases s.toList t.toList) :
    Option.Rel (Found s.toList t.toList) (r.search s) (r.search t) := by
  have hedge {w : List Char} : Cursor.IsEdge ⟨[], w⟩ := fun hblank => by cases hblank
  exact h.searchFrom hst ⟨rfl, rfl, ⟨rfl, rfl, rfl⟩, hedge, hedge⟩

end PromptChart.Regex
