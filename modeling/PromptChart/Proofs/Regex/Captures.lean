import PromptChart.Proofs.Regex.Preferred
import PromptChart.Proofs.Text.Runs

namespace PromptChart.Regex

open Text (IsWordRun isWord)

def isGroupless : Regex → Bool
  | .seq first second => first.isGroupless && second.isGroupless
  | .alt first second => first.isGroupless && second.isGroupless
  | .group _ _ => false
  | _ => true

variable {r body : Regex} {rs others : List Regex} {s e : State} {c d : Cursor}
  {i j index : Nat} {before text : List Char}

theorem isGroupless_chain {combine : Regex → Regex → Regex} (h : ∀ r ∈ rs, r.isGroupless = true)
    (hcombine : ∀ first second,
      (combine first second).isGroupless = (first.isGroupless && second.isGroupless)) :
    (chain combine rs).isGroupless = true := by
  cases rs with
  | nil => rfl
  | cons r rs =>
    refine chain_induction (motive := fun r => r.isGroupless = true) (fun hfirst hsecond => ?_)
      (List.cons_ne_nil r rs) h
    rw [hcombine, hfirst, hsecond, Bool.and_self]

theorem isGroupless_inOrder (h : ∀ r ∈ rs, r.isGroupless = true) :
    (inOrder rs).isGroupless = true :=
  isGroupless_chain h fun _ _ => rfl

theorem isGroupless_firstOf (h : ∀ r ∈ rs, r.isGroupless = true) :
    (firstOf rs).isGroupless = true :=
  isGroupless_chain h fun _ _ => rfl

theorem isGroupless_ones (p : Char → Char → Bool) (w : List Char) :
    (inOrder (w.map fun a => .one (p a))).isGroupless = true := by
  apply isGroupless_inOrder
  intro r hr
  obtain ⟨a, -, rfl⟩ := List.mem_map.1 hr
  rfl

theorem isGroupless_exactly (word : String) : (exactly word).isGroupless = true :=
  isGroupless_ones (fun a b => b == a) word.toList

theorem isGroupless_caseless (word : String) : (caseless word).isGroupless = true :=
  isGroupless_ones Text.sameLetter word.toList

theorem takes_of_mem_ends (h : e ∈ r.ends s) : r.Takes s.cursor e.cursor :=
  (exists_mem_ends_iff r s _).1 ⟨e, h, rfl⟩

theorem captures_of_mem_ends (hr : r.isGroupless = true) (h : e ∈ r.ends s) :
    e.captures = s.captures := by
  induction r generalizing s e with
  | empty => rw [List.mem_singleton.1 h]
  | one accepts =>
    rw [ends] at h
    split at h
    · cases h
    · split at h
      · rw [List.mem_singleton.1 h]
      · cases h
  | many accepts =>
    obtain ⟨d, -, rfl⟩ := List.mem_map.1 h
    rfl
  | seq first second ihf ihs =>
    obtain ⟨hf, hs⟩ := Bool.and_eq_true_iff.1 hr
    obtain ⟨m, hm, he⟩ := List.mem_flatMap.1 h
    rw [ihs hs he, ihf hf hm]
  | alt first second ihf ihs =>
    obtain ⟨hf, hs⟩ := Bool.and_eq_true_iff.1 hr
    rcases List.mem_append.1 h with h | h
    · exact ihf hf h
    · exact ihs hs h
  | group => cases hr
  | boundary =>
    rw [ends] at h
    split at h
    · rw [List.mem_singleton.1 h]
    · cases h

theorem captures_of_mem_ends_group (hbody : body.isGroupless = true)
    (h : e ∈ (Regex.group index body).ends s) :
    e.captures = ⟨index, s.cursor, e.cursor⟩ :: s.captures := by
  obtain ⟨m, hm, rfl⟩ := List.mem_map.1 h
  rw [captures_of_mem_ends hbody hm]

theorem mem_ends_inOrder_cons :
    e ∈ (inOrder (r :: rs)).ends s ↔ ∃ m ∈ r.ends s, e ∈ (inOrder rs).ends m := by
  rw [ends_inOrder_cons, List.mem_flatMap]

theorem Prefers.mem_ends (h : r.Prefers s e) : e ∈ r.ends s := List.mem_of_mem_head? h

theorem Prefers.exists_of_inOrder_cons (h : (inOrder (r :: rs)).Prefers s e) :
    ∃ m ∈ r.ends s, (inOrder rs).Prefers m e := by
  rw [Prefers, ends_inOrder_cons, List.head?_flatMap] at h
  exact List.exists_of_findSome?_eq_some h

theorem Prefers.exists_of_inOrder_append (h : (inOrder (rs ++ others)).Prefers s e) :
    ∃ m ∈ (inOrder rs).ends s, (inOrder others).Prefers m e := by
  induction rs generalizing s with
  | nil => exact ⟨s, List.mem_singleton.2 rfl, h⟩
  | cons r rs ih =>
    obtain ⟨m, hm, hrest⟩ := h.exists_of_inOrder_cons
    obtain ⟨n, hn, hothers⟩ := ih hrest
    exact ⟨n, mem_ends_inOrder_cons.2 ⟨m, hm, hn⟩, hothers⟩

theorem Prefers.exists_of_group (h : (Regex.group index body).Prefers s e) :
    ∃ m, body.Prefers s m ∧
      e = { m with captures := ⟨index, s.cursor, m.cursor⟩ :: m.captures } := by
  rw [Prefers, ends, List.head?_map] at h
  obtain ⟨m, hm, rfl⟩ := Option.map_eq_some_iff.1 h
  exact ⟨m, hm, rfl⟩

theorem exists_of_searchFrom {m : Match} (h : r.searchFrom before text = some m) :
    ∃ x c e, Cursor.Goes ⟨before, text⟩ x c ∧
      r.Prefers ⟨c, []⟩ e ∧ m = ⟨c, e.cursor, e.captures⟩ := by
  have hhere {c : Cursor} (h : r.matchAt c = some m) :
      ∃ e, r.Prefers ⟨c, []⟩ e ∧ m = ⟨c, e.cursor, e.captures⟩ := by
    obtain ⟨e, he, hm⟩ := Option.map_eq_some_iff.1 h
    exact ⟨e, he, hm.symm⟩
  induction text generalizing before with
  | nil =>
    obtain ⟨e, he, hm⟩ := hhere h
    exact ⟨[], _, e, Cursor.goes_nil_iff.2 rfl, he, hm⟩
  | cons a rest ih =>
    rw [searchFrom] at h
    split at h
    next found hfound =>
      obtain rfl := Option.some.inj h
      obtain ⟨e, he, hm⟩ := hhere hfound
      exact ⟨[], _, e, Cursor.goes_nil_iff.2 rfl, he, hm⟩
    next =>
      obtain ⟨x, c, e, hgoes, he, hm⟩ := ih h
      exact ⟨a :: x, c, e, Cursor.goes_cons_iff.2 ⟨rfl, hgoes⟩, he, hm⟩

theorem group_of_search (front back : List Regex) {text : String} {m : Match}
    (hfront : ∀ r ∈ front, r.isGroupless = true) (hbody : body.isGroupless = true)
    (hback : ∀ r ∈ back, r.isGroupless = true)
    (h : (inOrder (front ++ .group i body :: back)).search text = some m) :
    ∃ c d, body.Takes c d ∧ m.group i = String.ofList (c.textTo d) := by
  obtain ⟨x, c, e, -, hprefers, rfl⟩ := exists_of_searchFrom h
  obtain ⟨s₁, hs₁, hprefers⟩ := hprefers.exists_of_inOrder_append
  obtain ⟨s₂, hs₂, hprefers⟩ := hprefers.exists_of_inOrder_cons
  have htakes : (Regex.group i body).Takes s₁.cursor s₂.cursor := takes_of_mem_ends hs₂
  have hcaptures : e.captures = [⟨i, s₁.cursor, s₂.cursor⟩] := by
    rw [captures_of_mem_ends (isGroupless_inOrder hback) hprefers.mem_ends,
      captures_of_mem_ends_group hbody hs₂,
      captures_of_mem_ends (isGroupless_inOrder hfront) hs₁]
  refine ⟨s₁.cursor, s₂.cursor, htakes, ?_⟩
  simp only [Match.group, hcaptures, List.find?_cons, decide_true]

theorem takes_word : Regex.word.Takes c d ↔ ∃ w, IsWordRun w ∧ c.Goes w d := by
  rw [Regex.word, takes_plus]
  exact exists_congr fun w => ⟨fun ⟨hne, hw, hgoes⟩ => ⟨⟨hne, hw⟩, hgoes⟩,
    fun ⟨hw, hgoes⟩ => ⟨hw.ne_nil, hw.word, hgoes⟩⟩

theorem Takes.exists_goes (h : r.Takes c d) : ∃ x, c.Goes x d := by
  induction r generalizing c d with
  | empty => exact ⟨[], h⟩
  | one =>
    obtain ⟨a, -, hgoes⟩ := h
    exact ⟨[a], hgoes⟩
  | many =>
    obtain ⟨x, -, hgoes⟩ := h
    exact ⟨x, hgoes⟩
  | seq first second ihf ihs =>
    obtain ⟨m, hf, hs⟩ := h
    obtain ⟨x, hx⟩ := ihf hf
    obtain ⟨y, hy⟩ := ihs hs
    exact ⟨x ++ y, hx.trans hy⟩
  | alt first second ihf ihs => exact h.elim ihf ihs
  | group index body ih => exact ih h
  | boundary => exact ⟨[], h.2⟩

theorem Prefers.exists_word (h : Regex.word.Prefers s e) :
    ∃ w, IsWordRun w ∧
      s.cursor.Goes w e.cursor ∧ ∀ a ∈ e.cursor.after.head?, isWord a = false := by
  obtain ⟨⟨before, after⟩, captures⟩ := s
  obtain ⟨w, rest, rfl, hw, hrest⟩ := Text.exists_span after isWord
  by_cases hne : w = []
  -- a word is taken, so one starts here
  · subst hne
    obtain ⟨x, hx, hgoes⟩ := takes_word.1 (takes_of_mem_ends h.mem_ends)
    obtain ⟨a, x, rfl⟩ := List.exists_cons_of_ne_nil hx.ne_nil
    have ha := hrest a (by rw [show rest = a :: (x ++ e.cursor.after) from hgoes.after]; rfl)
    rw [hx.word a (.head _)] at ha
    cases ha
  · obtain rfl := Option.some.inj (h.symm.trans (prefers_plus hne hw hrest))
    exact ⟨w, ⟨hne, hw⟩, ⟨rfl, rfl⟩, hrest⟩

theorem not_isWord_of_space (h : space.Takes c d) :
    ∃ g, c.Goes g d ∧ (∀ a ∈ g.getLast?, isWord a = false) ∧
      (∀ a ∈ c.after.head?, isWord a = false) ∧ g ≠ [] := by
  obtain ⟨g, hg, hgoes⟩ := takes_space.1 h
  refine ⟨g, hgoes, hg.not_isWord_last, ?_, hg.ne_nil⟩
  rw [hgoes.after]
  exact hg.not_isWord_head

/-- Two words behind white space, with white space behind the first one and nothing of a word
behind the second. -/
theorem Cursor.Goes.sublist_runs {c₁ c₂ c₃ c₄ c₅ c₆ : Cursor} {v w x z : List Char}
    (hx : Cursor.Goes ⟨[], text⟩ x c₁) (hg₁ : space.Takes c₁ c₂) (hv : IsWordRun v)
    (hfirst : c₂.Goes v c₃) (hg₂ : space.Takes c₃ c₄) (hz : c₄.Goes z c₅)
    (hg₃ : space.Takes c₅ c₆) (hw : IsWordRun w) (hsecond : c₆.Goes w d)
    (hafter : ∀ a ∈ d.after.head?, isWord a = false) : [v, w].Sublist (Text.runs text) := by
  obtain ⟨g₁, hg₁, hg₁last, -, hg₁ne⟩ := not_isWord_of_space hg₁
  obtain ⟨g₂, hg₂, -, hg₂head, -⟩ := not_isWord_of_space hg₂
  obtain ⟨g₃, hg₃, hg₃last, -, hg₃ne⟩ := not_isWord_of_space hg₃
  have hbefore : text = (x ++ g₁) ++ (v ++ c₃.after) := by
    rw [← hfirst.after]
    exact (hx.trans hg₁).after
  have hbetween : c₃.after = (g₂ ++ (z ++ g₃)) ++ (w ++ d.after) := by
    rw [← hsecond.after]
    exact (hg₂.trans (hz.trans hg₃)).after
  rw [hbefore, hbetween]
  refine Text.pair_sublist_runs hv hw ?_ (hbetween ▸ hg₂head) ?_ hafter
  · rwa [List.getLast?_append_of_ne_nil _ hg₁ne]
  · rwa [← List.append_assoc, List.getLast?_append_of_ne_nil _ hg₃ne]

/-- A group of word characters between white space, and one behind white space at the end, are
words of the text. -/
theorem groups_sublist_runs (front middle : List Regex) {text : String} {m : Match}
    (hmiddle : ∀ r ∈ middle, r.isGroupless = true) (hij : i ≠ j)
    (h : (inOrder (front ++
      space :: .group i Regex.word :: space :: (middle ++ [space, .group j Regex.word]))).search
      text = some m) :
    [(m.group i).toList, (m.group j).toList].Sublist (Text.runs text.toList) := by
  obtain ⟨x, c, e, hx, hprefers, rfl⟩ := exists_of_searchFrom h
  obtain ⟨s₁, hfront, hprefers⟩ := hprefers.exists_of_inOrder_append
  obtain ⟨s₂, hg₁, hprefers⟩ := hprefers.exists_of_inOrder_cons
  obtain ⟨s₃, hfirst, hprefers⟩ := hprefers.exists_of_inOrder_cons
  obtain ⟨s₄, hg₂, hprefers⟩ := hprefers.exists_of_inOrder_cons
  obtain ⟨s₅, hjoint, hprefers⟩ := hprefers.exists_of_inOrder_append
  obtain ⟨s₆, hg₃, hprefers⟩ := hprefers.exists_of_inOrder_cons
  obtain ⟨last, hsecond, rfl⟩ := Prefers.exists_of_group hprefers
  have htakes : (Regex.group i Regex.word).Takes s₂.cursor s₃.cursor := takes_of_mem_ends hfirst
  obtain ⟨v, hv, hvgoes⟩ := takes_word.1 htakes
  obtain ⟨w, hw, hwgoes, hafter⟩ := hsecond.exists_word
  have hcaptures : last.captures = ⟨i, s₂.cursor, s₃.cursor⟩ :: s₂.captures := by
    rw [captures_of_mem_ends rfl hsecond.mem_ends, captures_of_mem_ends rfl hg₃,
      captures_of_mem_ends (isGroupless_inOrder hmiddle) hjoint, captures_of_mem_ends rfl hg₂,
      captures_of_mem_ends_group rfl hfirst]
  have hgroups :
      Match.group ⟨c, last.cursor, ⟨j, s₆.cursor, last.cursor⟩ :: last.captures⟩ i =
        String.ofList v ∧
      Match.group ⟨c, last.cursor, ⟨j, s₆.cursor, last.cursor⟩ :: last.captures⟩ j =
        String.ofList w := by
    simp only [Match.group, hcaptures, List.find?_cons, hvgoes.textTo, hwgoes.textTo,
      decide_true, hij.symm, decide_false, and_self]
  obtain ⟨y, hy⟩ := (takes_of_mem_ends hfront).exists_goes
  obtain ⟨z, hz⟩ := (takes_of_mem_ends hjoint).exists_goes
  rw [hgroups.1, hgroups.2, String.toList_ofList, String.toList_ofList]
  exact (hx.trans hy).sublist_runs (takes_of_mem_ends hg₁) hv hvgoes (takes_of_mem_ends hg₂) hz
    (takes_of_mem_ends hg₃) hw hwgoes hafter

end PromptChart.Regex
