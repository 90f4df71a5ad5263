import PromptChart.Proofs.Text.Words

namespace PromptChart.Text

def isStart : List Char → List Char → Bool
  | [], _ => true
  | _ :: _, [] => false
  | a :: phrase, b :: rest => sameLetter a b && isStart phrase rest

/-- The phrases that start at each character of a text that is not white space. -/
def starts (phrases : List String) : List Char → List (List String)
  | [] => []
  | a :: rest =>
    if isBlank a then starts phrases rest
    else phrases.filter (fun phrase => isStart phrase.toList (a :: rest)) :: starts phrases rest

/-- Two texts with some white space in the same places, in which the same phrases start in the
same places. -/
inductive Respaced (phrases : List String) : List Char → List Char → Prop where
  | nil : Respaced phrases [] []
  | char {a : Char} {u v : List Char} : isBlank a = false →
      (∀ phrase ∈ phrases, isStart phrase.toList (a :: u) = isStart phrase.toList (a :: v)) →
      Respaced phrases u v → Respaced phrases (a :: u) (a :: v)
  | gap {x y u v : List Char} : IsGap x → IsGap y → (∀ a ∈ u.head?, isBlank a = false) →
      Respaced phrases u v → Respaced phrases (x ++ u) (y ++ v)

variable {a b : Char} {g u v w x y phrase : List Char} {phrases : List String}

namespace Respaced

theorem solid_append (hw : ∀ c ∈ w, isBlank c = false) (h : Respaced [] u v) :
    Respaced [] (w ++ u) (w ++ v) := by
  induction w with
  | nil => exact h
  | cons a w ih =>
    obtain ⟨ha, hw⟩ := List.forall_mem_cons.1 hw
    exact .char ha (fun _ hmem => absurd hmem List.not_mem_nil) (ih hw)

theorem exists_cons (ha : isBlank a = false) (h : Respaced phrases (a :: u) x) :
    ∃ v, x = a :: v ∧ Respaced phrases u v ∧
      ∀ phrase ∈ phrases, isStart phrase.toList (a :: u) = isStart phrase.toList (a :: v) := by
  generalize hy : a :: u = y at h
  cases h with
  | nil => cases hy
  | char _ hstart h =>
    obtain ⟨rfl, rfl⟩ := List.cons.inj hy
    exact ⟨_, rfl, h, hstart⟩
  | gap hx _ _ _ =>
    obtain ⟨b, rest, rfl, hb, -⟩ := hx.exists_cons
    obtain ⟨rfl, -⟩ := List.cons.inj hy
    exact absurd hb (Bool.eq_false_iff.1 ha)

theorem exists_append (hw : ∀ c ∈ w, isBlank c = false) (h : Respaced phrases (w ++ u) x) :
    ∃ v, x = w ++ v ∧ Respaced phrases u v := by
  induction w generalizing x with
  | nil => exact ⟨x, rfl, h⟩
  | cons a w ih =>
    obtain ⟨ha, hw⟩ := List.forall_mem_cons.1 hw
    obtain ⟨rest, rfl, hrest, -⟩ := Respaced.exists_cons (u := w ++ u) ha h
    obtain ⟨v, rfl, hend⟩ := ih hw hrest
    exact ⟨v, rfl, hend⟩

theorem exists_gap (hb : isBlank b = true) (h : Respaced phrases (b :: u) x)
    (hu : ∀ a ∈ u.head?, isBlank a = false) :
    ∃ y v, IsGap y ∧ x = y ++ v ∧ Respaced phrases u v := by
  generalize hw : b :: u = w at h
  cases h with
  | nil => cases hw
  | char ha _ =>
    obtain ⟨rfl, -⟩ := List.cons.inj hw
    exact absurd hb (Bool.eq_false_iff.1 ha)
  | gap hx hy hhead h =>
    obtain ⟨c, rest, rfl, -, hrest⟩ := hx.exists_cons
    obtain ⟨rfl, hrest'⟩ := List.cons.inj hw
    cases rest with
    | nil =>
      subst hrest'
      exact ⟨_, _, hy, rfl, h⟩
    | cons d rest =>
      have hd := (List.forall_mem_cons.1 hrest).1
      exact absurd hd (Bool.eq_false_iff.1 (hu d (by rw [hrest']; rfl)))

theorem head (h : Respaced phrases u v) (hu : ∀ a ∈ u.head?, isBlank a = false) :
    ∀ a ∈ v.head?, isBlank a = false := by
  cases h with
  | nil => exact hu
  | char => exact hu
  | gap hx _ _ _ =>
    obtain ⟨b, rest, rfl, hb, -⟩ := hx.exists_cons
    exact absurd hb (Bool.eq_false_iff.1 (hu b rfl))

theorem nil_iff (h : Respaced phrases u v) : u = [] ↔ v = [] := by
  cases h with
  | nil => exact Iff.rfl
  | char => exact iff_of_false (List.cons_ne_nil _ _) (List.cons_ne_nil _ _)
  | gap hx hy _ _ =>
    exact iff_of_false (List.append_ne_nil_of_left_ne_nil hx.ne_nil _)
      (List.append_ne_nil_of_left_ne_nil hy.ne_nil _)

theorem symm (h : Respaced phrases u v) : Respaced phrases v u := by
  induction h with
  | nil => exact .nil
  | char ha hstart _ ih => exact .char ha (fun phrase hmem => (hstart phrase hmem).symm) ih
  | gap hx hy hhead h ih => exact .gap hy hx (h.head hhead) ih

theorem starts_append_of_isBlank (hg : ∀ c ∈ g, isBlank c = true) (u : List Char) :
    starts phrases (g ++ u) = starts phrases u := by
  induction g with
  | nil => rfl
  | cons b g ih =>
    obtain ⟨hb, hg⟩ := List.forall_mem_cons.1 hg
    rw [List.cons_append, starts, if_pos hb, ih hg]

theorem of_starts (h : Respaced [] u v) (hstarts : starts phrases u = starts phrases v) :
    Respaced phrases u v := by
  induction h with
  | nil => exact .nil
  | @char a u v ha _ _ ih =>
    rw [starts, starts, if_neg (Bool.eq_false_iff.1 ha),
      if_neg (Bool.eq_false_iff.1 ha)] at hstarts
    obtain ⟨hhere, hlater⟩ := List.cons.inj hstarts
    refine .char ha (fun phrase hmem => ?_) (ih hlater)
    have hiff := congrArg (phrase ∈ ·) hhere
    simp only [List.mem_filter, hmem, true_and, eq_iff_iff] at hiff
    exact Bool.eq_iff_iff.2 hiff
  | gap hx hy hhead _ ih =>
    rw [starts_append_of_isBlank hx.blank, starts_append_of_isBlank hy.blank] at hstarts
    exact .gap hx hy hhead (ih hstarts)

end Respaced

/-- Two words with one space between them. -/
def IsPhrase (phrase : List Char) : Prop :=
  ∃ first second, IsSolid first ∧ IsSolid second ∧ phrase = first ++ ' ' :: second

theorem isStart_append_iff :
    isStart (phrase ++ w) u = true ↔
      ∃ x v, SameLetters phrase x ∧ u = x ++ v ∧ isStart w v = true := by
  induction phrase generalizing u with
  | nil => simp
  | cons a phrase ih =>
    cases u with
    | nil => simp [isStart, List.forall₂_cons_left_iff]
    | cons b rest =>
      rw [List.cons_append, isStart, Bool.and_eq_true, ih]
      constructor
      · rintro ⟨hab, x, v, hx, rfl, hw⟩
        exact ⟨b :: x, v, .cons hab hx, rfl, hw⟩
      · rintro ⟨x, v, hx, hcut, hw⟩
        obtain ⟨c, rest', hac, hrest, rfl⟩ := List.forall₂_cons_left_iff.1 hx
        obtain ⟨rfl, rfl⟩ := List.cons.inj hcut
        exact ⟨hac, rest', v, hrest, rfl, hw⟩

theorem isStart_iff :
    isStart phrase u = true ↔ ∃ x v, SameLetters phrase x ∧ u = x ++ v := by
  rw [← List.append_nil phrase, isStart_append_iff]
  simp [isStart]

theorem eq_space_of_sameLetter (h : sameLetter ' ' b = true) : b = ' ' := by
  have hshapes : letterShapes.lookup (lowerChar ' ').toNat = none := by decide +kernel
  rw [sameLetter, hshapes, List.contains_iff_mem, Option.getD_none, List.mem_singleton,
    Char.toNat_inj] at h
  exact (lowerChar_eq_iff (c := ' ') (by decide +kernel)).1 (h.trans (by decide +kernel))

/-- Stretches of one length without white space are the same in respaced texts, and leave
respaced texts. -/
theorem Respaced.of_append_solid (hx : ∀ c ∈ x, isBlank c = false)
    (hlength : x.length = y.length) (h : Respaced phrases (x ++ u) (y ++ v)) :
    x = y ∧ Respaced phrases u v := by
  obtain ⟨rest, hcut, hrest⟩ := h.exists_append hx
  obtain ⟨rfl, rfl⟩ := List.append_inj hcut hlength.symm
  exact ⟨rfl, hrest⟩

theorem Respaced.of_space_cons (h : Respaced phrases (' ' :: u) (' ' :: v))
    (hu : ∀ a ∈ u.head?, isBlank a = false) (hv : ∀ a ∈ v.head?, isBlank a = false) :
    Respaced phrases u v := by
  obtain ⟨y, rest, hy, hcut, htail⟩ := h.exists_gap (by decide) hu
  obtain ⟨b, blanks, rfl, -, hblanks⟩ := hy.exists_cons
  obtain ⟨rfl, rfl⟩ := List.cons.inj hcut
  cases blanks with
  | nil => exact htail
  | cons c blanks =>
    exact absurd (List.forall_mem_cons.1 hblanks).1 (Bool.eq_false_iff.1 (hv c rfl))

/-- Where a phrase starts, there are two words that are the same but for case, and one space
between them. -/
theorem exists_of_isStart (hx : IsSolid x) (hy : IsSolid y)
    (h : isStart (x ++ ' ' :: y) u = true) :
    ∃ x' y' v, SameLetters x x' ∧
      SameLetters y y' ∧ IsSolid x' ∧ IsSolid y' ∧ u = x' ++ ' ' :: (y' ++ v) := by
  obtain ⟨x', rest, hxx, rfl, hrest⟩ := isStart_append_iff.1 h
  cases rest with
  | nil => exact absurd hrest Bool.false_ne_true
  | cons b rest =>
    rw [isStart, Bool.and_eq_true] at hrest
    obtain ⟨y', v, hyy, rfl⟩ := isStart_iff.1 hrest.2
    obtain rfl := eq_space_of_sameLetter hrest.1
    exact ⟨x', y', v, hxx, hyy, hxx.isSolid hx, hyy.isSolid hy, rfl⟩

/-- A phrase that starts in one of two respaced texts starts in the other, and takes the same
off both. -/
theorem Respaced.exists_phrase {phrase : String} (hphrase : IsPhrase phrase.toList)
    (hmem : phrase ∈ phrases) (h : Respaced phrases u v)
    (hstart : isStart phrase.toList u = true) :
    ∃ x u' v', SameLetters phrase.toList x ∧ u = x ++ u' ∧ v = x ++ v' ∧
      Respaced phrases u' v' := by
  obtain ⟨first, second, hfirst, hsecond, hcut⟩ := hphrase
  rw [hcut] at hstart
  obtain ⟨x, y, u', hfx, hsy, hx, hy, rfl⟩ := exists_of_isStart hfirst hsecond hstart
  have hstart' : isStart phrase.toList v = true := by
    obtain ⟨a, rest, rfl⟩ := List.exists_cons_of_ne_nil hx.ne_nil
    obtain ⟨v', rfl, -, hstarts⟩ := Respaced.exists_cons (List.forall_mem_cons.1 hx.solid).1 h
    rw [← hstarts phrase hmem, hcut]
    exact hstart
  rw [hcut] at hstart'
  obtain ⟨x', y', v', hfx', hsy', hx', hy', rfl⟩ := exists_of_isStart hfirst hsecond hstart'
  obtain ⟨rfl, hspace⟩ := h.of_append_solid hx.solid (hfx.length_eq.symm.trans hfx'.length_eq)
  have hwords := hspace.of_space_cons hy.head hy'.head
  obtain ⟨rfl, hrest⟩ := hwords.of_append_solid hy.solid
    (hsy.length_eq.symm.trans hsy'.length_eq)
  refine ⟨x ++ ' ' :: y, u', v', ?_, by simp, by simp, hrest⟩
  rw [hcut]
  exact List.rel_append hfx (.cons (by decide +kernel) hsy)

theorem occursIn_append_of_isBlank (hg : ∀ c ∈ g, isBlank c = true)
    (hneedle : ∀ c ∈ w.head?, isBlank c = false) (hne : w ≠ []) (u : List Char) :
    occursIn w (g ++ u) = occursIn w u := by
  induction g with
  | nil => rfl
  | cons b g ih =>
    obtain ⟨hb, hg⟩ := List.forall_mem_cons.1 hg
    obtain ⟨a, w, rfl⟩ := List.exists_cons_of_ne_nil hne
    have hab : (a == b) = false :=
      beq_false_of_ne fun hab => by simp [← hab, hneedle a rfl] at hb
    rw [List.cons_append, occursIn, ih hg, List.isPrefixOf, hab, Bool.false_and, Bool.false_or]

theorem Respaced.occursIn_eq (hhead : ∀ c ∈ w.head?, isBlank c = false)
    (hstart : ∀ {u v}, Respaced phrases u v → w <+: u → w <+: v) (h : Respaced phrases u v) :
    occursIn w u = occursIn w v := by
  by_cases hne : w = []
  · subst hne
    rw [Bool.eq_iff_iff, occursIn_iff, occursIn_iff]
    exact iff_of_true List.nil_infix List.nil_infix
  · induction h with
    | nil => rfl
    | char ha hsame h ih =>
      have hwhole := Respaced.char ha hsame h
      rw [occursIn, occursIn, ih, Bool.eq_iff_iff.2 (List.isPrefixOf_iff_prefix.trans
        ((Iff.intro (hstart hwhole) (hstart hwhole.symm)).trans
          List.isPrefixOf_iff_prefix.symm))]
    | gap hx hy _ _ ih =>
      rw [occursIn_append_of_isBlank hx.blank hhead hne,
        occursIn_append_of_isBlank hy.blank hhead hne, ih]

theorem Respaced.occursIn_solid (hw : ∀ c ∈ w, isBlank c = false) (h : Respaced phrases u v) :
    occursIn w u = occursIn w v := by
  refine h.occursIn_eq (fun c hc => hw c (List.mem_of_mem_head? hc)) ?_
  rintro _ v h ⟨rest, rfl⟩
  obtain ⟨rest', rfl, -⟩ := h.exists_append hw
  exact List.prefix_append w rest'

theorem Respaced.occursIn_phrase {phrase : String} (hphrase : IsPhrase phrase.toList)
    (hmem : phrase ∈ phrases) (h : Respaced phrases u v) :
    occursIn phrase.toList u = occursIn phrase.toList v := by
  have hhead : ∀ c ∈ phrase.toList.head?, isBlank c = false := by
    obtain ⟨first, second, hfirst, -, hcut⟩ := hphrase
    rw [hcut]
    exact hfirst.head
  refine h.occursIn_eq hhead ?_
  rintro _ v h ⟨rest, rfl⟩
  have hstart : isStart phrase.toList (phrase.toList ++ rest) = true :=
    isStart_iff.2 ⟨_, rest, sameLetters_self _, rfl⟩
  obtain ⟨x, u', v', hx, hu, rfl, -⟩ := h.exists_phrase hphrase hmem hstart
  obtain ⟨rfl, -⟩ := List.append_inj hu hx.length_eq
  exact List.prefix_append _ v'

/-- A text without white space at its ends is one word, or a word before a gap and another such
text. -/
theorem exists_word (h : IsTrimmed u) (hne : u ≠ []) :
    ∃ w, IsSolid w ∧ (u = w ∨ ∃ g v, IsGap g ∧ IsTrimmed v ∧ v ≠ [] ∧ u = w ++ (g ++ v)) := by
  obtain ⟨w, rest, rfl, hw, hrest⟩ := exists_span u fun c => !isBlank c
  simp only [Bool.not_eq_true', Bool.not_eq_false'] at hw hrest
  have hsolid : IsSolid w := by
    refine ⟨?_, hw⟩
    rintro rfl
    obtain ⟨a, rest, rfl⟩ := List.exists_cons_of_ne_nil hne
    exact absurd (hrest a rfl) (ne_true_of_eq_false (h.head a rfl))
  refine ⟨w, hsolid, ?_⟩
  cases rest with
  | nil => exact .inl (List.append_nil w)
  | cons b rest =>
    obtain ⟨g, v, rfl, hblank, hhead⟩ := exists_span rest isBlank
    have hg : IsGap (b :: g) :=
      ⟨List.cons_ne_nil b g, List.forall_mem_cons.2 ⟨hrest b rfl, hblank⟩⟩
    have hlast := h.last
    rw [← List.cons_append, ← List.append_assoc] at hlast
    have hv : v ≠ [] := by
      rintro rfl
      obtain ⟨c, hc, hcblank⟩ := hg.exists_getLast?
      rw [List.append_nil, List.getLast?_append_of_ne_nil _ hg.ne_nil] at hlast
      exact ne_true_of_eq_false (hlast c hc) hcblank
    rw [List.getLast?_append_of_ne_nil _ hv] at hlast
    exact .inr ⟨b :: g, v, hg, ⟨hhead, hlast⟩, hv, rfl⟩

/-- Texts with the same words and no white space at their ends differ in the white space between
the words. -/
theorem respaced_of_words {u v : List Char} (hu : IsTrimmed u) (hv : IsTrimmed v)
    (h : words u = words v) :
    Respaced [] u v := by
  have hnil {x : List Char} (hx : IsTrimmed x) (hwords : words x = []) : x = [] := by
    cases x with
    | nil => rfl
    | cons a rest => exact absurd hwords (words_ne_nil (hx.head a rfl) (.head _))
  by_cases hne : u = []
  · subst hne
    rw [hnil hv h.symm]
    exact .nil
  · have hne' : v ≠ [] := by
      rintro rfl
      exact hne (hnil hu h)
    obtain ⟨w, hw, hrest⟩ := exists_word hu hne
    obtain ⟨w', hw', hrest'⟩ := exists_word hv hne'
    -- either text may end with its first word, and the words are the same only if both do or
    -- neither does
    rcases hrest with rfl | ⟨g, x, hg, hx, hxne, rfl⟩ <;>
      rcases hrest' with rfl | ⟨g', y, hg', hy, hyne, rfl⟩
    · rw [words_of_isSolid hw, words_of_isSolid hw'] at h
      obtain rfl := List.singleton_inj.1 h
      have hnil : Respaced [] [] [] := .nil
      simpa using hnil.solid_append hw.solid
    · rw [words_of_isSolid hw, words_append_gap hg', words_of_isSolid hw'] at h
      exact absurd (hnil hy (List.cons.inj h).2.symm) hyne
    · rw [words_of_isSolid hw', words_append_gap hg, words_of_isSolid hw] at h
      exact absurd (hnil hx (List.cons.inj h).2) hxne
    · rw [words_append_gap hg, words_append_gap hg', words_of_isSolid hw,
        words_of_isSolid hw'] at h
      obtain ⟨rfl, hwords⟩ := List.cons.inj h
      have hshorter : x.length < (w ++ (g ++ x)).length := by
        have := List.length_pos_iff.2 hw.ne_nil
        simp only [List.length_append]
        omega
      exact (Respaced.gap hg hg' hx.head (respaced_of_words hx hy hwords)).solid_append hw.solid
termination_by u.length

end PromptChart.Text
