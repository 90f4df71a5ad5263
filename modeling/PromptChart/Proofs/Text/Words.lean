import Mathlib.Data.List.TakeWhile
import PromptChart.Proofs.Text.Blank

namespace PromptChart.Text

variable {b c : Char} {cs g u v w x y : List Char}

def words (cs : List Char) : List (List Char) := (cs.splitOnP isBlank).filter (· ≠ [])

structure IsGap (g : List Char) : Prop where
  ne_nil : g ≠ []
  blank : ∀ c ∈ g, isBlank c = true

structure IsSolid (w : List Char) : Prop where
  ne_nil : w ≠ []
  solid : ∀ c ∈ w, isBlank c = false

instance (g : List Char) : Decidable (IsGap g) :=
  decidable_of_iff (g ≠ [] ∧ ∀ c ∈ g, isBlank c = true)
    ⟨fun h => ⟨h.1, h.2⟩, fun h => ⟨h.1, h.2⟩⟩

instance (w : List Char) : Decidable (IsSolid w) :=
  decidable_of_iff (w ≠ [] ∧ ∀ c ∈ w, isBlank c = false)
    ⟨fun h => ⟨h.1, h.2⟩, fun h => ⟨h.1, h.2⟩⟩

theorem isGap_space : IsGap [' '] := by decide

theorem IsGap.exists_cons (hg : IsGap g) :
    ∃ b rest, g = b :: rest ∧ isBlank b = true ∧ ∀ c ∈ rest, isBlank c = true := by
  obtain ⟨b, rest, rfl⟩ := List.exists_cons_of_ne_nil hg.ne_nil
  exact ⟨b, rest, rfl, List.forall_mem_cons.1 hg.blank⟩

theorem IsGap.exists_getLast? (hg : IsGap g) : ∃ b, g.getLast? = some b ∧ isBlank b = true :=
  ⟨g.getLast hg.ne_nil, List.getLast?_eq_some_getLast hg.ne_nil,
    hg.blank _ (List.getLast_mem hg.ne_nil)⟩

theorem words_append_cons (hb : isBlank b = true) (x y : List Char) :
    words (x ++ b :: y) = words x ++ words y := by
  rw [words, List.splitOnP_append_cons x y hb, List.filter_append]
  rfl

theorem words_of_isSolid (hw : IsSolid w) : words w = [w] := by
  rw [words, List.splitOnP_eq_singleton hw.solid]
  exact List.filter_cons_of_pos (by simpa using hw.ne_nil)

@[simp] theorem words_nil : words [] = [] := rfl

theorem words_blanks_append (hg : ∀ c ∈ g, isBlank c = true) (y : List Char) :
    words (g ++ y) = words y := by
  induction g with
  | nil => rfl
  | cons b rest ih =>
    obtain ⟨hb, hrest⟩ := List.forall_mem_cons.1 hg
    exact (words_append_cons hb [] (rest ++ y)).trans (ih hrest)

theorem words_append_gap (hg : IsGap g) (x y : List Char) :
    words (x ++ (g ++ y)) = words x ++ words y := by
  obtain ⟨b, rest, rfl, hb, hrest⟩ := hg.exists_cons
  rw [List.cons_append, words_append_cons hb, words_blanks_append hrest]

theorem words_append_blanks (hg : ∀ c ∈ g, isBlank c = true) (x : List Char) :
    words (x ++ g) = words x := by
  by_cases hnil : g = []
  · rw [hnil, List.append_nil]
  · simpa using words_append_gap ⟨hnil, hg⟩ x []

theorem words_induction {motive : List Char → Prop}
    (solid : ∀ w, (∀ c ∈ w, isBlank c = false) → motive w)
    (cut : ∀ x b y, isBlank b = true → motive x → motive y → motive (x ++ b :: y))
    (cs : List Char) :
    motive cs := by
  by_cases hblank : ∃ c ∈ cs, isBlank c = true
  · obtain ⟨b, hmem, hb⟩ := hblank
    obtain ⟨x, y, hcs⟩ := List.append_of_mem hmem
    have hlength := congrArg List.length hcs
    rw [List.length_append, List.length_cons] at hlength
    rw [hcs]
    exact cut x b y hb (words_induction solid cut x) (words_induction solid cut y)
  · exact solid cs fun c hc => Bool.eq_false_iff.2 fun hb => hblank ⟨c, hc, hb⟩
termination_by cs.length

theorem words_ne_nil (hc : isBlank c = false) (hmem : c ∈ cs) : words cs ≠ [] := by
  induction cs using words_induction with
  | solid w hw =>
    rw [words_of_isSolid ⟨List.ne_nil_of_mem hmem, hw⟩]
    exact List.cons_ne_nil _ _
  | cut x b y hb ihx ihy =>
    rw [words_append_cons hb]
    rcases List.mem_append.1 hmem with hx | hy
    · exact List.append_ne_nil_of_left_ne_nil (ihx hx) _
    · rcases List.mem_cons.1 hy with rfl | hy
      · exact absurd hb (by rw [hc]; exact Bool.false_ne_true)
      · exact List.append_ne_nil_of_right_ne_nil _ (ihy hy)

theorem head_append {p : Char → Bool} {value : Bool} (hne : x ≠ [])
    (hx : ∀ c ∈ x, p c = value) :
    ∀ c ∈ (x ++ y).head?, p c = value := by
  intro c hc
  rw [List.head?_append_of_ne_nil _ hne] at hc
  exact hx c (List.mem_of_mem_head? hc)

theorem IsSolid.head (hw : IsSolid w) : ∀ c ∈ (w ++ y).head?, isBlank c = false :=
  head_append hw.ne_nil hw.solid

theorem IsGap.not_isWord_head (hg : IsGap g) : ∀ c ∈ (g ++ y).head?, isWord c = false :=
  head_append hg.ne_nil fun c hc => isWord_of_isBlank (hg.blank c hc)

abbrev SameLetters (x y : List Char) : Prop :=
  List.Forall₂ (fun a b => sameLetter a b = true) x y

theorem sameLetters_self (x : List Char) : SameLetters x x :=
  List.forall₂_same.2 fun a _ => sameLetter_self a

theorem exists_of_mem_right {related : Char → Char → Prop} (h : List.Forall₂ related x y)
    (hb : b ∈ y) :
    ∃ a ∈ x, related a b := by
  induction h with
  | nil => cases hb
  | cons hab _ ih =>
    rcases List.mem_cons.1 hb with rfl | hb
    · exact ⟨_, .head _, hab⟩
    · obtain ⟨a, ha, hrelated⟩ := ih hb
      exact ⟨a, .tail _ ha, hrelated⟩

theorem SameLetters.isSolid (h : SameLetters x y) (hx : IsSolid x) : IsSolid y where
  ne_nil := by
    rintro rfl
    exact hx.ne_nil (List.forall₂_nil_right_iff.1 h)
  solid c hc := by
    obtain ⟨a, ha, hsame⟩ := exists_of_mem_right h hc
    exact eq_false_of_ne_true (mt (isBlank_of_sameLetter hsame)
      (ne_true_of_eq_false (hx.solid a ha)))

theorem SameLetters.exists_solid (h : SameLetters x y) (hx : ∃ a ∈ x, isBlank a = false) :
    ∃ b ∈ y, isBlank b = false := by
  obtain ⟨a, ha, hsolid⟩ := hx
  obtain ⟨b, hb, hsame⟩ := exists_of_mem_right h.flip ha
  exact ⟨b, hb,
    eq_false_of_ne_true (mt (isBlank_of_sameLetter hsame) (ne_true_of_eq_false hsolid))⟩

theorem lowerFrom_append_cons (hb : isBlank b = true) (x y : List Char) :
    lowerFrom [] (x ++ b :: y) = lowerFrom [] x ++ b :: lowerFrom [] y := by
  have hbehind : lowerFrom (b :: (x.reverse ++ [])) y = lowerFrom [] y :=
    lowerFrom_behind (isBarrier_of_isBlank hb) [] (x.reverse ++ []) y
  rw [lowerFrom_append (isBarrier_of_isBlank hb), lowerFrom, lowerAt_of_isBlank hb, hbehind]
  rfl

theorem solid_lowerFrom {before : List Char} (hw : ∀ c ∈ w, isBlank c = false) :
    ∀ c ∈ lowerFrom before w, isBlank c = false := by
  induction w generalizing before with
  | nil => exact fun c hc => absurd hc List.not_mem_nil
  | cons d after ih =>
    obtain ⟨hd, hafter⟩ := List.forall_mem_cons.1 hw
    intro c hc
    exact (List.mem_append.1 hc).elim (solid_lowerAt hd c) (ih hafter c)

theorem lowerAt_ne_nil (before after : List Char) (c : Char) : lowerAt before c after ≠ [] := by
  rw [lowerAt]
  split
  · exact List.cons_ne_nil _ _
  · split <;> exact List.cons_ne_nil _ _

theorem lower_eq_empty {s : String} (h : lower s = "") : s = "" := by
  have hlowered : lowerFrom [] s.toList = [] :=
    (toList_lower s).symm.trans (congrArg String.toList h)
  rw [← String.toList_eq_nil_iff]
  cases hs : s.toList with
  | nil => rfl
  | cons a rest =>
    rw [hs, lowerFrom] at hlowered
    exact absurd (List.append_eq_nil_iff.1 hlowered).1 (lowerAt_ne_nil [] rest a)

theorem words_lowerFrom (cs : List Char) :
    words (lowerFrom [] cs) = (words cs).map (lowerFrom []) := by
  induction cs using words_induction with
  | solid w hw =>
    cases w with
    | nil => rfl
    | cons c after =>
      have hne : lowerFrom [] (c :: after) ≠ [] :=
        List.append_ne_nil_of_left_ne_nil (lowerAt_ne_nil [] after c) _
      rw [words_of_isSolid ⟨hne, solid_lowerFrom hw⟩,
        words_of_isSolid ⟨List.cons_ne_nil c after, hw⟩]
      rfl
  | cut x b y hb ihx ihy =>
    rw [lowerFrom_append_cons hb, words_append_cons hb, words_append_cons hb, ihx, ihy,
      List.map_append]

/-- A text that neither starts nor ends in white space. -/
structure IsTrimmed (cs : List Char) : Prop where
  head : ∀ c ∈ cs.head?, isBlank c = false
  last : ∀ c ∈ cs.getLast?, isBlank c = false

theorem isTrimmed_iff :
    IsTrimmed cs ↔ cs.head?.all (!isBlank ·) = true ∧ cs.getLast?.all (!isBlank ·) = true := by
  simp only [Option.all_eq_true, Bool.not_eq_true']
  exact ⟨fun h => ⟨h.head, h.last⟩, fun h => ⟨h.1, h.2⟩⟩

instance (cs : List Char) : Decidable (IsTrimmed cs) := decidable_of_iff _ isTrimmed_iff.symm

theorem IsTrimmed.lowerFrom (h : IsTrimmed cs) : IsTrimmed (lowerFrom [] cs) where
  head := by
    intro c hc
    cases cs with
    | nil => cases hc
    | cons d after =>
      rw [Text.lowerFrom, List.head?_append_of_ne_nil _ (lowerAt_ne_nil [] after d)] at hc
      exact solid_lowerAt (h.head d rfl) c (List.mem_of_mem_head? hc)
  last := by
    have hlast {before cs : List Char} (h : ∀ c ∈ cs.getLast?, isBlank c = false) :
        ∀ c ∈ (Text.lowerFrom before cs).getLast?, isBlank c = false := by
      induction cs generalizing before with
      | nil => exact h
      | cons d after ih =>
        intro c hc
        rw [Text.lowerFrom] at hc
        cases after with
        | nil =>
          rw [Text.lowerFrom, List.append_nil] at hc
          exact solid_lowerAt (h d rfl) c (List.mem_of_mem_getLast? hc)
        | cons e rest =>
          have hne : Text.lowerFrom (d :: before) (e :: rest) ≠ [] :=
            List.append_ne_nil_of_left_ne_nil (lowerAt_ne_nil _ _ _) _
          rw [List.getLast?_append_of_ne_nil _ hne] at hc
          exact ih (fun c hc => h c (by rwa [List.getLast?_cons_cons])) c hc
    exact hlast h.last

theorem head_dropWhile (cs : List Char) (p : Char → Bool) :
    ∀ c ∈ (cs.dropWhile p).head?, p c = false := by
  intro c hc
  simpa [Option.mem_def.1 hc] using List.head?_dropWhile_not p cs

theorem exists_span (cs : List Char) (p : Char → Bool) :
    ∃ x y, cs = x ++ y ∧ (∀ c ∈ x, p c = true) ∧ ∀ c ∈ y.head?, p c = false :=
  ⟨cs.takeWhile p, cs.dropWhile p, List.takeWhile_append_dropWhile.symm,
    fun _ hc => List.mem_takeWhile_imp hc, head_dropWhile cs p⟩

theorem isTrimmed_trim (cs : List Char) : IsTrimmed (trim cs) where
  head := by
    intro c hc
    have hinitial : trim cs <+: cs.dropWhile isBlank := by
      rw [trim, trimBy, ← List.reverse_suffix, List.reverse_reverse]
      exact List.dropWhile_suffix _
    obtain ⟨rest, hrest⟩ := hinitial
    exact head_dropWhile _ isBlank c
      (by rw [← hrest, List.head?_append, Option.mem_def.1 hc]; rfl)
  last := by
    rw [trim, trimBy, List.getLast?_reverse]
    exact head_dropWhile _ isBlank

theorem dropWhile_of_head {p : Char → Bool} (h : ∀ c ∈ cs.head?, p c = false) :
    cs.dropWhile p = cs := by
  cases cs with
  | nil => rfl
  | cons c rest => exact List.dropWhile_cons_of_neg (Bool.eq_false_iff.1 (h c rfl))

theorem IsTrimmed.trim_eq (h : IsTrimmed cs) : trim cs = cs := by
  rw [trim, trimBy, dropWhile_of_head h.head,
    dropWhile_of_head (by rw [List.head?_reverse]; exact h.last), List.reverse_reverse]

theorem IsTrimmed.trim_wrapped {g' : List Char} (hx : IsTrimmed x) (hg : IsGap g)
    (hg' : IsGap g') :
    trim (g ++ (x ++ g')) = x := by
  have hfront : (g ++ (x ++ g')).dropWhile isBlank = (x ++ g').dropWhile isBlank :=
    List.dropWhile_append_of_pos hg.blank
  have hback : ∀ c ∈ g'.reverse, isBlank c = true :=
    fun c hc => hg'.blank c (List.mem_reverse.1 hc)
  rw [trim, trimBy, hfront]
  by_cases hnil : x = []
  · have hnone : g'.dropWhile isBlank = [] := List.dropWhile_eq_nil_iff.2 hg'.blank
    rw [hnil, List.nil_append, hnone]
    rfl
  · have hhead : ∀ c ∈ (x ++ g').head?, isBlank c = false := by
      rw [List.head?_append_of_ne_nil _ hnil]
      exact hx.head
    rw [dropWhile_of_head hhead, List.reverse_append, List.dropWhile_append_of_pos hback,
      dropWhile_of_head (by rw [List.head?_reverse]; exact hx.last), List.reverse_reverse]

theorem SameLetters.isTrimmed (h : SameLetters x y) (hx : IsTrimmed x) : IsTrimmed y := by
  have hhead {x y : List Char} (h : SameLetters x y) (hx : ∀ a ∈ x.head?, isBlank a = false) :
      ∀ b ∈ y.head?, isBlank b = false := by
    cases h with
    | nil => exact hx
    | cons hab _ =>
      rintro b ⟨⟩
      exact eq_false_of_ne_true (mt (isBlank_of_sameLetter hab)
        (ne_true_of_eq_false (hx _ rfl)))
  constructor
  · exact hhead h hx.head
  · rw [← List.head?_reverse]
    exact hhead (List.forall₂_reverse_iff.2 h) (by rw [List.head?_reverse]; exact hx.last)

theorem isInfix_trim (cs : List Char) : trim cs <:+: cs := by
  rw [trim, trimBy, ← List.reverse_infix, List.reverse_reverse]
  exact (List.dropWhile_suffix _).isInfix.trans
    (List.reverse_infix.2 (List.dropWhile_suffix _).isInfix)

theorem infix_dropWhile {p : Char → Bool} (hx : ∀ b ∈ x.head?, p b = false) (h : x <:+: cs) :
    x <:+: cs.dropWhile p := by
  cases x with
  | nil => exact List.nil_infix
  | cons b x =>
    obtain ⟨before, after, rfl⟩ := h
    have hb : ¬ p b = true := Bool.eq_false_iff.1 (hx b rfl)
    rw [List.append_assoc, List.dropWhile_append]
    split
    · rw [List.cons_append, List.dropWhile_cons_of_neg hb]
      exact (List.prefix_append (b :: x) after).isInfix
    · exact ⟨_, after, List.append_assoc _ _ _⟩

theorem IsTrimmed.infix_trim (h : IsTrimmed x) (hx : x <:+: cs) : x <:+: trim cs := by
  rw [trim, trimBy, ← List.reverse_infix, List.reverse_reverse]
  apply infix_dropWhile
  · rw [List.head?_reverse]
    exact h.last
  · exact List.reverse_infix.2 (infix_dropWhile h.head hx)

theorem words_trim (cs : List Char) : words (trim cs) = words cs := by
  have hends := List.takeWhile_append_dropWhile (p := isBlank)
    (l := (cs.dropWhile isBlank).reverse)
  have hstart := List.takeWhile_append_dropWhile (p := isBlank) (l := cs)
  have hcut := congrArg List.reverse hends
  rw [List.reverse_append, List.reverse_reverse] at hcut
  rw [← words_append_blanks (g := ((cs.dropWhile isBlank).reverse.takeWhile isBlank).reverse),
    trim, trimBy, hcut]
  · conv_rhs => rw [← hstart]
    exact (words_blanks_append (fun c hc => List.mem_takeWhile_imp hc) _).symm
  · intro c hc
    exact List.mem_takeWhile_imp (List.mem_reverse.1 hc)

end PromptChart.Text
