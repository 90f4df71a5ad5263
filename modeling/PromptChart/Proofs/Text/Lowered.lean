import PromptChart.Proofs.Text.Plain
import PromptChart.Proofs.Text.Words

namespace PromptChart.Text

variable {n : Nat} {c w : Char} {before after cs : List Char} {run other : CaseRun}

def CaseRun.image (run : CaseRun) : CaseRun :=
  ⟨(run.first + run.shift).toNat, (run.last + run.shift).toNat,
    if Nat.beq run.first run.last then 2 else run.step, 0⟩

/-- Two runs that lie apart, or of which one has the even code points and the other one the odd
ones. -/
def CaseRun.avoids (run other : CaseRun) : Bool :=
  Nat.blt run.last other.first || (Nat.blt other.last run.first ||
    (Nat.beq run.step 2 && (Nat.beq other.step 2 && Nat.beq ((run.first + other.first) % 2) 1)))

theorem CaseRun.Moves.image (h : run.Moves n) (hpos : (0 : Int) ≤ run.first + run.shift) :
    run.image.Moves (n + run.shift).toNat := by
  obtain ⟨hfirst, hlast, hstep⟩ := h
  simp only [CaseRun.image, Nat.beq_eq]
  refine ⟨by simp only; omega, by simp only; omega, ?_⟩
  have hdistance : (n + run.shift).toNat - (run.first + run.shift).toNat = n - run.first := by
    omega
  simp only [hdistance]
  split
  · omega
  · exact hstep

theorem CaseRun.Moves.not_of_avoids (h : run.Moves n) (havoids : run.avoids other = true) :
    ¬ other.Moves n := by
  rintro ⟨hfirst, hlast, hstep⟩
  obtain ⟨hfirst', hlast', hstep'⟩ := h
  simp only [CaseRun.avoids, Bool.or_eq_true, Bool.and_eq_true, Nat.blt_eq,
    Nat.beq_eq] at havoids
  rcases havoids with hbelow | habove | ⟨heven, heven', hodd⟩
  · omega
  · omega
  · rw [heven] at hstep'
    rw [heven'] at hstep
    omega

theorem image_avoids : ∀ run ∈ lowerRuns, (0 : Int) ≤ run.first + run.shift ∧
    lowerRuns.all run.image.avoids = true ∧ run.image.avoids ⟨304, 304, 1, 0⟩ = true := by
  decide +kernel

theorem shiftIn_shiftIn (n : Nat) :
    shiftIn (shiftIn n lowerRuns) lowerRuns = shiftIn n lowerRuns := by
  rcases shiftIn_eq_or_moved n lowerRuns with hsame | ⟨run, hrun, hmoves, hmoved⟩
  · rw [hsame, hsame]
  · rcases shiftIn_eq_or_moved (shiftIn n lowerRuns) lowerRuns with hstays |
      ⟨other, hother, hagain, -⟩
    · exact hstays
    · obtain ⟨hpos, havoids, -⟩ := image_avoids run hrun
      rw [hmoved] at hagain
      exact absurd hagain
        ((hmoves.image hpos).not_of_avoids (List.all_eq_true.1 havoids other hother))

theorem shiftIn_ne_dotted (hn : n ≠ 304) : shiftIn n lowerRuns ≠ 304 := by
  rcases shiftIn_eq_or_moved n lowerRuns with hsame | ⟨run, hrun, hmoves, hmoved⟩
  · rwa [hsame]
  · obtain ⟨hpos, -, havoids⟩ := image_avoids run hrun
    have hmoves' := (hmoves.image hpos).not_of_avoids havoids
    rw [hmoved]
    intro heq
    rw [heq] at hmoves'
    exact hmoves' ⟨Nat.le_refl _, Nat.le_refl _, rfl⟩

theorem lowerAt_of_isLowered (h : IsLowered c) : lowerAt before c after = [c] := by
  obtain ⟨w, -, hdotted, rfl⟩ := h
  have hform : lowerChar w = Char.ofNat (shiftIn w.toNat lowerRuns) := if_neg hdotted
  rw [hform]
  rcases toNat_ofNat_eq_or (shiftIn w.toNat lowerRuns) with hvalid | hzero
  · have hcode : 'İ'.toNat = 304 := by decide
    have hne := shiftIn_ne_dotted fun h => hdotted (Char.toNat_inj.1 (h.trans hcode.symm))
    have hstays := shiftIn_shiftIn w.toNat
    generalize shiftIn w.toNat lowerRuns = m at *
    have hsigma : Char.ofNat m ≠ 'Σ' := by
      intro heq
      obtain rfl : m = 931 := hvalid.symm.trans (congrArg Char.toNat heq)
      exact absurd hstays (by decide +kernel)
    have hdotted' : Char.ofNat m ≠ 'İ' :=
      fun heq => hne (hvalid.symm.trans ((congrArg Char.toNat heq).trans hcode))
    rw [lowerAt, if_neg hsigma, if_neg hdotted', lowerChar, if_neg hdotted', hvalid, hstays]
  · rw [show Char.ofNat (shiftIn w.toNat lowerRuns) = Char.ofNat 0 from Char.toNat_inj.1 hzero]
    exact lowerAt_of_isPlain (by decide)

theorem lowerFrom_of_isLowered (h : ∀ c ∈ cs, IsLowered c) : lowerFrom before cs = cs := by
  induction cs generalizing before with
  | nil => rfl
  | cons c after ih =>
    obtain ⟨hc, hafter⟩ := List.forall_mem_cons.1 h
    rw [lowerFrom, lowerAt_of_isLowered hc, ih hafter]
    rfl

theorem isLowered_of_mem_stripped (s : String) :
    ∀ c ∈ (stripped (lower s)).toList, IsLowered c := by
  intro c hc
  rw [stripped, String.toList_ofList] at hc
  have hmem := (isInfix_trim _).subset hc
  rw [toList_lower] at hmem
  exact isLowered_of_mem hmem

theorem lower_stripped_lower (s : String) :
    lower (stripped (lower s)) = stripped (lower s) := by
  rw [← String.toList_inj, toList_lower]
  exact lowerFrom_of_isLowered (isLowered_of_mem_stripped s)

theorem lowerChar_of_isLowered (h : IsLowered c) : lowerChar c = c := by
  have hself : lowerAt [] c [] = [c] := lowerAt_of_isLowered h
  rw [lowerAt] at hself
  split at hself
  next hc =>
    subst hc
    exact absurd hself (by decide)
  · split at hself
    next hc =>
      subst hc
      exact absurd hself (by decide)
    · exact List.singleton_inj.1 hself

/-- A letter in lower case without other shapes. -/
def IsOnlyShape (c : Char) : Prop := lowerChar c = c ∧ letterShapes.lookup c.toNat = none

instance (c : Char) : Decidable (IsOnlyShape c) := inferInstanceAs (Decidable (_ ∧ _))

theorem eq_of_sameLetter (hc : IsOnlyShape c) (hw : IsLowered w)
    (h : sameLetter c w = true) : c = w := by
  simp only [sameLetter, hc.1, hc.2, lowerChar_of_isLowered hw, Option.getD_none,
    List.contains_iff_mem, List.mem_singleton] at h
  exact Char.toNat_inj.1 h.symm

theorem eq_of_sameLetters_of_isLowered {x y : List Char} (hx : ∀ c ∈ x, IsOnlyShape c)
    (hy : ∀ c ∈ y, IsLowered c) (h : SameLetters x y) : x = y := by
  induction h with
  | nil => rfl
  | cons hsame _ ih =>
    obtain ⟨hc, hx⟩ := List.forall_mem_cons.1 hx
    obtain ⟨hw, hy⟩ := List.forall_mem_cons.1 hy
    rw [eq_of_sameLetter hc hw hsame, ih hx hy]

variable {a d : Char} {m x y : List Char}

/-- A character that a text in lower case has only where the text has a character with this
form. -/
def IsSteady (d : Char) : Prop := d ≠ 'σ' ∧ d ≠ 'ς' ∧ d ≠ 'i' ∧ d ≠ '\u0307'

instance (d : Char) : Decidable (IsSteady d) := inferInstanceAs (Decidable (_ ∧ _))

theorem lowerAt_cases (before after : List Char) (a : Char) :
    lowerAt before a after = [lowerChar a] ∨
      ¬ IsSteady (lowerChar a) ∧ ∀ d ∈ lowerAt before a after, ¬ IsSteady d := by
  rw [lowerAt]
  split
  next hsigma =>
    subst hsigma
    refine .inr ⟨by decide, List.forall_mem_singleton.2 ?_⟩
    split <;> decide
  · split
    next hdotted =>
      subst hdotted
      exact .inr ⟨by decide, by decide⟩
    · exact .inl rfl

theorem prefix_lowerFrom_iff (hm : ∀ d ∈ m, IsSteady d) :
    m <+: lowerFrom before cs ↔ m <+: cs.map lowerChar := by
  induction m generalizing before cs with
  | nil => exact iff_of_true List.nil_prefix List.nil_prefix
  | cons d m ih =>
    obtain ⟨hd, hm⟩ := List.forall_mem_cons.1 hm
    cases cs with
    | nil => rfl
    | cons a after =>
      rw [lowerFrom, List.map_cons]
      rcases lowerAt_cases before after a with hsame | ⟨hform, hforms⟩
      · rw [hsame, List.singleton_append, List.cons_prefix_cons, List.cons_prefix_cons, ih hm]
      · obtain ⟨e, forms, he⟩ := List.exists_cons_of_ne_nil (lowerAt_ne_nil before after a)
        rw [he, List.cons_append, List.cons_prefix_cons, List.cons_prefix_cons]
        refine iff_of_false ?_ ?_
        · rintro ⟨rfl, -⟩
          exact hforms d (he ▸ List.mem_cons_self) hd
        · rintro ⟨rfl, -⟩
          exact hform hd

theorem infix_append_iff_of_not_mem (hne : m ≠ []) (hx : ∀ d ∈ x, d ∉ m) :
    m <:+: x ++ y ↔ m <:+: y := by
  induction x with
  | nil => rfl
  | cons d x ih =>
    obtain ⟨hd, hx⟩ := List.forall_mem_cons.1 hx
    obtain ⟨e, m, rfl⟩ := List.exists_cons_of_ne_nil hne
    have hnot : ¬ e :: m <+: d :: (x ++ y) := by
      rw [List.cons_prefix_cons]
      rintro ⟨rfl, -⟩
      exact hd List.mem_cons_self
    rw [List.cons_append, List.infix_cons_iff, or_iff_right hnot, ih hx]

theorem infix_lowerFrom_iff (hne : m ≠ []) (hm : ∀ d ∈ m, IsSteady d) :
    m <:+: lowerFrom before cs ↔ m <:+: cs.map lowerChar := by
  induction cs generalizing before with
  | nil => rfl
  | cons a after ih =>
    rcases lowerAt_cases before after a with hsame | ⟨hform, hforms⟩
    · have hprefix : m <+: lowerFrom before (a :: after) ↔ m <+: (a :: after).map lowerChar :=
        prefix_lowerFrom_iff hm
      rw [lowerFrom, hsame, List.map_cons, List.singleton_append] at hprefix
      rw [lowerFrom, hsame, List.map_cons, List.singleton_append, List.infix_cons_iff, hprefix,
        ih, ← List.infix_cons_iff]
    · have hleft : ∀ d ∈ lowerAt before a after, d ∉ m :=
        fun d hd hmem => hforms d hd (hm d hmem)
      have hright : ∀ d ∈ [lowerChar a], d ∉ m :=
        List.forall_mem_singleton.2 fun hmem => hform (hm _ hmem)
      rw [lowerFrom, infix_append_iff_of_not_mem hne hleft, ih, List.map_cons,
        ← List.singleton_append, infix_append_iff_of_not_mem hne hright]

theorem toNat_lt_of_lowerChar (hd : 0 < (lowerChar a).toNat ∧ (lowerChar a).toNat < 128)
    (hi : lowerChar a ≠ 'i') (hk : lowerChar a ≠ 'k') : a.toNat < 128 := by
  rw [lowerChar] at hd hi hk
  split at hd
  next hdotted => exact absurd (if_pos hdotted) hi
  next hdotted =>
    rw [if_neg hdotted] at hk
    have hruns : ∀ run ∈ lowerRuns, run.last < 128 ∨ (128 : Int) ≤ run.first + run.shift ∨
        run.first = run.last ∧ (run.first : Int) + run.shift = 'k'.toNat := by decide +kernel
    rcases shiftIn_eq_or_moved a.toNat lowerRuns with hsame |
      ⟨run, hrun, ⟨hfirst, hlast, -⟩, hmoved⟩
    · rw [hsame, Char.ofNat_toNat] at hd
      exact hd.2
    · have hcode :=
        (toNat_ofNat_eq_or (shiftIn a.toNat lowerRuns)).resolve_right (Nat.ne_of_gt hd.1)
      rw [hcode] at hd
      rcases hruns run hrun with hsmall | hlarge | ⟨hone, hkelvin⟩
      · omega
      · omega
      · refine absurd (Char.toNat_inj.1 ?_) hk
        rw [hcode]
        omega

end PromptChart.Text
