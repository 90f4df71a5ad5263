import Mathlib.Data.List.Infix
import PromptChart.Text.Case
import PromptChart.Text.Search

namespace PromptChart.Text

variable {c w : Char} {before after cs text needle : List Char}

theorem occursIn_iff : occursIn needle text = true ↔ needle <:+: text := by
  induction text with
  | nil => rw [occursIn, List.isEmpty_iff, List.infix_nil]
  | cons c rest ih =>
    rw [occursIn, Bool.or_eq_true, List.isPrefixOf_iff_prefix, ih, List.infix_cons_iff]

theorem contains_iff {text needle : String} :
    contains text needle = true ↔ needle.toList <:+: text.toList :=
  occursIn_iff

theorem contains_trans {text middle needle : String} (h : contains text middle = true)
    (hneedle : contains middle needle = true) : contains text needle = true := by
  rw [contains_iff] at *
  exact hneedle.trans h

theorem toList_lower (s : String) : (lower s).toList = lowerFrom [] s.toList :=
  String.toList_ofList

/-- Is a code point one of those that a run moves? -/
structure CaseRun.Moves (run : CaseRun) (n : Nat) : Prop where
  first_le : run.first ≤ n
  le_last : n ≤ run.last
  step : (n - run.first) % run.step = 0

theorem shiftIn_eq_or_moved (n : Nat) (runs : List CaseRun) :
    shiftIn n runs = n ∨
      ∃ run ∈ runs, run.Moves n ∧ shiftIn n runs = (n + run.shift).toNat := by
  induction runs with
  | nil => exact .inl rfl
  | cons run rest ih =>
    rw [shiftIn]
    split
    · exact .inl rfl
    next hfirst =>
      split
      next hlast => exact .inr ⟨run, .head _, ⟨Nat.le_of_not_lt hfirst, hlast.1, hlast.2⟩, rfl⟩
      next =>
        refine ih.imp_right ?_
        rintro ⟨found, hfound, hmoved⟩
        exact ⟨found, .tail _ hfound, hmoved⟩

theorem shiftIn_eq_or_le {runs : List CaseRun} {bound : Nat} (n : Nat)
    (h : ∀ run ∈ runs, (bound : Int) ≤ run.first + run.shift) :
    shiftIn n runs = n ∨ bound ≤ shiftIn n runs := by
  refine (shiftIn_eq_or_moved n runs).imp_right ?_
  rintro ⟨run, hrun, hmoves, hmoved⟩
  have := h run hrun
  have := hmoves.first_le
  omega

theorem toNat_ofNat_eq_or (n : Nat) : (Char.ofNat n).toNat = n ∨ (Char.ofNat n).toNat = 0 := by
  rw [Char.ofNat]
  by_cases h : n.isValidChar
  · rw [dif_pos h]
    exact .inl rfl
  · rw [dif_neg h]
    exact .inr rfl

/-- A sign below the small letters that is in lower case from the start. -/
def IsSign (c : Char) : Prop := 0 < c.toNat ∧ c.toNat < 97 ∧ lowerChar c = c

instance (c : Char) : Decidable (IsSign c) := inferInstanceAs (Decidable (_ ∧ _))

theorem lowerChar_eq_iff (h : IsSign c) : lowerChar w = c ↔ w = c := by
  obtain ⟨hpos, hbelow, hstays⟩ := h
  constructor
  · intro hw
    rw [lowerChar] at hw
    split at hw
    · subst hw
      exact absurd hbelow (by decide)
    · have hruns : ∀ run ∈ lowerRuns, ((97 : Nat) : Int) ≤ run.first + run.shift := by
        decide +kernel
      rcases shiftIn_eq_or_le w.toNat hruns with hsame | hbeyond
      · rwa [hsame, Char.ofNat_toNat] at hw
      · subst hw
        have hnat := toNat_ofNat_eq_or (shiftIn w.toNat lowerRuns)
        omega
  · rintro rfl
    exact hstays

theorem mem_lowerAt_iff (h : IsSign c) : c ∈ lowerAt before w after ↔ w = c := by
  have hne {d : Char} (hd : 97 ≤ d.toNat) : c ≠ d := by
    rintro rfl
    exact absurd h.2.1 (by omega)
  rw [lowerAt]
  split
  next hsigma =>
    subst hsigma
    constructor
    · intro hc
      obtain rfl := List.mem_singleton.1 hc
      split at h
      · exact absurd h (by decide)
      · exact absurd h (by decide)
    · intro hc
      exact absurd hc.symm (hne (by decide))
  · split
    next hdotted =>
      subst hdotted
      constructor
      · intro hc
        simp only [List.mem_cons, List.not_mem_nil, or_false] at hc
        rcases hc with rfl | rfl <;> exact absurd h (by decide)
      · intro hc
        exact absurd hc.symm (hne (by decide))
    · rw [List.mem_singleton, eq_comm, lowerChar_eq_iff h]

theorem mem_lowerFrom_iff (h : IsSign c) : c ∈ lowerFrom before cs ↔ c ∈ cs := by
  induction cs generalizing before with
  | nil => rfl
  | cons w after ih =>
    rw [lowerFrom, List.mem_append, mem_lowerAt_iff h, ih, List.mem_cons, eq_comm]

theorem mem_lower_iff (h : IsSign c) (s : String) : c ∈ (lower s).toList ↔ c ∈ s.toList := by
  rw [lower, String.toList_ofList, mem_lowerFrom_iff h]

/-- The lower-case forms that do not depend on where a character stands. -/
def IsLowered (c : Char) : Prop := ∃ w, w ≠ 'Σ' ∧ w ≠ 'İ' ∧ lowerChar w = c

theorem isLowered_of_mem_lowerAt (h : c ∈ lowerAt before w after) : IsLowered c := by
  rw [lowerAt] at h
  split at h
  · obtain rfl := List.mem_singleton.1 h
    split
    · exact ⟨'ς', by decide, by decide, by decide⟩
    · exact ⟨'σ', by decide, by decide, by decide⟩
  · split at h
    · simp only [List.mem_cons, List.not_mem_nil, or_false] at h
      rcases h with rfl | rfl
      · exact ⟨'i', by decide, by decide, by decide⟩
      · exact ⟨'\u0307', by decide, by decide, by decide⟩
    next hsigma hdotted =>
      obtain rfl := List.mem_singleton.1 h
      exact ⟨w, hsigma, hdotted, rfl⟩

theorem isLowered_of_mem (h : c ∈ lowerFrom before cs) : IsLowered c := by
  induction cs generalizing before with
  | nil => cases h
  | cons w after ih =>
    rw [lowerFrom] at h
    rcases List.mem_append.1 h with hhere | hlater
    · exact isLowered_of_mem_lowerAt hhere
    · exact ih hlater

theorem exists_lower_eq (h : ∀ c ∈ cs, IsLowered c) : ∃ s, (lower s).toList = cs := by
  obtain ⟨source, hsource⟩ : ∃ source, ∀ before, lowerFrom before source = cs := by
    induction cs with
    | nil => exact ⟨[], fun _ => rfl⟩
    | cons c rest ih =>
      obtain ⟨⟨w, hsigma, hdotted, hw⟩, hrest⟩ := List.forall_mem_cons.1 h
      obtain ⟨source, hsource⟩ := ih hrest
      refine ⟨w :: source, fun before => ?_⟩
      rw [lowerFrom, lowerAt, if_neg hsigma, if_neg hdotted, hw, hsource]
      rfl
  refine ⟨String.ofList source, ?_⟩
  rw [lower, String.toList_ofList, String.toList_ofList, hsource]

/-- A sign without case that is not passed over when the neighbours of a letter are looked
at. -/
def IsBarrier (c : Char) : Prop := isCaseIgnorable c = false ∧ isCased c = false

theorem any_isCased_dropWhile (h : IsBarrier c) (cs rest : List Char) :
    ((cs ++ c :: rest).dropWhile isCaseIgnorable).head?.any isCased =
      (cs.dropWhile isCaseIgnorable).head?.any isCased := by
  induction cs with
  | nil =>
    rw [List.nil_append, List.dropWhile_cons_of_neg (Bool.eq_false_iff.1 h.1)]
    exact h.2
  | cons d cs ih =>
    rw [List.cons_append]
    cases hd : isCaseIgnorable d with
    | true => rw [List.dropWhile_cons_of_pos hd, List.dropWhile_cons_of_pos hd, ih]
    | false =>
      rw [List.dropWhile_cons_of_neg (Bool.eq_false_iff.1 hd),
        List.dropWhile_cons_of_neg (Bool.eq_false_iff.1 hd)]
      rfl

theorem lowerFrom_behind (h : IsBarrier c) (before rest cs : List Char) :
    lowerFrom (before ++ c :: rest) cs = lowerFrom before cs := by
  induction cs generalizing before with
  | nil => rfl
  | cons d after ih =>
    have hends : endsWord (before ++ c :: rest) after = endsWord before after := by
      rw [endsWord, endsWord, any_isCased_dropWhile h]
    rw [lowerFrom, lowerFrom, ← List.cons_append, ih, lowerAt, lowerAt, hends]

theorem lowerFrom_append (h : IsBarrier c) (before cs rest : List Char) :
    lowerFrom before (cs ++ c :: rest) = lowerFrom before cs ++
      lowerFrom (cs.reverse ++ before) (c :: rest) := by
  induction cs generalizing before with
  | nil => rfl
  | cons d after ih =>
    have hends : endsWord before (after ++ c :: rest) = endsWord before after := by
      rw [endsWord, endsWord, any_isCased_dropWhile h]
    rw [List.cons_append, lowerFrom, lowerFrom, ih, lowerAt, lowerAt, hends, List.append_assoc,
      List.reverse_cons, List.append_assoc, List.singleton_append]

theorem lowerFrom_wrapped (before cs : List Char) :
    lowerFrom (before ++ ['%']) (cs ++ ['%']) = lowerFrom before cs ++ ['%'] := by
  have hpercent : IsBarrier '%' := ⟨by decide, by decide⟩
  rw [lowerFrom_behind hpercent, lowerFrom_append hpercent]
  rfl

theorem toList_lower_wrapped (s : String) :
    (lower ("%" ++ s ++ "%")).toList = '%' :: ((lower s).toList ++ ['%']) := by
  have hparts : ("%" ++ s ++ "%").toList = '%' :: (s.toList ++ ['%']) := by simp
  rw [lower, lower, String.toList_ofList, String.toList_ofList, hparts, lowerFrom,
    ← lowerFrom_wrapped]
  rfl

end PromptChart.Text
