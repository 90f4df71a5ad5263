import PromptChart.Proofs.Entries
import PromptChart.Proofs.Text.Lower
import PromptChart.Text.Case
import PromptChart.Text.Class
import PromptChart.Text.Word

namespace PromptChart.Text

variable {c w : Char} {before after cs : List Char}

/-- A statement about the characters of a list is decided by going through the list, not through
all characters. -/
instance (priority := 2000) decidableForallMem (cs : List Char) (p : Char → Prop)
    [DecidablePred p] : Decidable (∀ c ∈ cs, p c) :=
  List.decidableBAll p cs

def codes (ranges : List (Nat × Nat)) : List Nat :=
  ranges.flatMap fun r => List.range' r.1 (r.2 + 1 - r.1)

theorem mem_codes_of_inRanges {n : Nat} {ranges : List (Nat × Nat)}
    (h : inRanges n ranges = true) :
    n ∈ codes ranges := by
  induction ranges with
  | nil => cases h
  | cons r rest ih =>
    rw [inRanges] at h
    split at h
    · cases h
    next hfirst =>
      rw [codes, List.flatMap_cons, List.mem_append]
      rcases Bool.or_eq_true_iff.1 h with hlast | hrest
      · left
        rw [List.mem_range'_1]
        have := of_decide_eq_true hlast
        omega
      · exact .inr (ih hrest)

theorem forall_isBlank {p : Char → Prop} (h : ∀ n ∈ codes blankRanges, p (Char.ofNat n))
    (hc : isBlank c = true) :
    p c := by
  have hcode := h c.toNat (mem_codes_of_inRanges hc)
  rwa [Char.ofNat_toNat] at hcode

theorem caseless_of_isBlank (h : isBlank c = true) :
    isWord c = false ∧ IsBarrier c ∧ lowerChar c = c ∧ c ≠ 'Σ' ∧ c ≠ 'İ' :=
  forall_isBlank (p :=
  fun c => isWord c = false ∧ (isCaseIgnorable c = false ∧ isCased c = false) ∧
    lowerChar c = c ∧ c ≠ 'Σ' ∧ c ≠ 'İ') (by decide +kernel) h

theorem isWord_of_isBlank (h : isBlank c = true) : isWord c = false := (caseless_of_isBlank h).1

theorem isBlank_of_isWord (h : isWord c = true) : isBlank c = false :=
  eq_false_of_ne_true fun hblank => ne_true_of_eq_false (isWord_of_isBlank hblank) h

theorem isBarrier_of_isBlank (h : isBlank c = true) : IsBarrier c := (caseless_of_isBlank h).2.1

theorem lowerChar_of_isBlank (h : isBlank c = true) : lowerChar c = c :=
  (caseless_of_isBlank h).2.2.1

theorem lowerAt_of_isBlank (h : isBlank c = true) : lowerAt before c after = [c] := by
  obtain ⟨-, -, hlower, hsigma, hdotted⟩ := caseless_of_isBlank h
  rw [lowerAt, if_neg hsigma, if_neg hdotted, hlower]

theorem isBlank_of_lowerChar (h : isBlank (lowerChar c) = true) : isBlank c = true := by
  rw [lowerChar] at h
  split at h
  · exact absurd h (by decide)
  · rcases shiftIn_eq_or_moved c.toNat lowerRuns with hsame |
      ⟨run, hrun, ⟨hfirst, hlast, -⟩, hmoved⟩
    · rwa [hsame, Char.ofNat_toNat] at h
    · have hcode := mem_codes_of_inRanges h
      have hclear : ∀ run ∈ lowerRuns, ∀ n ∈ codes blankRanges,
          (n : Int) < run.first + run.shift ∨ (run.last : Int) + run.shift < n := by
        decide +kernel
      have hblank := forall_isBlank (p := fun c => c.toNat ≠ 0) (by decide) h
      rcases toNat_ofNat_eq_or (shiftIn c.toNat lowerRuns) with hvalid | hzero
      · rw [hvalid, hmoved] at hcode
        have := hclear run hrun _ hcode
        omega
      · exact absurd hzero hblank

theorem isBlank_of_mem_lowerAt (h : w ∈ lowerAt before c after) (hw : isBlank w = true) :
    isBlank c = true := by
  rw [lowerAt] at h
  split at h
  · rw [List.mem_singleton] at h
    subst h
    split at hw <;> exact absurd hw (by decide)
  · split at h
    · simp only [List.mem_cons, List.not_mem_nil, or_false] at h
      rcases h with rfl | rfl <;> exact absurd hw (by decide)
    · obtain rfl := List.mem_singleton.1 h
      exact isBlank_of_lowerChar hw

theorem solid_lowerAt (hc : isBlank c = false) :
    ∀ w ∈ lowerAt before c after, isBlank w = false :=
  fun _ hw => eq_false_of_ne_true (mt (isBlank_of_mem_lowerAt hw) (ne_true_of_eq_false hc))

theorem sameLetter_self (c : Char) : sameLetter c c = true := by
  rw [sameLetter, List.contains_iff_mem]
  exact .head _

theorem isBlank_of_sameLetter (h : sameLetter c w = true) (hw : isBlank w = true) :
    isBlank c = true := by
  have hshapes : ∀ e ∈ letterShapes, ∀ n ∈ e.2, n ∉ codes blankRanges := by decide +kernel
  rw [sameLetter, lowerChar_of_isBlank hw, List.contains_iff_mem, List.mem_cons] at h
  rcases h with hsame | hshape
  · apply isBlank_of_lowerChar
    rwa [← Char.toNat_inj.1 hsame]
  · cases hlookup : letterShapes.lookup (lowerChar c).toNat with
    | none =>
      rw [hlookup] at hshape
      cases hshape
    | some shapes =>
      rw [hlookup] at hshape
      exact absurd (mem_codes_of_inRanges hw)
        (hshapes _ (Entries.mem_of_lookup hlookup) _ hshape)

end PromptChart.Text
