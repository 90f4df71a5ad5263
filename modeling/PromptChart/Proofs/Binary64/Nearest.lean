import PromptChart.Proofs.Binary64.Monotone

namespace PromptChart.Binary64

def magnitude (i : Nat) : ℚ := units i / unitsPerOne

/-- No magnitude is closer to a rational than the one with index `i`; this index is even if
another one is as close. -/
structure IsNearest (q : ℚ) (i : Nat) : Prop where
  closest : ∀ j, |magnitude i - q| ≤ |magnitude j - q|
  even : ∀ j, j ≠ i → |magnitude j - q| = |magnitude i - q| → i % 2 = 0

def middle (i : Nat) : ℚ := (magnitude i + magnitude (i + 1)) / 2

variable {a b p q r : ℚ} {i j num den : Nat}

theorem unitsPerOne_cast_pos : (0 : ℚ) < unitsPerOne := by exact_mod_cast unitsPerOne_pos

theorem magnitude_strictMono : StrictMono magnitude := by
  intro i j h
  exact div_lt_div_of_pos_right (by exact_mod_cast units_strictMono h) unitsPerOne_cast_pos

theorem magnitude_zero :
    magnitude 0 = 0 := by rw [magnitude, units_zero, Nat.cast_zero, zero_div]

theorem abs_sub_le_abs_sub_iff (h : a < b) : |a - q| ≤ |b - q| ↔ 2 * q ≤ a + b := by
  rw [← sq_le_sq]
  constructor
  · intro hsq
    by_contra hlt
    nlinarith
  · intro hle
    nlinarith

theorem abs_sub_eq_abs_sub_iff (h : a < b) : |a - q| = |b - q| ↔ 2 * q = a + b := by
  rw [abs_eq_abs]
  constructor
  · rintro (heq | heq) <;> linarith
  · intro heq
    right
    linarith

theorem middle_mono : Monotone middle := by
  apply monotone_nat_of_le_succ
  intro i
  have h := magnitude_strictMono (Nat.lt_add_of_pos_right (n := i) (Nat.two_pos))
  rw [middle, middle]
  linarith

theorem middle_le_of_lt (h : i < j) : 2 * middle i ≤ magnitude i + magnitude j := by
  have hle := magnitude_strictMono.monotone (Nat.succ_le_of_lt h)
  rw [middle]
  linarith

theorem le_middle_of_lt (h : i < j) : magnitude i + magnitude j ≤ 2 * middle (j - 1) := by
  have hle := magnitude_strictMono.monotone (Nat.le_sub_one_of_lt h)
  rw [middle, Nat.sub_add_cancel (Nat.one_le_of_lt h)]
  linarith

namespace IsNearest

theorem le_of_lt (h : IsNearest q i) (hij : i < j) : 2 * q ≤ magnitude i + magnitude j :=
  (abs_sub_le_abs_sub_iff (magnitude_strictMono hij)).1 (h.closest j)

theorem ge_of_lt (h : IsNearest q j) (hij : i < j) : magnitude i + magnitude j ≤ 2 * q := by
  by_contra hlt
  have hle := (abs_sub_le_abs_sub_iff (magnitude_strictMono hij)).2 (not_le.1 hlt).le
  have heq :=
    (abs_sub_eq_abs_sub_iff (magnitude_strictMono hij)).1 (le_antisymm hle (h.closest i))
  exact hlt heq.ge

theorem le_middle (h : IsNearest q i) : q ≤ middle i := by
  have hle := h.le_of_lt (Nat.lt_succ_self i)
  rw [middle]
  linarith

theorem middle_le (h : IsNearest q (i + 1)) : middle i ≤ q := by
  have hle := h.ge_of_lt (Nat.lt_succ_self i)
  rw [middle]
  linarith

theorem of_middle (habove : q ≤ middle i) (hbelow : ∀ j, i = j + 1 → middle j ≤ q)
    (heven : (q = middle i ∨ ∃ j, i = j + 1 ∧ q = middle j) → i % 2 = 0) : IsNearest q i where
  closest := by
    intro j
    rcases Nat.lt_trichotomy i j with hij | rfl | hji
    · rw [abs_sub_le_abs_sub_iff (magnitude_strictMono hij)]
      linarith [middle_le_of_lt hij]
    · exact le_refl _
    · have hle := hbelow (i - 1) (by omega)
      by_contra hlt
      have hless := (abs_sub_le_abs_sub_iff (magnitude_strictMono hji)).1 (not_le.1 hlt).le
      have heq : 2 * q = magnitude j + magnitude i := by
        linarith [le_middle_of_lt hji]
      exact hlt ((abs_sub_eq_abs_sub_iff (magnitude_strictMono hji)).2 heq).ge
  even := by
    intro j hne htie
    apply heven
    rcases Nat.lt_or_gt_of_ne hne with hji | hij
    · have heq := (abs_sub_eq_abs_sub_iff (magnitude_strictMono hji)).1 htie
      refine .inr ⟨i - 1, by omega, ?_⟩
      linarith [le_middle_of_lt hji, hbelow (i - 1) (by omega)]
    · have heq := (abs_sub_eq_abs_sub_iff (magnitude_strictMono hij)).1 htie.symm
      left
      linarith [middle_le_of_lt hij]

theorem index_le (hi : IsNearest p i) (hj : IsNearest q j) (h : p ≤ q) : i ≤ j := by
  by_contra hlt
  have hji : j < i := Nat.lt_of_not_le hlt
  -- both stand in the middle between the two magnitudes, which have even indices, so that
  -- another one is closer
  have hp := hi.ge_of_lt hji
  have hq := hj.le_of_lt hji
  have heq : 2 * p = magnitude j + magnitude i := by linarith
  have heq' : 2 * q = magnitude j + magnitude i := by linarith
  have hi' := hi.even j hji.ne ((abs_sub_eq_abs_sub_iff (magnitude_strictMono hji)).2 heq)
  have hj' :=
    hj.even i hji.ne' ((abs_sub_eq_abs_sub_iff (magnitude_strictMono hji)).2 heq').symm
  have hbetween : j + 1 < i := by omega
  linarith [hi.ge_of_lt hbetween, magnitude_strictMono (Nat.lt_succ_self j)]

theorem unique (hi : IsNearest q i) (hj : IsNearest q j) : i = j :=
  Nat.le_antisymm (hi.index_le hj (le_refl q)) (hj.index_le hi (le_refl q))

theorem between (hp : IsNearest p i) (hr : IsNearest r i) (hpq : p ≤ q) (hqr : q ≤ r) :
    IsNearest q i := by
  apply of_middle (hqr.trans hr.le_middle)
  · rintro j rfl
    exact hp.middle_le.trans hpq
  · rintro (heq | ⟨j, rfl, heq⟩)
    · have hmiddle : r = middle i := le_antisymm hr.le_middle (heq ▸ hqr)
      apply hr.even (i + 1) (Nat.succ_ne_self i)
      symm
      rw [abs_sub_eq_abs_sub_iff (magnitude_strictMono (Nat.lt_succ_self i)), hmiddle, middle]
      ring
    · have hmiddle : p = middle j := le_antisymm (heq ▸ hpq) hp.middle_le
      apply hp.even j (Nat.lt_succ_self j).ne
      rw [abs_sub_eq_abs_sub_iff (magnitude_strictMono (Nat.lt_succ_self j)), hmiddle, middle]
      ring

end IsNearest

theorem isNearest_magnitude (i : Nat) : IsNearest (magnitude i) i := by
  constructor
  · intro j
    rw [sub_self, abs_zero]
    exact abs_nonneg _
  · intro j hne htie
    rw [sub_self, abs_zero, abs_eq_zero, sub_eq_zero] at htie
    exact absurd (magnitude_strictMono.injective htie) hne

theorem units_lt (i : Nat) : units (i + 1) < 2 ^ 52 * (2 ^ scale i + 2 ^ scale (i + 1)) := by
  have hpos : 0 < 2 ^ scale i := Nat.two_pow_pos _
  have hpos' : 0 < 2 ^ scale (i + 1) := Nat.two_pow_pos _
  rw [units_eq, Nat.mul_add]
  by_cases hscale : scale i = scale (i + 1)
  · have hmantissa : i + 1 - scale (i + 1) * 2 ^ 52 < 2 ^ 53 := by
      rw [scale_eq]
      omega
    rw [hscale]
    calc (i + 1 - scale (i + 1) * 2 ^ 52) * 2 ^ scale (i + 1)
      _ < 2 ^ 53 * 2 ^ scale (i + 1) := Nat.mul_lt_mul_of_pos_right hmantissa hpos'
      _ = 2 ^ 52 * 2 ^ scale (i + 1) + 2 ^ 52 * 2 ^ scale (i + 1) := by ring
  · have hmantissa : i + 1 - scale (i + 1) * 2 ^ 52 = 2 ^ 52 := by
      simp only [scale_eq] at hscale ⊢
      omega
    rw [hmantissa]
    exact Nat.lt_add_of_pos_left (Nat.mul_pos (by decide) hpos)

theorem magnitude_succ (i : Nat) :
    magnitude (i + 1) = magnitude i + 2 ^ scale i / unitsPerOne := by
  rw [magnitude, magnitude, units_succ]
  push_cast
  ring

theorem magnitude_lt_gap (i : Nat) :
    magnitude (i + 1) < 2 ^ 53 * (middle (i + 1) - middle i) := by
  have hunits : ((units (i + 1) : Nat) : ℚ) < 2 ^ 52 * (2 ^ scale i + 2 ^ scale (i + 1)) := by
    exact_mod_cast units_lt i
  have hgap :
      2 ^ 53 * (middle (i + 1) - middle i) = 2 ^ 52 * (2 ^ scale i + 2 ^ scale (i + 1)) /
        unitsPerOne := by
    rw [middle, middle, magnitude_succ (i + 1), magnitude_succ i]
    ring
  rw [hgap, magnitude]
  exact div_lt_div_of_pos_right hunits unitsPerOne_cast_pos

theorem floorIndex_bounds (num : Nat) (hden : 0 < den) :
    units (floorIndex (num / den)) * den ≤ num ∧
      num < units (floorIndex (num / den) + 1) * den := by
  constructor
  · exact (Nat.mul_le_mul_right den (units_floorIndex_le _)).trans (Nat.div_mul_le_self num den)
  · rw [← Nat.div_lt_iff_lt_mul hden]
    exact lt_units_floorIndex_succ _

theorem nearest_bounds (num : Nat) (hden : 0 < den) (h : nearest num den = i) :
    2 * num ≤ (units i + units (i + 1)) * den ∧
      (∀ j, i = j + 1 → (units j + units (j + 1)) * den ≤ 2 * num) ∧
      ((2 * num = (units i + units (i + 1)) * den ∨
        ∃ j, i = j + 1 ∧ 2 * num = (units j + units (j + 1)) * den) → i % 2 = 0) := by
  obtain ⟨hlow, hhigh⟩ := floorIndex_bounds num hden
  rw [nearest] at h
  generalize floorIndex (num / den) = f at hlow hhigh h
  have hstep (j : Nat) : units j * den < units (j + 1) * den :=
    Nat.mul_lt_mul_of_pos_right (units_strictMono (Nat.lt_succ_self j)) hden
  have hf := hstep f
  have hf' := hstep (f + 1)
  simp only [Nat.add_mul]
  rcases Nat.lt_trichotomy (2 * num) ((units f + units (f + 1)) * den) with hmiddle |
    hmiddle | hmiddle
  · rw [Nat.compare_eq_lt.2 hmiddle, towards] at h
    subst h
    rw [Nat.add_mul] at hmiddle
    refine ⟨hmiddle.le, ?_, ?_⟩
    · rintro j rfl
      have hj := hstep j
      omega
    · rintro (heq | ⟨j, rfl, heq⟩)
      · omega
      · have hj := hstep j
        omega
  · rw [Nat.compare_eq_eq.2 hmiddle, towards] at h
    rw [Nat.add_mul] at hmiddle
    rcases Nat.mod_two_eq_zero_or_one f with hparity | hparity
    · obtain rfl : f = i := by omega
      refine ⟨hmiddle.le, ?_, fun _ => hparity⟩
      rintro j rfl
      have hj := hstep j
      omega
    · obtain rfl : f + 1 = i := by omega
      refine ⟨by omega, ?_, fun _ => by omega⟩
      intro j hj
      obtain rfl : f = j := by omega
      omega
  · rw [Nat.compare_eq_gt.2 hmiddle, towards] at h
    subst h
    rw [Nat.add_mul] at hmiddle
    refine ⟨by omega, ?_, ?_⟩
    · intro j hj
      obtain rfl : f = j := by omega
      omega
    · rintro (heq | ⟨j, hj, heq⟩)
      · omega
      · obtain rfl : f = j := by omega
        omega

theorem two_mul_ratio (num j : Nat) (hden : 0 < den) :
    middle j - num / den =
      (((units j + units (j + 1)) * den : Nat) - (2 * (num * unitsPerOne) : Nat) : ℚ) /
      (2 * unitsPerOne * den) := by
  have hpos := unitsPerOne_cast_pos
  have hden' : (0 : ℚ) < den := by exact_mod_cast hden
  rw [middle, magnitude, magnitude]
  generalize unitsPerOne = one at hpos ⊢
  push_cast
  field_simp

theorem isNearest_nearest (num : Nat) (hden : 0 < den) :
    IsNearest (num / den) (nearest (num * unitsPerOne) den) := by
  obtain ⟨habove, hbelow, heven⟩ := nearest_bounds (num * unitsPerOne) hden rfl
  have hpos : (0 : ℚ) < 2 * unitsPerOne * den :=
    mul_pos (mul_pos two_pos unitsPerOne_cast_pos) (by exact_mod_cast hden)
  have heq (j : Nat) :
      (num / den : ℚ) = middle j ↔
        2 * (num * unitsPerOne) = (units j + units (j + 1)) * den := by
    rw [eq_comm, ← sub_eq_zero, two_mul_ratio num j hden, div_eq_zero_iff, or_iff_left hpos.ne',
      sub_eq_zero, Nat.cast_inj, eq_comm]
  apply IsNearest.of_middle
  · rw [← sub_nonneg, two_mul_ratio num _ hden]
    exact div_nonneg (sub_nonneg.2 (by exact_mod_cast habove)) hpos.le
  · intro j hj
    rw [← sub_nonpos, two_mul_ratio num _ hden]
    exact div_nonpos_of_nonpos_of_nonneg (sub_nonpos.2 (by exact_mod_cast hbelow j hj)) hpos.le
  · simpa only [heq] using heven

theorem isNearest_iff (num : Nat) (hden : 0 < den) :
    IsNearest (num / den) i ↔ nearest (num * unitsPerOne) den = i :=
  ⟨fun h => (isNearest_nearest num hden).unique h, fun h => h ▸ isNearest_nearest num hden⟩

end PromptChart.Binary64
