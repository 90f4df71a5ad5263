import PromptChart.Proofs.Binary64.Nearest

namespace PromptChart

namespace Decimal

open Binary64 (units unitsPerOne infinityIndex IsNearest magnitude)

variable {a b p q l m n u : Nat} {d : Decimal} {e g k s : Int}

theorem ten_pow_le_two_pow (h : 2136 * m ≤ 643 * n) : 10 ^ m ≤ 2 ^ n :=
  Binary64.pow_le_pow_of_ratio (by decide) (by decide) (by decide +kernel) h

theorem ten_zpow_le_two_zpow (h : 2136 * k ≤ 643 * s) (h' : 485 * k ≤ 146 * s) :
    (10 : ℚ) ^ k ≤ 2 ^ s := by
  rcases Int.le_total 0 s with hs | hs
  · obtain ⟨n, rfl⟩ := Int.eq_ofNat_of_zero_le hs
    calc (10 : ℚ) ^ k
      _ ≤ 10 ^ (k.toNat : Int) := zpow_le_zpow_right₀ (by norm_num) (Int.self_le_toNat k)
      _ = 10 ^ k.toNat := zpow_natCast _ _
      _ ≤ 2 ^ n := by exact_mod_cast ten_pow_le_two_pow (m := k.toNat) (by omega)
      _ = 2 ^ (n : Int) := (zpow_natCast _ _).symm
  · obtain ⟨m, rfl⟩ : ∃ m : Nat, k = -m := ⟨(-k).toNat, by omega⟩
    obtain ⟨n, rfl⟩ : ∃ n : Nat, s = -n := ⟨(-s).toNat, by omega⟩
    rw [zpow_neg, zpow_neg, zpow_natCast, zpow_natCast,
      inv_le_inv₀ (by positivity) (by positivity)]
    exact_mod_cast Binary64.two_pow_le_ten_pow (m := n) (by omega)

theorem two_zpow_le_ten_zpow (h : 643 * s ≤ 2136 * k) (h' : 146 * s ≤ 485 * k) :
    (2 : ℚ) ^ s ≤ 10 ^ k := by
  have hinv := ten_zpow_le_two_zpow (k := -k) (s := -s) (by omega) (by omega)
  rwa [zpow_neg, zpow_neg,
    inv_le_inv₀ (zpow_pos (by norm_num) k) (zpow_pos (by norm_num) s)] at hinv

theorem zpow_eq_div (e : Int) :
    (10 : ℚ) ^ e = (10 ^ e.toNat : Nat) / (10 ^ (-e).toNat : Nat) := by
  rcases Int.le_total 0 e with he | he
  · have hzero : (-e).toNat = 0 := by omega
    have hexponent : e = e.toNat := by omega
    rw [hzero, Nat.pow_zero, Nat.cast_one, div_one, Nat.cast_pow, ← zpow_natCast, ← hexponent,
      Nat.cast_ofNat]
  · have hzero : e.toNat = 0 := by omega
    have hexponent : e = -((-e).toNat : Int) := by omega
    rw [hzero, Nat.pow_zero, Nat.cast_one, one_div, Nat.cast_pow, ← zpow_natCast, ← zpow_neg,
      ← hexponent, Nat.cast_ofNat]

theorem belowPower_iff : belowPower u k = true ↔ (u / unitsPerOne : ℚ) < 10 ^ k := by
  have hpos : (0 : ℚ) < unitsPerOne := by exact_mod_cast Binary64.unitsPerOne_pos
  have hden : (0 : ℚ) < (10 ^ (-k).toNat : Nat) := by positivity
  rw [belowPower, decide_eq_true_eq, Nat.pow_eq, Nat.pow_eq, zpow_eq_div]
  generalize unitsPerOne = one at hpos ⊢
  rw [div_lt_div_iff₀ hpos hden]
  norm_cast

theorem log2_bounds (hu : 0 < u) : (2 : ℚ) ^ ((u.log2 : Int) - 1074) ≤ u / unitsPerOne ∧
    (u / unitsPerOne : ℚ) < 2 ^ ((u.log2 : Int) - 1074 + 1) := by
  obtain ⟨e, he, hunits⟩ := Binary64.exists_unitsPerOne
  have hpos : (0 : ℚ) < 2 ^ e := by positivity
  have hlow := Nat.log2_self_le hu.ne'
  have hhigh := Nat.lt_log2_self (n := u)
  have hone : (1074 : Int) = e := by omega
  rw [hunits, hone, sub_add_eq_add_sub, zpow_sub₀ two_ne_zero, zpow_sub₀ two_ne_zero,
    Nat.cast_pow, Nat.cast_ofNat, zpow_natCast, zpow_natCast, div_le_div_iff_of_pos_right hpos,
    div_lt_div_iff_of_pos_right hpos]
  constructor
  · exact_mod_cast hlow
  · exact_mod_cast hhigh

theorem leading_spec (hu : 0 < u) (hmax : u.log2 < 2098) :
    (10 : ℚ) ^ (leading u - 1) ≤ u / unitsPerOne ∧ (u / unitsPerOne : ℚ) < 10 ^ leading u := by
  obtain ⟨hlow, hhigh⟩ := log2_bounds hu
  rw [leading]
  generalize hs : (u.log2 : Int) - 1074 = s at hlow hhigh
  have hestimate := Int.mul_ediv_add_emod (s * 30103) 100000
  generalize s * 30103 / 100000 = k at hestimate ⊢
  split
  next hbelow =>
    refine ⟨?_, belowPower_iff.1 hbelow⟩
    rw [add_sub_cancel_right]
    exact (ten_zpow_le_two_zpow (by omega) (by omega)).trans hlow
  next hbelow =>
    rw [belowPower_iff, not_lt] at hbelow
    refine ⟨?_, hhigh.trans_le (two_zpow_le_ten_zpow (by omega) (by omega))⟩
    have hexponent : k + 2 - 1 = k + 1 := by ring
    rwa [hexponent]

def toRat (d : Decimal) : ℚ := d.digits * 10 ^ d.exponent

theorem toRat_eq (d : Decimal) : d.toRat = d.num / d.den := by
  rw [toRat, num, den, Nat.pow_eq, Nat.pow_eq, zpow_eq_div, Nat.cast_mul, mul_div_assoc]

theorem readsBack_iff {i : Nat} : readsBack i d = true ↔ IsNearest d.toRat i := by
  rw [readsBack, beq_iff_eq, toRat_eq, Binary64.isNearest_iff d.num d.den_pos]

/-- A magnitude stands between its two neighbours on a grid, and its place against the middle
between them is known. -/
structure IsBetween (x : ℚ) (g : Int) (low : Nat) (half : Ordering) : Prop where
  below : low * 10 ^ g ≤ x
  above : x < (low + 1 : Nat) * 10 ^ g
  lt : half = .lt → 2 * x < low * 10 ^ g + (low + 1 : Nat) * 10 ^ g
  eq : half = .eq → 2 * x = low * 10 ^ g + (low + 1 : Nat) * 10 ^ g
  gt : half = .gt → low * 10 ^ g + (low + 1 : Nat) * 10 ^ g < 2 * x

theorem isBetween_onGrid (u : Nat) (g : Int) :
    IsBetween (u / unitsPerOne) g (onGrid u g).1 (onGrid u g).2 := by
  have hone : 0 < unitsPerOne := Binary64.unitsPerOne_pos
  rw [onGrid]
  simp only [Nat.pow_eq]
  generalize unitsPerOne = one at hone ⊢
  have hup : 0 < 10 ^ g.toNat := Nat.pow_pos (by decide)
  have hdown : 0 < 10 ^ (-g).toNat := Nat.pow_pos (by decide)
  have hgrid := zpow_eq_div g
  generalize 10 ^ g.toNat = up at hup hgrid ⊢
  generalize 10 ^ (-g).toNat = down at hdown hgrid ⊢
  -- in terms of naturals, the magnitude is so many steps and a rest that is less than one of
  -- them
  have hsplit := Nat.div_add_mod (u * down) (one * up)
  have hrest := Nat.mod_lt (u * down) (Nat.mul_pos hone hup)
  generalize u * down / (one * up) = low at hsplit ⊢
  generalize u * down % (one * up) = rest at hsplit hrest ⊢
  have hpos : (0 : ℚ) < down * one := by exact_mod_cast Nat.mul_pos hdown hone
  have hvalue : (u / one : ℚ) = low * 10 ^ g + rest / (down * one) := by
    have hcast : ((one * up * low + rest : Nat) : ℚ) = (u * down : Nat) := by rw [hsplit]
    push_cast at hcast
    rw [hgrid]
    field_simp
    linarith
  have hstep : (10 : ℚ) ^ g = (one * up : Nat) / (down * one) := by
    rw [hgrid]
    push_cast
    field_simp
  have hless : (rest / (down * one) : ℚ) < 10 ^ g := by
    rw [hstep, div_lt_div_iff_of_pos_right hpos]
    exact_mod_cast hrest
  have hhalf : (2 * (rest / (down * one)) : ℚ) = (2 * rest : Nat) / (down * one) := by
    push_cast
    ring
  have hnext : ((low + 1 : Nat) : ℚ) * 10 ^ g = low * 10 ^ g + 10 ^ g := by
    push_cast
    ring
  rw [hvalue]
  constructor
  · exact le_add_of_nonneg_right (div_nonneg rest.cast_nonneg hpos.le)
  · linarith
  · intro h
    have hlt : (2 * (rest / (down * one)) : ℚ) < 10 ^ g := by
      rw [hhalf, hstep, div_lt_div_iff_of_pos_right hpos]
      exact_mod_cast Nat.compare_eq_lt.1 h
    linarith
  · intro h
    have heq : (2 * (rest / (down * one)) : ℚ) = 10 ^ g := by
      rw [hhalf, hstep, Nat.compare_eq_eq.1 h]
    linarith
  · intro h
    have hgt : (10 : ℚ) ^ g < 2 * (rest / (down * one)) := by
      rw [hhalf, hstep, div_lt_div_iff_of_pos_right hpos]
      exact_mod_cast Nat.compare_eq_gt.1 h
    linarith

theorem nearer?_eq_none {low : Nat} {half : Ordering} {below above : Bool}
    (h : nearer? low g half below above = none) :
    below = false ∧ above = false := by
  cases below <;> cases above <;> cases half <;> first | exact ⟨rfl, rfl⟩ | cases h

/-- A decimal of a grid that stands for a magnitude, and that is not further from it than any
other that does; in a tie it is even. -/
structure IsCandidate (i : Nat) (g : Int) (d : Decimal) : Prop where
  exponent : d.exponent = g
  nearest : IsNearest d.toRat i
  within : d.toRat ≤ magnitude i + 10 ^ g
  closest :
      ∀ n : Nat, IsNearest (n * 10 ^ g) i → |d.toRat - magnitude i| ≤ |n * 10 ^ g - magnitude i|
  even : ∀ n : Nat, IsNearest (n * 10 ^ g) i → n ≠ d.digits →
    |n * 10 ^ g - magnitude i| = |d.toRat - magnitude i| → d.digits % 2 = 0

theorem grid_strictMono (g : Int) : StrictMono fun n : Nat => (n * 10 ^ g : ℚ) := by
  intro m n h
  exact mul_lt_mul_of_pos_right (by exact_mod_cast h) (zpow_pos (by norm_num) g)

theorem grid_le (g : Int) (h : m ≤ n) : (m * 10 ^ g : ℚ) ≤ n * 10 ^ g :=
  (grid_strictMono g).monotone h

namespace IsBetween

variable {i low : Nat} {half : Ordering} {x : ℚ}

theorem abs_below (h : IsBetween x g low half) (hn : n ≤ low) : |n * 10 ^ g - x|
    = x - n * 10 ^ g := by
  rw [abs_of_nonpos (sub_nonpos.2 ((grid_le g hn).trans h.below)), neg_sub]

theorem abs_above (h : IsBetween x g low half) (hn : low + 1 ≤ n) : |n * 10 ^ g - x|
    = n * 10 ^ g - x :=
  abs_of_nonneg (sub_nonneg.2 (h.above.le.trans (grid_le g hn)))

theorem nearest_below (h : IsBetween (magnitude i) g low half) (hn : IsNearest (n * 10 ^ g) i)
    (hle : n ≤ low) :
    IsNearest (low * 10 ^ g) i :=
  hn.between (Binary64.isNearest_magnitude i) (grid_le g hle) h.below

theorem nearest_above (h : IsBetween (magnitude i) g low half) (hn : IsNearest (n * 10 ^ g) i)
    (hle : low + 1 ≤ n) :
    IsNearest ((low + 1 : Nat) * 10 ^ g) i :=
  (Binary64.isNearest_magnitude i).between hn h.above.le (grid_le g hle)

theorem isCandidate_below (h : IsBetween (magnitude i) g low half)
    (hlow : IsNearest (low * 10 ^ g) i)
    (hhalf : IsNearest ((low + 1 : Nat) * 10 ^ g) i → half = .lt ∨ half = .eq ∧ low % 2 = 0) :
    IsCandidate i g ⟨low, g⟩ where
  exponent := rfl
  nearest := hlow
  within := h.below.trans (le_add_of_nonneg_right (zpow_pos (by norm_num) g).le)
  closest := by
    intro n hn
    rw [toRat, h.abs_below (Nat.le_refl low)]
    rcases Nat.lt_or_ge low n with hlt | hle
    · rw [h.abs_above hlt]
      have hnext := grid_le g hlt
      rcases hhalf (h.nearest_above hn hlt) with hhalf | ⟨hhalf, -⟩
      · linarith [h.lt hhalf]
      · linarith [h.eq hhalf]
    · rw [h.abs_below hle]
      exact sub_le_sub_left (grid_le g hle) _
  even := by
    intro n hn hne htie
    rw [toRat, h.abs_below (Nat.le_refl low)] at htie
    rcases Nat.lt_or_ge low n with hlt | hle
    · rw [h.abs_above hlt] at htie
      have hnext := grid_le g hlt
      rcases hhalf (h.nearest_above hn hlt) with hhalf | ⟨-, heven⟩
      · linarith [h.lt hhalf]
      · exact heven
    · rw [h.abs_below hle, sub_right_inj] at htie
      exact absurd ((grid_strictMono g).injective htie) hne

theorem isCandidate_above (h : IsBetween (magnitude i) g low half)
    (hlow : IsNearest ((low + 1 : Nat) * 10 ^ g) i)
    (hhalf : IsNearest (low * 10 ^ g) i → half = .gt ∨ half = .eq ∧ (low + 1) % 2 = 0) :
    IsCandidate i g ⟨low + 1, g⟩ where
  exponent := rfl
  nearest := hlow
  within := by
    rw [toRat, Nat.cast_add_one, add_one_mul]
    exact add_le_add_left h.below _
  closest := by
    intro n hn
    rw [toRat, h.abs_above (Nat.le_refl (low + 1))]
    rcases Nat.lt_or_ge low n with hlt | hle
    · rw [h.abs_above hlt]
      exact sub_le_sub_right (grid_le g hlt) _
    · rw [h.abs_below hle]
      have hbefore := grid_le g hle
      rcases hhalf (h.nearest_below hn hle) with hhalf | ⟨hhalf, -⟩
      · linarith [h.gt hhalf]
      · linarith [h.eq hhalf]
  even := by
    intro n hn hne htie
    rw [toRat, h.abs_above (Nat.le_refl (low + 1))] at htie
    rcases Nat.lt_or_ge low n with hlt | hle
    · rw [h.abs_above hlt, sub_left_inj] at htie
      exact absurd ((grid_strictMono g).injective htie) hne
    · rw [h.abs_below hle] at htie
      have hbefore := grid_le g hle
      rcases hhalf (h.nearest_below hn hle) with hhalf | ⟨-, heven⟩
      · linarith [h.gt hhalf]
      · exact heven

end IsBetween

variable {i : Nat}

theorem exists_candidate?_eq (i : Nat) (g : Int) :
    ∃ low half, IsBetween (magnitude i) g low half ∧
      candidate? i g = nearer? low g half (readsBack i ⟨low, g⟩) (readsBack i ⟨low + 1, g⟩) :=
  ⟨_, _, isBetween_onGrid (units i) g, rfl⟩

theorem isCandidate_of_candidate? (h : candidate? i g = some d) : IsCandidate i g d := by
  obtain ⟨low, half, hbetween, hcandidate⟩ := exists_candidate?_eq i g
  obtain ⟨rfl, hback, hhalf⟩ | ⟨rfl, hback, hhalf⟩ := nearer?_eq_some (hcandidate.symm.trans h)
  · exact hbetween.isCandidate_below (readsBack_iff.1 hback)
      fun habove => hhalf (readsBack_iff.2 habove)
  · exact hbetween.isCandidate_above (readsBack_iff.1 hback)
      fun hbelow => hhalf (readsBack_iff.2 hbelow)

theorem exists_between_of_candidate? (h : candidate? i g = none) :
    ∃ low half, IsBetween (magnitude i) g low half ∧
      ¬ IsNearest (low * 10 ^ g) i ∧ ¬ IsNearest ((low + 1 : Nat) * 10 ^ g) i := by
  obtain ⟨low, half, hbetween, hcandidate⟩ := exists_candidate?_eq i g
  obtain ⟨hbelow, habove⟩ := nearer?_eq_none (hcandidate.symm.trans h)
  refine ⟨low, half, hbetween, fun hnear => ?_, fun hnear => ?_⟩
  · exact ne_true_of_eq_false hbelow (readsBack_iff.2 hnear)
  · exact ne_true_of_eq_false habove (readsBack_iff.2 hnear)

theorem not_isNearest_of_candidate? (h : candidate? i g = none) (n : Nat) :
    ¬ IsNearest (n * 10 ^ g) i := by
  intro hn
  obtain ⟨low, half, hbetween, hbelow, habove⟩ := exists_between_of_candidate? h
  rcases Nat.lt_or_ge low n with hlt | hle
  · exact habove (hbetween.nearest_above hn hlt)
  · exact hbelow (hbetween.nearest_below hn hle)

end Decimal

end PromptChart
