import PromptChart.Proofs.Decimal.Shortest

namespace PromptChart

namespace Decimal

open Binary64 (units unitsPerOne infinityIndex IsNearest magnitude)

/-- So many cents are nearest to a rational that is not negative; a tie goes away from zero. -/
structure InCents (q : ℚ) (n : Nat) : Prop where
  closest : ∀ m : Int, |(n / 100 : ℚ) - q| ≤ |m / 100 - q|
  away : ∀ m : Int, |(m / 100 : ℚ) - q| = |n / 100 - q| → m ≤ n

def precision : Nat := 28

def cents? (d : Decimal) : Option Nat := if d.cents < 10 ^ precision then some d.cents else none

variable {d : Decimal} {i j n : Nat} {q : ℚ}

theorem InCents.unique {m : Nat} (hm : InCents q m) (hn : InCents q n) : m = n := by
  have htie : |(m / 100 : ℚ) - q| = |n / 100 - q| := le_antisymm (hm.closest n) (hn.closest m)
  exact Nat.le_antisymm (Int.ofNat_le.1 (hn.away m htie)) (Int.ofNat_le.1 (hm.away n htie.symm))

theorem cents_bounds (d : Decimal) :
    (d.cents : ℚ) ≤ 100 * d.toRat + 1 / 2 ∧ 100 * d.toRat + 1 / 2 < d.cents + 1 := by
  have hden : (0 : ℚ) < d.den := by exact_mod_cast d.den_pos
  have hpos : 0 < 2 * d.den := Nat.mul_pos (by decide) d.den_pos
  have hlow : d.cents * (2 * d.den) ≤ 2 * (d.num * 100) + d.den := Nat.div_mul_le_self _ _
  have hhigh : 2 * (d.num * 100) + d.den < (d.cents + 1) * (2 * d.den) := by
    rw [Nat.mul_comm (d.cents + 1)]
    exact Nat.lt_mul_div_succ (2 * (d.num * 100) + d.den) hpos
  have hvalue : 100 * d.toRat + 1 / 2 = (2 * (d.num * 100) + d.den) / (2 * d.den) := by
    rw [toRat_eq]
    field_simp
  rw [hvalue, le_div_iff₀ (by positivity), div_lt_iff₀ (by positivity)]
  constructor
  · exact_mod_cast hlow
  · exact_mod_cast hhigh

theorem inCents_cents (d : Decimal) : InCents d.toRat d.cents := by
  obtain ⟨hlow, hhigh⟩ := cents_bounds d
  have hhalf : |(d.cents / 100 : ℚ) - d.toRat| ≤ 1 / 200 := abs_le.2 ⟨by linarith, by linarith⟩
  have habove {m : Int} (hm : d.cents < m) : 1 / 200 < |(m / 100 : ℚ) - d.toRat| := by
    have hstep : (d.cents + 1 : ℚ) ≤ m := by exact_mod_cast hm
    exact lt_abs.2 (.inl (by linarith))
  have hbelow {m : Int} (hm : m < d.cents) : 1 / 200 ≤ |(m / 100 : ℚ) - d.toRat| := by
    have hstep : (m + 1 : ℚ) ≤ d.cents := by exact_mod_cast hm
    exact le_abs.2 (.inr (by linarith))
  constructor
  · intro m
    rcases lt_trichotomy m d.cents with hm | rfl | hm
    · exact hhalf.trans (hbelow hm)
    · exact le_refl _
    · exact hhalf.trans (habove hm).le
  · intro m htie
    by_contra hm
    exact absurd (htie ▸ habove (not_le.1 hm)) (not_lt.2 hhalf)

theorem inCents_iff (d : Decimal) (n : Nat) : InCents d.toRat n ↔ n = d.cents :=
  ⟨fun h => h.unique (inCents_cents d), fun h => h ▸ inCents_cents d⟩

theorem cents_of_toRat (h : d.toRat = n / 100) : d.cents = n := by
  obtain ⟨hlow, hhigh⟩ := cents_bounds d
  rw [h] at hlow hhigh
  have hle : (d.cents : ℚ) < n + 1 := by linarith
  have hge : (n : ℚ) < d.cents + 1 := by linarith
  have hle' : d.cents < n + 1 := by exact_mod_cast hle
  have hge' : n < d.cents + 1 := by exact_mod_cast hge
  omega

theorem hundredth_le_magnitude :
    (10 : ℚ) ^ (-2 : Int) ≤ magnitude (Binary64.nearest unitsPerOne 100) := by
  have hunits : unitsPerOne ≤ units (Binary64.nearest unitsPerOne 100) * 100 := by
    decide +kernel
  have hpos := Binary64.unitsPerOne_cast_pos
  rw [magnitude]
  generalize units (Binary64.nearest unitsPerOne 100) = u at hunits ⊢
  generalize unitsPerOne = one at hunits hpos ⊢
  have hcast : (one : ℚ) ≤ u * 100 := by exact_mod_cast hunits
  have hcent : (10 : ℚ) ^ (-2 : Int) = 1 / 100 := by norm_num
  rw [hcent, div_le_div_iff₀ (by norm_num) hpos, one_mul]
  exact hcast

/-- What is nearest to a number of cents has a shortest decimal without digits behind these. -/
theorem exists_toRat_shortest (hj : j < infinityIndex) (h : IsNearest (n / 100) j) :
    ∃ m : Nat, (shortest j).toRat = m / 100 := by
  by_cases hzero : j = 0
  · subst hzero
    exact ⟨0, by rw [shortest, if_pos rfl, toRat, Nat.cast_zero, zero_mul, zero_div]⟩
  obtain ⟨k, m, d, hfirst, hshortest⟩ := exists_isFirst hj hzero
  have hcent : (10 : ℚ) ^ (-2 : Int) ≤ magnitude j := by
    have hn : 1 ≤ n := by
      by_contra hn
      obtain rfl : n = 0 := by omega
      rw [Nat.cast_zero, zero_div, ← Binary64.magnitude_zero] at h
      exact hzero (h.unique (Binary64.isNearest_magnitude 0))
    have hone : IsNearest (1 / 100) (Binary64.nearest unitsPerOne 100) := by
      have hone := Binary64.isNearest_nearest 1 (show 0 < 100 by decide)
      rwa [Nat.one_mul, Nat.cast_one, Nat.cast_ofNat] at hone
    have hle : (1 / 100 : ℚ) ≤ n / 100 := div_le_div_of_nonneg_right (by exact_mod_cast hn)
      (by norm_num)
    exact hundredth_le_magnitude.trans
      (Binary64.magnitude_strictMono.monotone (hone.index_le h hle))
  have hexponent : -2 ≤ k - m := by
    -- a finer grid would not be the first one
    by_contra hfine
    have hk :=
      (zpow_lt_zpow_iff_right₀ (by norm_num : (1 : ℚ) < 10)).1 (hcent.trans_lt hfirst.high)
    obtain ⟨m', hm'⟩ := Int.eq_ofNat_of_zero_le (show 0 ≤ k + 2 by omega)
    have hgrid : (n * 10 ^ (k - m') : ℚ) = n / 100 := by
      have hcents : k - m' = -2 := by omega
      rw [hcents]
      norm_num [div_eq_mul_inv]
    exact hfirst.coarser m' (by omega) (by omega) n (hgrid ▸ h)
  obtain ⟨e, he⟩ := Int.eq_ofNat_of_zero_le (show 0 ≤ k - m + 2 by omega)
  refine ⟨d.digits * 10 ^ e, ?_⟩
  have hsplit : k - m = e + -2 := by omega
  rw [hshortest, toRat_strip, toRat, hfirst.isCandidate.exponent, hsplit,
    zpow_add₀ (by norm_num), zpow_natCast]
  push_cast
  norm_num [div_eq_mul_inv, mul_assoc]

end Decimal

namespace Binary64

open Decimal (IsShortest InCents shortest)

/-- A chart value; without one if the shortest decimal has too many digits in cents. -/
def roundCents? : Binary64 → Option Binary64
  | .finite s i =>
    if units i < centLimit * unitsPerOne then (shortest i).cents?.map fun n => ofRatio s n 100
    else some (.finite s i)
  | x => some x

/-- What chart values are: numbers that are too large for cents stay as they are, and the others
go to the number that is nearest to their shortest decimal in cents. The sign goes through, the
order is kept, and chart values are their own. -/
structure IsCentProjection (f : Binary64 → Binary64) : Prop where
  nan : f .nan = .nan
  infinite : ∀ s, f (.infinite s) = .infinite s
  large : ∀ s (i : Fin (2047 * Nat.pow 2 52)),
      centLimit ≤ magnitude i → f (.finite s i) = .finite s i
  nearest : ∀ s (i : Fin (2047 * Nat.pow 2 52)), magnitude i < centLimit → ∃ d, IsShortest i d ∧
    (∀ d', IsShortest i d' → d'.toRat = d.toRat) ∧
    ∃ n, (∀ m, InCents d.toRat m ↔ m = n) ∧
      ∃ j : Fin (2047 * Nat.pow 2 52), IsNearest (n / 100) j ∧ f (.finite s i) = .finite s j
  odd : ∀ x, f (-x) = -f x
  mono : ∀ x y, x.le y = true → (f x).le (f y) = true
  idem : ∀ x, f (f x) = f x

variable {i j n : Nat} {s : Bool} {x : Binary64}

theorem magnitude_lt_centLimit_iff :
    magnitude i < centLimit ↔ units i < centLimit * unitsPerOne := by
  have hpos := unitsPerOne_cast_pos
  rw [magnitude]
  generalize unitsPerOne = one at hpos ⊢
  rw [div_lt_iff₀ hpos]
  norm_cast

/-- The cents of a magnitude below the limit have at most as many digits as those of the
limit. -/
theorem cents?_shortest (h : units i < centLimit * unitsPerOne) :
    (shortest i).cents? = some (shortest i).cents := by
  obtain ⟨l, -, hl, -⟩ := exists_limitIndex
  rw [← hl, units_strictMono.lt_iff_lt] at h
  have hle := Decimal.cents_shortest_mono h.le
  rw [Decimal.cents_shortest hl (by decide)] at hle
  exact if_pos (hle.trans_lt (by decide))

theorem roundCents?_eq (x : Binary64) : roundCents? x = some (roundCents x) := by
  cases x with
  | nan => rfl
  | infinite s => rfl
  | finite s i =>
    rw [roundCents?, roundCents]
    split
    next h => rw [cents?_shortest h, Option.map_some]
    next => rfl

theorem centsIndex_of_lt (h : units i < centLimit * unitsPerOne) :
    centsIndex i < infinityIndex ∧ IsNearest ((shortest i).cents / 100) (centsIndex i) := by
  constructor
  · obtain ⟨l, hlt, hl, -⟩ := exists_limitIndex
    have hmono := centsIndex_mono (units_strictMono.lt_iff_lt.1 (hl ▸ h)).le
    rw [centsIndex.eq_1 l, hl, if_neg (Nat.lt_irrefl _)] at hmono
    exact hmono.trans_lt hlt
  · rw [centsIndex, if_pos h]
    have hnear := isNearest_nearest (shortest i).cents (show 0 < 100 by decide)
    rwa [Nat.cast_ofNat] at hnear

theorem centsIndex_of_not_lt (h : ¬ units i < centLimit * unitsPerOne) : centsIndex i = i :=
  if_neg h

theorem centsIndex_of_isNearest (hj : j < infinityIndex) (h : IsNearest (n / 100) j) :
    centsIndex j = j := by
  obtain ⟨m, hm⟩ := Decimal.exists_toRat_shortest hj h
  have hnear := (Decimal.isShortest_shortest hj).nearest
  rw [hm, ← Nat.cast_ofNat, isNearest_iff m (by decide)] at hnear
  rw [centsIndex]
  split
  · rw [Decimal.cents_of_toRat hm, hnear]
  · rfl

theorem centsIndex_centsIndex (i : Nat) : centsIndex (centsIndex i) = centsIndex i := by
  by_cases h : units i < centLimit * unitsPerOne
  · obtain ⟨hlt, hnear⟩ := centsIndex_of_lt h
    exact centsIndex_of_isNearest hlt hnear
  · rw [centsIndex_of_not_lt h, centsIndex_of_not_lt h]

theorem neg_ofIndex (s : Bool) (i : Nat) : -ofIndex s i = ofIndex (!s) i := by
  rw [ofIndex, ofIndex]
  split <;> rfl

theorem roundCents_neg (x : Binary64) : roundCents (-x) = -roundCents x := by
  by_cases hx : x = .nan
  · rw [hx]
    rfl
  · obtain ⟨s, i, hi, rfl⟩ := exists_ofIndex hx
    rw [neg_ofIndex, roundCents_ofIndex _ hi, roundCents_ofIndex _ hi, neg_ofIndex]

theorem roundCents_roundCents (x : Binary64) : roundCents (roundCents x) = roundCents x := by
  by_cases hx : x = .nan
  · rw [hx]
    rfl
  · obtain ⟨s, i, hi, rfl⟩ := exists_ofIndex hx
    have hi' : centsIndex i ≤ infinityIndex := centsIndex_infinityIndex ▸ centsIndex_mono hi
    rw [roundCents_ofIndex s hi, roundCents_ofIndex s hi', centsIndex_centsIndex]

/-- Rounding to cents never fails, and it is a projection. -/
theorem isCentProjection_roundCents :
    (∀ x, roundCents? x = some (roundCents x)) ∧ IsCentProjection roundCents := by
  refine ⟨roundCents?_eq, ?_⟩
  constructor
  · rfl
  · exact fun s => rfl
  · intro s i h
    have hunits := magnitude_lt_centLimit_iff.not.1 (not_lt.2 h)
    rw [← ofIndex_of_lt s i.isLt, roundCents_ofIndex s i.isLt.le, centsIndex_of_not_lt hunits]
  · intro s i h
    have hunits := magnitude_lt_centLimit_iff.1 h
    obtain ⟨hlt, hnear⟩ := centsIndex_of_lt hunits
    have hround : roundCents (.finite s i) = ofIndex s (centsIndex i) := by
      rw [← ofIndex_of_lt s i.isLt, roundCents_ofIndex s i.isLt.le]
    generalize centsIndex i = j at hlt hnear hround
    rw [ofIndex_of_lt s hlt] at hround
    exact ⟨shortest i, Decimal.isShortest_shortest i.isLt, fun d' hd => hd.toRat_eq i.isLt,
      (shortest i).cents, Decimal.inCents_iff (shortest i), ⟨j, hlt⟩, hnear, hround⟩
  · exact roundCents_neg
  · exact fun x y => roundCents_le
  · exact roundCents_roundCents

/-- A half in the shortest decimal is one, although the number lies below it. -/
example : roundCents (ofDecimal false ⟨2675, -3⟩) = ofDecimal false ⟨268, -2⟩ := by
  decide +kernel

end Binary64

end PromptChart
