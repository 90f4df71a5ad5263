import Mathlib.Data.Nat.Digits.Lemmas
import Mathlib.Data.Nat.Prime.Basic
import PromptChart.Proofs.Decimal.Grid

namespace PromptChart

namespace Decimal

open Binary64 (units unitsPerOne infinityIndex IsNearest magnitude middle)

variable {i m n : Nat} {d d' : Decimal} {g k : Int}

theorem exists_isNearest (d : Decimal) : ∃ i, IsNearest d.toRat i := by
  rw [toRat_eq]
  exact ⟨_, Binary64.isNearest_nearest d.num d.den_pos⟩

theorem gap_le_of_candidate? (h : candidate? (i + 1) g = none) :
    middle (i + 1) - middle i ≤ 10 ^ g := by
  obtain ⟨low, half, hbetween, hbelow, habove⟩ := exists_between_of_candidate? h
  have hself := Binary64.isNearest_magnitude (i + 1)
  obtain ⟨j, hj⟩ := exists_isNearest ⟨low, g⟩
  obtain ⟨l, hl⟩ := exists_isNearest ⟨low + 1, g⟩
  have hjne : j ≠ i + 1 := by
    rintro rfl
    exact hbelow hj
  have hlne : l ≠ i + 1 := by
    rintro rfl
    exact habove hl
  have hji := hj.index_le hself hbetween.below
  have hil := hself.index_le hl hbetween.above.le
  obtain ⟨l, rfl⟩ : ∃ l', l = l' + 1 := ⟨l - 1, by omega⟩
  have hlow := hj.le_middle.trans (Binary64.middle_mono (show j ≤ i by omega))
  have hhigh := (Binary64.middle_mono (show i + 1 ≤ l by omega)).trans hl.middle_le
  rw [toRat] at hlow hhigh
  push_cast at hhigh
  linarith

theorem exists_candidate?_seventeen (hlow : (10 : ℚ) ^ (k - 1) ≤ magnitude (i + 1)) :
    ∃ d, candidate? (i + 1) (k - 17) = some d := by
  rw [← Option.isSome_iff_exists, ← Option.ne_none_iff_isSome]
  intro hnone
  have hgap := gap_le_of_candidate? hnone
  have hless := Binary64.magnitude_lt_gap i
  have hpower : (10 : ℚ) ^ (k - 1) = 10 ^ 16 * 10 ^ (k - 17) := by
    rw [← zpow_natCast, ← zpow_add₀ (by norm_num)]
    congr 1
    ring
  have hpos : (0 : ℚ) < 10 ^ (k - 17) := zpow_pos (by norm_num) _
  nlinarith

def width (d : Decimal) : Nat := (Nat.digits 10 d.digits).length

theorem width_le_iff : d.width ≤ n ↔ d.digits < 10 ^ n := by
  rw [width, Nat.digits_length_le_iff (by decide)]

/-- No decimal with fewer digits stands for the magnitude, none with as few is closer to it, and
in a tie the digits are even. -/
structure IsShortest (i : Nat) (d : Decimal) : Prop where
  nearest : IsNearest d.toRat i
  fewest : ∀ d' : Decimal, IsNearest d'.toRat i → d.width ≤ d'.width
  closest : ∀ d' : Decimal, IsNearest d'.toRat i → d'.width ≤ d.width →
    |d.toRat - magnitude i| ≤ |d'.toRat - magnitude i|
  even : ∀ d' : Decimal, IsNearest d'.toRat i → d'.width ≤ d.width → d'.toRat ≠ d.toRat →
    |d'.toRat - magnitude i| = |d.toRat - magnitude i| → d.digits % 2 = 0

theorem toRat_ten_mul (n : Nat) (e : Int) : toRat ⟨n, e + 1⟩ = toRat ⟨n * 10, e⟩ := by
  rw [toRat, toRat, zpow_add_one₀ (by norm_num)]
  push_cast
  ring

theorem toRat_strip (fuel : Nat) (d : Decimal) : (d.strip fuel).toRat = d.toRat := by
  induction fuel generalizing d with
  | zero => rfl
  | succ fuel ih =>
    rw [strip]
    split
    next hd =>
      have hdigits : d.digits / 10 * 10 = d.digits := by omega
      rw [ih, toRat_ten_mul, hdigits]
    next => rfl

theorem digits_strip_le (fuel : Nat) (d : Decimal) : (d.strip fuel).digits ≤ d.digits := by
  induction fuel generalizing d with
  | zero => exact Nat.le_refl _
  | succ fuel ih =>
    rw [strip]
    split
    · exact (ih _).trans (Nat.div_le_self _ _)
    · exact Nat.le_refl _

theorem strip_of_mod (fuel : Nat) (h : d.digits % 10 ≠ 0) : d.strip fuel = d := by
  cases fuel with
  | zero => rfl
  | succ fuel => rw [strip, if_neg fun hd => h hd.2]

theorem strip_ten_pow {fuel : Nat} (h : n ≤ fuel) (e : Int) :
    (strip ⟨10 ^ n, e⟩ fuel).digits = 1 := by
  induction n generalizing fuel e with
  | zero => rw [Nat.pow_zero, strip_of_mod fuel (show 1 % 10 ≠ 0 by decide)]
  | succ n ih =>
    obtain ⟨fuel, rfl⟩ : ∃ f, fuel = f + 1 := ⟨fuel - 1, by omega⟩
    have hdigits : 10 ^ (n + 1) ≠ 0 ∧ 10 ^ (n + 1) % 10 = 0 :=
      ⟨by positivity, by rw [Nat.pow_succ, Nat.mul_mod_left]⟩
    rw [strip, if_pos hdigits]
    dsimp only
    rw [Nat.pow_succ, Nat.mul_div_cancel _ (by decide)]
    exact ih (by omega) _

theorem width_strip_le {fuel : Nat} (hn : 1 ≤ n) (hfuel : n ≤ fuel) (h : d.digits ≤ 10 ^ n) :
    (d.strip fuel).width ≤ n := by
  rw [width_le_iff]
  rcases h.lt_or_eq with hlt | heq
  · exact (digits_strip_le fuel d).trans_lt hlt
  · have hone := strip_ten_pow hfuel d.exponent
    rw [← heq] at hone
    rw [hone]
    exact Nat.one_lt_pow (by omega) (by decide)

/-- A decimal that stands for a magnitude stands on the grid of its width, or a point of this
grid that is closer to the magnitude does. -/
theorem exists_on_grid (hlow : (10 : ℚ) ^ (k - 1) ≤ magnitude i) (hhigh : magnitude i < 10 ^ k)
    (hm : 1 ≤ m) (hwidth : d.width ≤ m) (hd : IsNearest d.toRat i) :
    ∃ n : Nat, IsNearest (n * 10 ^ (k - m)) i ∧
      ((n * 10 ^ (k - m) : ℚ) = d.toRat ∨ |(n * 10 ^ (k - m) : ℚ) - magnitude i|
        < |d.toRat - magnitude i|) := by
  have hself := Binary64.isNearest_magnitude i
  have hpower (j : Nat) : ((10 ^ j : Nat) : ℚ) * 10 ^ (k - m) = 10 ^ (k - m + j) := by
    rw [zpow_add₀ (by norm_num), zpow_natCast, mul_comm]
    push_cast
    rfl
  rcases lt_or_ge d.toRat (10 ^ (k - 1)) with hbefore | hbefore
  · -- the point is the power of ten below the magnitude
    have hpoint : ((10 ^ (m - 1) : Nat) : ℚ) * 10 ^ (k - m) = 10 ^ (k - 1) := by
      rw [hpower]
      congr 1
      omega
    refine ⟨10 ^ (m - 1), ?_, .inr ?_⟩
    · rw [hpoint]
      exact hd.between hself hbefore.le hlow
    · rw [hpoint, abs_of_nonpos (sub_nonpos.2 hlow),
        abs_of_nonpos (sub_nonpos.2 (hbefore.le.trans hlow))]
      linarith
  rcases le_or_gt (10 ^ k) d.toRat with hbehind | hbehind
  · -- the point is the power of ten above the magnitude
    have hpoint : ((10 ^ m : Nat) : ℚ) * 10 ^ (k - m) = 10 ^ k := by
      rw [hpower]
      congr 1
      omega
    refine ⟨10 ^ m, ?_, ?_⟩
    · rw [hpoint]
      exact hself.between hd hhigh.le hbehind
    · rw [hpoint, abs_of_nonneg (sub_nonneg.2 hhigh.le),
        abs_of_nonneg (sub_nonneg.2 (hhigh.le.trans hbehind))]
      exact hbehind.eq_or_lt.imp id fun hlt => sub_lt_sub_right hlt _
  · have hexponent : k - m ≤ d.exponent := by
      have hdigits : (d.digits : ℚ) < 10 ^ (m : Int) := by
        rw [zpow_natCast]
        exact_mod_cast width_le_iff.1 hwidth
      have hless : (10 : ℚ) ^ (k - 1) < 10 ^ (m + d.exponent) := by
        rw [zpow_add₀ (by norm_num)]
        exact hbefore.trans_lt (mul_lt_mul_of_pos_right hdigits (zpow_pos (by norm_num) _))
      have hless' := (zpow_lt_zpow_iff_right₀ (by norm_num)).1 hless
      omega
    have hpoint :
        ((d.digits * 10 ^ (d.exponent - (k - m)).toNat : Nat) : ℚ) *
          10 ^ (k - m) = d.toRat := by
      have hsplit : d.exponent = (d.exponent - (k - m)).toNat + (k - m) := by omega
      rw [toRat]
      nth_rewrite 2 [hsplit]
      rw [zpow_add₀ (by norm_num), zpow_natCast]
      push_cast
      ring
    exact ⟨_, hpoint ▸ hd, .inl hpoint⟩

theorem digits_ne_zero (hi : i ≠ 0) (hd : IsNearest d.toRat i) : d.digits ≠ 0 := by
  intro hzero
  rw [toRat, hzero, Nat.cast_zero, zero_mul, ← Binary64.magnitude_zero] at hd
  exact hi (hd.unique (Binary64.isNearest_magnitude 0))

/-- No magnitude that ten steps of a grid stand for is halfway between nine and ten of them: so
far apart, it would be one of the least magnitudes, and these are no multiples of a step. -/
theorem not_halfway_nineteen (h : IsNearest (10 * 10 ^ g) i) :
    2 * magnitude i ≠ 19 * 10 ^ g := by
  intro hhalf
  obtain ⟨e, hvalue, hone⟩ := Binary64.exists_unitsPerOne
  have he : 0 < e := by omega
  have hpos := Binary64.unitsPerOne_cast_pos
  have hstep : (10 : ℚ) ^ g * unitsPerOne ≤ 2 ^ Binary64.scale i := by
    have hle := h.le_middle
    rw [middle, Binary64.magnitude_succ] at hle
    rw [← le_div_iff₀ hpos]
    linarith
  have hunits : (2 * units i : ℚ) = 19 * (10 ^ g * unitsPerOne) := by
    rw [magnitude, mul_div_assoc', div_eq_iff hpos.ne'] at hhalf
    linarith
  have hmantissa : 2 * units i ≤ 19 * 2 ^ Binary64.scale i := by
    have hle : (2 * units i : ℚ) ≤ 19 * 2 ^ Binary64.scale i := by linarith
    exact_mod_cast hle
  have hscale : Binary64.scale i = 0 := by
    rw [Binary64.units_eq, ← Nat.mul_assoc] at hmantissa
    have hle := Nat.le_of_mul_le_mul_right hmantissa (Nat.two_pow_pos _)
    rw [Binary64.scale_eq] at hle ⊢
    omega
  rw [hscale, pow_zero] at hstep
  have hnegative : g < 0 := by
    by_contra hge
    have hten : (1 : ℚ) ≤ 10 ^ g := one_le_zpow₀ (by norm_num) (not_lt.1 hge)
    have htwo : (2 : ℚ) ≤ unitsPerOne := by exact_mod_cast hone ▸ Nat.le_self_pow he.ne' 2
    nlinarith
  have hnatural : 2 * units i * 10 ^ (-g).toNat = 19 * 2 ^ e := by
    have hpower : (0 : ℚ) < (10 ^ (-g).toNat : Nat) := by positivity
    have hzero : g.toNat = 0 := by omega
    rw [zpow_eq_div, hzero, Nat.pow_zero, Nat.cast_one, one_div_mul_eq_div, mul_div_assoc',
      eq_div_iff hpower.ne', hone] at hunits
    exact_mod_cast hunits
  have hfive : 5 ∣ 19 * 2 ^ e := by
    rw [← hnatural]
    exact Dvd.dvd.mul_left (dvd_pow (by decide : 5 ∣ 10) (by omega)) _
  rcases (Nat.prime_five.dvd_mul).1 hfive with hdvd | hdvd
  · exact absurd hdvd (by decide)
  · exact absurd (Nat.prime_five.dvd_of_dvd_pow hdvd) (by decide)

/-- A decimal that is a point of a grid leaves no zero out, or has more digits than the
point. -/
theorem dvd_or_width_lt (hn : n ≠ 0) (h : (n * 10 ^ g : ℚ) = d.toRat) :
    d.digits ∣ n ∨ width ⟨n, g⟩ < d.width := by
  have hten {e e' : Int} (he : e ≤ e') :
      ∃ j : Nat, e' = e + j ∧ (10 : ℚ) ^ e' = (10 ^ j : Nat) * 10 ^ e := by
    obtain ⟨j, rfl⟩ := Int.exists_add_of_le he
    refine ⟨j, rfl, ?_⟩
    rw [zpow_add₀ (by norm_num), zpow_natCast, mul_comm]
    push_cast
    rfl
  rw [toRat] at h
  rcases le_or_gt g d.exponent with hcoarse | hfine
  · left
    obtain ⟨j, -, hpower⟩ := hten hcoarse
    rw [hpower, ← mul_assoc] at h
    refine ⟨10 ^ j, ?_⟩
    exact_mod_cast mul_right_cancel₀ (zpow_pos (by norm_num) g).ne' h
  · right
    obtain ⟨j, hj, hpower⟩ := hten hfine.le
    rw [hpower, ← mul_assoc] at h
    have hdigits : n * 10 ^ j = d.digits := by
      exact_mod_cast mul_right_cancel₀ (zpow_pos (by norm_num) d.exponent).ne' h
    rw [width, width, ← hdigits, Nat.mul_comm,
      Nat.digits_base_pow_mul (by decide) (Nat.pos_of_ne_zero hn),
      List.length_append, List.length_replicate]
    exact Nat.lt_add_of_pos_left (by omega)

/-- No other point stands between two points of a grid that are equally far from a magnitude,
and as close to it as any. -/
theorem eq_succ_of_tie (hlt : m < n) (hm : IsNearest (m * 10 ^ g) i)
    (hn : IsNearest (n * 10 ^ g) i)
    (hclosest : ∀ a : Nat,
      IsNearest (a * 10 ^ g) i → |m * 10 ^ g - magnitude i| ≤ |a * 10 ^ g - magnitude i|)
    (htie : |m * 10 ^ g - magnitude i| = |n * 10 ^ g - magnitude i|) : n = m + 1 := by
  have hmiddle := (Binary64.abs_sub_eq_abs_sub_iff (grid_strictMono g hlt)).1 htie
  have hnext := grid_strictMono g (Nat.lt_succ_self m)
  have hstep := hclosest (m + 1) (hm.between hn hnext.le (grid_le g hlt))
  rw [Binary64.abs_sub_le_abs_sub_iff hnext, hmiddle, add_le_add_iff_left] at hstep
  exact Nat.le_antisymm ((grid_strictMono g).le_iff_le.1 hstep) hlt

/-- The candidate on the first grid, from that of the leading digit on, that has one. -/
structure IsFirst (i : Nat) (k : Int) (n : Nat) (d : Decimal) : Prop where
  low : (10 : ℚ) ^ (k - 1) ≤ magnitude i
  high : magnitude i < 10 ^ k
  pos : 1 ≤ n
  le : n ≤ 17
  isCandidate : IsCandidate i (k - n) d
  coarser : ∀ m, 1 ≤ m → m < n → ∀ a : Nat, ¬ IsNearest (a * 10 ^ (k - m)) i

theorem log2_units_lt (hi : i < infinityIndex) : (units i).log2 < 2098 := by
  obtain ⟨e, he, hunits⟩ := Binary64.exists_unitsPerOne
  obtain ⟨p, hp, hlimit⟩ : ∃ p, p = 1024 ∧ units infinityIndex = 2 ^ p * unitsPerOne :=
    ⟨1024, rfl, Binary64.units_infinityIndex⟩
  have hless := Binary64.units_strictMono hi
  rw [hlimit, hunits, ← Nat.pow_add] at hless
  have hexponent : 2098 = p + e := by omega
  by_cases hzero : units i = 0
  · rw [hzero, Nat.log2_zero]
    decide
  · rwa [hexponent, Nat.log2_lt hzero]

theorem exists_isFirst (hi : i < infinityIndex) (hpos : i ≠ 0) :
    ∃ k n d, IsFirst i k n d ∧ shortest i = d.strip 20 := by
  obtain ⟨i, rfl⟩ := Nat.exists_eq_succ_of_ne_zero hpos
  have hunits : 0 < units (i + 1) := by
    rw [← Binary64.units_zero]
    exact Binary64.units_strictMono i.succ_pos
  obtain ⟨hlow, hhigh⟩ := leading_spec hunits (log2_units_lt hi)
  obtain ⟨d, hd⟩ : ∃ d, ((List.range' 1 17).findSome? fun n : Nat =>
      candidate? (i + 1) (leading (units (i + 1)) - n)) = some d := by
    rw [← Option.isSome_iff_exists, List.findSome?_isSome_iff]
    obtain ⟨d, hd⟩ := exists_candidate?_seventeen hlow
    refine ⟨17, by decide, ?_⟩
    exact Option.isSome_iff_exists.2 ⟨d, hd⟩
  obtain ⟨before, n, after, hsplit, hcandidate, hnone⟩ := List.findSome?_eq_some_iff.1 hd
  have hrange : ∀ m ∈ before ++ n :: after, 1 ≤ m ∧ m ≤ 17 := by
    intro m hm
    rw [← hsplit, List.mem_range'_1] at hm
    omega
  obtain ⟨hn, hn'⟩ := hrange n (by simp)
  refine ⟨_, n, d, ⟨hlow, hhigh, hn, hn', isCandidate_of_candidate? hcandidate,
    fun m hm hmn => ?_⟩, ?_⟩
  · apply not_isNearest_of_candidate?
    apply hnone
    have hsorted : (before ++ n :: after).Pairwise (· < ·) := hsplit ▸ List.pairwise_lt_range'
    have hbehind {l : Nat} (hl : l ∈ after) : n < l :=
      List.rel_of_pairwise_cons (List.pairwise_append.1 hsorted).2.1 hl
    have hmem : m ∈ before ++ n :: after := by
      rw [← hsplit, List.mem_range'_1]
      omega
    rcases List.mem_append.1 hmem with hbefore | hmem
    · exact hbefore
    · rcases List.mem_cons.1 hmem with rfl | hafter
      · exact absurd hmn (Nat.lt_irrefl _)
      · exact absurd (hbehind hafter) (Nat.not_lt.2 hmn.le)
  · rw [shortest, if_neg hpos, Nat.succ_eq_add_one]
    dsimp only
    rw [hd, Option.getD_some]

namespace IsFirst

variable {a : Nat}

theorem digits_le (h : IsFirst i k n d) : d.digits ≤ 10 ^ n := by
  have hwithin := h.isCandidate.within
  have hhigh := h.high
  have hpower : (10 : ℚ) ^ k = (10 ^ n : Nat) * 10 ^ (k - n) := by
    push_cast
    rw [← zpow_natCast, ← zpow_add₀ (by norm_num)]
    congr 1
    ring
  rw [toRat, h.isCandidate.exponent] at hwithin
  rw [hpower] at hhigh
  have hpos : (0 : ℚ) < 10 ^ (k - n) := zpow_pos (by norm_num) _
  have hless : (d.digits : ℚ) * 10 ^ (k - n) < (10 ^ n + 1 : Nat) * 10 ^ (k - n) := by
    push_cast at hhigh ⊢
    linarith
  have hdigits : d.digits < 10 ^ n + 1 := by exact_mod_cast lt_of_mul_lt_mul_right hless hpos.le
  omega

theorem width_strip_le (h : IsFirst i k n d) : (d.strip 20).width ≤ n :=
  Decimal.width_strip_le h.pos (h.le.trans (by decide)) h.digits_le

theorem le_width (h : IsFirst i k n d) (hi : i ≠ 0) {d' : Decimal} (hd : IsNearest d'.toRat i) :
    n ≤ d'.width := by
  by_contra hlt
  have hpos : 1 ≤ d'.width := by
    by_contra hzero
    have hdigits : d'.digits < 10 ^ 0 := width_le_iff.1 (by omega)
    exact digits_ne_zero hi hd (Nat.lt_one_iff.1 hdigits)
  obtain ⟨a, ha, -⟩ := exists_on_grid h.low h.high hpos (Nat.le_refl _) hd
  exact h.coarser _ hpos (by omega) a ha

theorem not_closer (h : IsFirst i k n d) {d' : Decimal} (hd : IsNearest d'.toRat i)
    (hwidth : d'.width ≤ n) :
    |d.toRat - magnitude i| ≤ |d'.toRat - magnitude i| := by
  obtain ⟨a, ha, heq | hless⟩ := exists_on_grid h.low h.high h.pos hwidth hd
  · exact heq ▸ h.isCandidate.closest a ha
  · exact (h.isCandidate.closest a ha).trans hless.le

theorem exists_of_tie (h : IsFirst i k n d) {d' : Decimal} (hd : IsNearest d'.toRat i)
    (hwidth : d'.width ≤ n) (htie : |d'.toRat - magnitude i| = |d.toRat - magnitude i|) :
    ∃ a : Nat, IsNearest (a * 10 ^ (k - n)) i ∧ (a * 10 ^ (k - n) : ℚ) = d'.toRat := by
  obtain ⟨a, ha, heq | hless⟩ := exists_on_grid h.low h.high h.pos hwidth hd
  · exact ⟨a, ha, heq⟩
  · exact absurd (h.isCandidate.closest a ha) (not_le.2 (htie ▸ hless))

/-- Only a power of ten has a zero at its end, because it would stand on the grid before. -/
theorem digits_cases (h : IsFirst i k n d) (hi : i ≠ 0) :
    d.digits % 10 ≠ 0 ∨ n = 1 ∧ d.digits = 10 := by
  by_cases hmod : d.digits % 10 = 0
  · right
    have hne := digits_ne_zero hi h.isCandidate.nearest
    have hn := h.pos
    have hle := h.digits_le
    rcases Nat.lt_or_ge 1 n with hlt | hone
    · have hdigits : d.digits / 10 * 10 = d.digits := by omega
      have hgrid : toRat ⟨d.digits / 10, k - (n - 1 : Nat)⟩ = d.toRat := by
        have hexponent : k - (n - 1 : Nat) = d.exponent + 1 := by
          rw [h.isCandidate.exponent]
          omega
        rw [hexponent, toRat_ten_mul, hdigits]
      have hnear := h.isCandidate.nearest
      rw [← hgrid] at hnear
      exact absurd hnear (h.coarser (n - 1) (by omega) (by omega) _)
    · obtain rfl : n = 1 := by omega
      exact ⟨rfl, by omega⟩
  · exact .inl hmod

theorem not_tie_of_ten (h : IsFirst i k 1 d) (hten : d.digits = 10)
    (ha : IsNearest (a * 10 ^ (k - 1)) i) (hne : a ≠ 10) : |a * 10 ^ (k - 1) - magnitude i|
    ≠ |d.toRat - magnitude i| := by
  intro htie
  have hself := Binary64.isNearest_magnitude i
  have hvalue : d.toRat = 10 * 10 ^ (k - 1) := by
    have hexponent := h.isCandidate.exponent
    rw [Nat.cast_one] at hexponent
    rw [toRat, hten, hexponent]
    rfl
  have hwithin := h.isCandidate.within
  have hhigh : magnitude i < 10 * 10 ^ (k - 1) := by
    have hpower : (10 : ℚ) * 10 ^ (k - 1) = 10 ^ k := by
      rw [← zpow_one_add₀ (by norm_num)]
      congr 1
      ring
    exact hpower ▸ h.high
  have hnear := h.isCandidate.nearest
  have hclosest := h.isCandidate.closest 9
  rw [hvalue] at htie hwithin hnear hclosest
  push_cast at hclosest hwithin
  rw [abs_of_nonneg (sub_nonneg.2 hhigh.le)] at htie hclosest
  have hpos : (0 : ℚ) < 10 ^ (k - 1) := zpow_pos (by norm_num) _
  rcases Nat.lt_or_gt_of_ne hne with hless | hmore
  · have hnine : (a * 10 ^ (k - 1) : ℚ) ≤ 9 * 10 ^ (k - 1) :=
      grid_le (k - 1) (show a ≤ 9 by omega)
    have hnine' : 9 * 10 ^ (k - 1) ≤ magnitude i := by linarith
    have hcloser := hclosest (ha.between hself hnine hnine')
    rw [abs_of_nonpos (sub_nonpos.2 hnine')] at hcloser
    rw [abs_of_nonpos (sub_nonpos.2 (hnine.trans hnine'))] at htie
    exact not_halfway_nineteen hnear (by linarith)
  · have hgreater : (10 * 10 ^ (k - 1) : ℚ) < a * 10 ^ (k - 1) := grid_strictMono (k - 1) hmore
    rw [abs_of_nonneg (sub_nonneg.2 (hhigh.le.trans hgreater.le))] at htie
    linarith

theorem isShortest (h : IsFirst i k n d) (hi : i ≠ 0) : IsShortest i (d.strip 20) where
  nearest := by
    rw [toRat_strip]
    exact h.isCandidate.nearest
  fewest := fun d' hd => h.width_strip_le.trans (h.le_width hi hd)
  closest := by
    intro d' hd hwidth
    rw [toRat_strip]
    exact h.not_closer hd (hwidth.trans h.width_strip_le)
  even := by
    intro d' hd hwidth hne htie
    rw [toRat_strip] at hne htie
    obtain ⟨a, ha, hvalue⟩ := h.exists_of_tie hd (hwidth.trans h.width_strip_le) htie
    have hdigits : a ≠ d.digits := by
      rintro rfl
      rw [← hvalue, toRat, h.isCandidate.exponent] at hne
      exact hne rfl
    rw [← hvalue] at htie
    rcases h.digits_cases hi with hmod | ⟨rfl, hten⟩
    · rw [strip_of_mod 20 hmod]
      exact h.isCandidate.even a ha hdigits htie
    · exact absurd htie (h.not_tie_of_ten hten ha (hten ▸ hdigits))

/-- Decimals that are as close and have as few digits are one number: on the grid they would be
neighbours, and both even. -/
theorem toRat_eq (h : IsFirst i k n d) (hi : i ≠ 0) {d' : Decimal} (hd : IsShortest i d') :
    d'.toRat = d.toRat := by
  by_contra hne
  have hshortest := h.isShortest hi
  have hwidth := hd.fewest _ hshortest.nearest
  have hwidth' := hshortest.fewest _ hd.nearest
  have htie : |d'.toRat - magnitude i| = |d.toRat - magnitude i| := by
    rw [← toRat_strip 20 d]
    exact le_antisymm (hd.closest _ hshortest.nearest hwidth')
      (hshortest.closest _ hd.nearest hwidth)
  obtain ⟨a, ha, hvalue⟩ := h.exists_of_tie hd.nearest (hwidth.trans h.width_strip_le) htie
  have hself : (d.digits * 10 ^ (k - n) : ℚ) = d.toRat := by rw [toRat, h.isCandidate.exponent]
  have hdigits : a ≠ d.digits := by
    rintro rfl
    exact hne (hvalue.symm.trans hself)
  rcases h.digits_cases hi with hmod | ⟨rfl, hten⟩
  · have hd_even := h.isCandidate.even a ha hdigits (hvalue ▸ htie)
    have hd'_even := hd.even _ hshortest.nearest hwidth'
      (by rw [toRat_strip]; exact Ne.symm hne) (by rw [toRat_strip]; exact htie.symm)
    have ha_odd : a % 2 = 1 := by
      rcases Nat.lt_or_gt_of_ne hdigits with hless | hmore
      · have hnext := eq_succ_of_tie hless ha (hself ▸ h.isCandidate.nearest)
          (by rw [hvalue, htie]; exact h.isCandidate.closest) (by rw [hvalue, hself, htie])
        omega
      · have hnext := eq_succ_of_tie hmore (hself ▸ h.isCandidate.nearest) ha
          (by rw [hself]; exact h.isCandidate.closest) (by rw [hvalue, hself, htie])
        omega
    rcases dvd_or_width_lt (digits_ne_zero (d := ⟨a, k - n⟩) hi ha) hvalue with hdvd | hlt
    · have ha_even : 2 ∣ a := (Nat.dvd_of_mod_eq_zero hd'_even).trans hdvd
      omega
    · exact absurd (hd.fewest ⟨a, k - n⟩ ha) (Nat.not_le.2 hlt)
  · exact h.not_tie_of_ten hten ha (hten ▸ hdigits) (hvalue ▸ htie)

end IsFirst

theorem isShortest_shortest (hi : i < infinityIndex) : IsShortest i (shortest i) := by
  by_cases hzero : i = 0
  · subst hzero
    have hvalue : (shortest 0).toRat = magnitude 0 := by
      rw [shortest, if_pos rfl, toRat, Binary64.magnitude_zero, Nat.cast_zero, zero_mul]
    refine ⟨hvalue ▸ Binary64.isNearest_magnitude 0, fun d' _ => Nat.zero_le _,
      fun d' _ _ => ?_, fun _ _ _ _ _ => rfl⟩
    rw [hvalue, sub_self, abs_zero]
    exact abs_nonneg _
  · obtain ⟨k, n, d, h, hshortest⟩ := exists_isFirst hi hzero
    rw [hshortest]
    exact h.isShortest hzero

theorem IsShortest.toRat_eq (h : IsShortest i d) (hi : i < infinityIndex) :
    d.toRat = (shortest i).toRat := by
  by_cases hzero : i = 0
  · subst hzero
    have hwidth := h.fewest _ (isShortest_shortest hi).nearest
    have hdigits : d.digits < 10 ^ 0 := width_le_iff.1 hwidth
    rw [shortest, if_pos rfl, toRat, toRat, Nat.lt_one_iff.1 hdigits, Nat.cast_zero, zero_mul,
      zero_mul]
  · obtain ⟨k, n, d', hfirst, hshortest⟩ := exists_isFirst hi hzero
    rw [hshortest, toRat_strip]
    exact hfirst.toRat_eq hzero h

end Decimal

end PromptChart
