import PromptChart.Proofs.Arithmetic.Rational
import PromptChart.Proofs.Binary64.Rank

namespace PromptChart

namespace Decimal

open Binary64 (units unitsPerOne nearest)

variable {d d' : Decimal} {i j : Nat}

theorem den_pos (d : Decimal) : 0 < d.den := Nat.pow_pos (by decide)

theorem roundHalfUp_mono {num den num' den' : Nat} (hden : 0 < den) (hden' : 0 < den')
    (h : num * den' ≤ num' * den) : roundHalfUp num den ≤ roundHalfUp num' den' := by
  have hpos : 0 < 2 * den := Nat.mul_pos (by decide) hden
  have hpos' : 0 < 2 * den' := Nat.mul_pos (by decide) hden'
  rw [roundHalfUp, roundHalfUp, Nat.le_div_iff_mul_le hpos']
  apply Nat.le_of_mul_le_mul_right _ hpos
  calc (2 * num + den) / (2 * den) * (2 * den') * (2 * den)
    _ = (2 * num + den) / (2 * den) * (2 * den) * (2 * den') := Nat.mul_right_comm _ _ _
    _ ≤ (2 * num + den) * (2 * den') := Nat.mul_le_mul_right _ (Nat.div_mul_le_self _ _)
    _ = 4 * (num * den') + 2 * (den * den') := by ring
    _ ≤ 4 * (num' * den) + 2 * (den * den') := Nat.add_le_add_right (Nat.mul_le_mul_left 4 h) _
    _ = (2 * num' + den') * (2 * den) := by ring

theorem readsBack_congr (h : d.num * d'.den = d'.num * d.den) (i : Nat) :
    readsBack i d = readsBack i d' := by
  have hnearest :
      nearest (d.num * unitsPerOne) d.den = nearest (d'.num * unitsPerOne) d'.den := by
    apply Binary64.nearest_congr d.den_pos d'.den_pos
    rw [Nat.mul_right_comm, h, Nat.mul_right_comm]
  rw [readsBack, readsBack, hnearest]

theorem num_mul_den_shift (n : Nat) (e : Int) :
    num ⟨n * 10, e⟩ * den ⟨n, e + 1⟩ = num ⟨n, e + 1⟩ * den ⟨n * 10, e⟩ := by
  simp only [num, den, Nat.pow_eq]
  by_cases he : 0 ≤ e
  · have hup : (e + 1).toNat = e.toNat + 1 := by omega
    have hzero : (-e).toNat = 0 := by omega
    have hzero' : (-(e + 1)).toNat = 0 := by omega
    rw [hup, hzero, hzero']
    ring
  · have hdown : (-e).toNat = (-(e + 1)).toNat + 1 := by omega
    have hzero : e.toNat = 0 := by omega
    have hzero' : (e + 1).toNat = 0 := by omega
    rw [hdown, hzero, hzero']
    ring

theorem readsBack_strip (fuel : Nat) (d : Decimal) (i : Nat) :
    readsBack i (d.strip fuel) = readsBack i d := by
  induction fuel generalizing d with
  | zero => rfl
  | succ fuel ih =>
    rw [strip]
    split
    next hd =>
      have hdigits : d.digits = d.digits / 10 * 10 := by omega
      have hshift := num_mul_den_shift (d.digits / 10) d.exponent
      rw [← hdigits] at hshift
      rw [ih]
      exact (readsBack_congr hshift i).symm
    · rfl

theorem readsBack_exact (i : Nat) : readsBack i (exact i) = true := by
  obtain ⟨e, he, hunits⟩ := Binary64.exists_unitsPerOne
  have hnum : (exact i).num = units i * 5 ^ e := by
    rw [num, exact, ← he]
    exact Nat.mul_one _
  have hexponent : (-(exact i).exponent).toNat = e := by
    rw [he]
    rfl
  have hden : (exact i).den = 10 ^ e := by rw [den, hexponent, Nat.pow_eq]
  have hratio : units i * 5 ^ e * 2 ^ e = units i * 10 ^ e := by
    rw [Nat.mul_assoc, ← Nat.mul_pow]
  rw [readsBack, hnum, hden, hunits, hratio,
    Binary64.nearest_units_mul i (Nat.pow_pos (by decide)), beq_self_eq_true]

theorem readsBack_shortest (i : Nat) : readsBack i (shortest i) = true := by
  rw [shortest]
  split
  next hi =>
    have hzero := readsBack_self (i := i) (n := 0)
      (by rw [hi, Binary64.units_zero, Nat.zero_mul])
    exact hzero
  · dsimp only
    rw [readsBack_strip]
    cases hfound : (List.range' 1 17).findSome? fun n : Nat =>
      candidate? i (leading (units i) - n) with
    | none =>
      rw [Option.getD_none]
      exact readsBack_exact i
    | some d =>
      obtain ⟨n, -, hd⟩ := List.exists_of_findSome?_eq_some hfound
      rw [Option.getD_some]
      exact (readsBack_of_candidate? hd).1

theorem lt_of_readsBack (hd : readsBack i d = true) (hd' : readsBack j d' = true) (h : i < j) :
    d.num * d'.den < d'.num * d.den := by
  rw [readsBack, beq_iff_eq] at hd hd'
  by_contra hle
  have hmono : nearest (d'.num * unitsPerOne) d'.den ≤ nearest (d.num * unitsPerOne) d.den := by
    apply Binary64.nearest_mono d'.den_pos d.den_pos
    rw [Nat.mul_right_comm, Nat.mul_right_comm d.num]
    exact Nat.mul_le_mul_right _ (Nat.not_lt.1 hle)
  rw [hd, hd'] at hmono
  exact absurd h (Nat.not_lt.2 hmono)

theorem cents_shortest_mono (h : i ≤ j) : (shortest i).cents ≤ (shortest j).cents := by
  rcases h.eq_or_lt with rfl | hlt
  · exact Nat.le_refl _
  · apply roundHalfUp_mono (den_pos _) (den_pos _)
    rw [Nat.mul_right_comm, Nat.mul_right_comm (shortest j).num]
    exact Nat.mul_le_mul_right 100
      (lt_of_readsBack (readsBack_shortest i) (readsBack_shortest j) hlt).le

end Decimal

namespace Binary64

variable {a b x : Binary64} {i j : Nat}

theorem ofIndex_of_lt (s : Bool) (h : i < infinityIndex) : ofIndex s i = .finite s ⟨i, h⟩ :=
  dif_pos h

theorem ofIndex_of_le (s : Bool) (h : infinityIndex ≤ i) : ofIndex s i = .infinite s :=
  dif_neg (Nat.not_lt.2 h)

theorem exists_ofIndex (h : a ≠ .nan) : ∃ s i, i ≤ infinityIndex ∧ a = ofIndex s i := by
  cases a with
  | nan => exact absurd rfl h
  | infinite s =>
    exact ⟨s, infinityIndex, Nat.le_refl _, (ofIndex_of_le s (Nat.le_refl _)).symm⟩
  | finite s i => exact ⟨s, i, i.isLt.le, (ofIndex_of_lt s i.isLt).symm⟩

theorem rank_ofIndex (s : Bool) (i : Nat) :
    (ofIndex s i).rank = some (signed s (units (min i infinityIndex))) := by
  rcases Nat.lt_or_ge i infinityIndex with h | h
  · rw [ofIndex_of_lt s h, Nat.min_eq_left h.le, rank]
  · rw [ofIndex_of_le s h, Nat.min_eq_right h, rank]

theorem le_of_rank {m n : Int} (ha : a.rank = some m) (hb : b.rank = some n) :
    a.le b = decide (m ≤ n) := by
  rw [le, ha, hb]

theorem signed_mono {f : Nat → Nat} (hf : Monotone f) (hzero : f 0 = 0) {s t : Bool}
    (h : signed s (units i) ≤ signed t (units j)) :
    signed s (units (f i)) ≤ signed t (units (f j)) := by
  have hunits {m n : Nat} : units m ≤ units n ↔ m ≤ n := units_strictMono.le_iff_le
  cases s with
  | false =>
    cases t with
    | false =>
      simp only [signed, Bool.false_eq_true, ↓reduceIte, Int.ofNat_le, hunits] at h ⊢
      exact hf h
    | true =>
      have hi : units i = units 0 := by
        simp only [signed, Bool.false_eq_true, ↓reduceIte, units_zero] at h ⊢
        omega
      have hj : units j = units 0 := by
        simp only [signed, Bool.false_eq_true, ↓reduceIte, units_zero] at h ⊢
        omega
      rw [units_strictMono.injective hi, units_strictMono.injective hj, hzero, units_zero]
      decide
  | true =>
    cases t with
    | false =>
      simp only [signed, Bool.false_eq_true, ↓reduceIte]
      omega
    | true =>
      simp only [signed, ↓reduceIte, Int.neg_le_neg_iff, Int.ofNat_le, hunits] at h ⊢
      exact hf h

def centsIndex (i : Nat) : Nat :=
  if units i < centLimit * unitsPerOne then
    nearest ((Decimal.shortest i).cents * unitsPerOne) 100
  else i

theorem exists_limitIndex : ∃ l < infinityIndex, units l = centLimit * unitsPerOne ∧
    nearest ((Decimal.shortest l).cents * unitsPerOne) 100 = l := by
  have hlimit : centLimit < 2 ^ 50 := by decide
  have hunits : units (indexOf centLimit (hlimit.trans (by decide))) =
      centLimit * unitsPerOne := units_indexOf _
  refine ⟨_, (indexOf centLimit (hlimit.trans (by decide))).isLt, hunits, ?_⟩
  rw [Decimal.cents_shortest hunits hlimit, Nat.mul_right_comm, ← hunits,
    nearest_units_mul _ (by decide)]

theorem centsIndex_mono : Monotone centsIndex := by
  intro i j h
  obtain ⟨l, -, hl, hnearest⟩ := exists_limitIndex
  have hcents {m n : Nat} (h : m ≤ n) : nearest ((Decimal.shortest m).cents * unitsPerOne) 100 ≤
      nearest ((Decimal.shortest n).cents * unitsPerOne) 100 := by
    apply nearest_mono (by decide) (by decide)
    exact Nat.mul_le_mul_right _ (Nat.mul_le_mul_right _ (Decimal.cents_shortest_mono h))
  rw [centsIndex, centsIndex]
  simp only [← hl, units_strictMono.lt_iff_lt]
  by_cases hj : j < l
  · rw [if_pos hj, if_pos (h.trans_lt hj)]
    exact hcents h
  · rw [if_neg hj]
    split
    next hi =>
      calc nearest ((Decimal.shortest i).cents * unitsPerOne) 100
        _ ≤ nearest ((Decimal.shortest l).cents * unitsPerOne) 100 := hcents hi.le
        _ = l := hnearest
        _ ≤ j := Nat.not_lt.1 hj
    · exact h

theorem centsIndex_zero : centsIndex 0 = 0 := by
  have hpos : units 0 < centLimit * unitsPerOne := by
    rw [units_zero]
    exact Nat.mul_pos (by decide) unitsPerOne_pos
  rw [centsIndex, if_pos hpos,
    Decimal.cents_shortest (n := 0) (by rw [units_zero, Nat.zero_mul]) (by decide),
    Nat.zero_mul, nearest_zero (by decide)]

theorem centsIndex_infinityIndex : centsIndex infinityIndex = infinityIndex := by
  obtain ⟨l, hl, hunits, -⟩ := exists_limitIndex
  rw [centsIndex, ← hunits, if_neg (Nat.not_lt.2 (units_strictMono hl).le)]

theorem roundCents_ofIndex (s : Bool) (h : i ≤ infinityIndex) :
    roundCents (ofIndex s i) = ofIndex s (centsIndex i) := by
  rcases h.eq_or_lt with rfl | hlt
  · rw [centsIndex_infinityIndex, ofIndex_of_le s (Nat.le_refl _)]
    rfl
  · rw [ofIndex_of_lt s hlt, roundCents, centsIndex]
    split
    · rfl
    · exact (ofIndex_of_lt s hlt).symm

theorem roundCents_le (h : a.le b = true) : (roundCents a).le (roundCents b) = true := by
  have hranked : ∃ m n, a.rank = some m ∧ b.rank = some n := by
    rw [le] at h
    split at h
    next m n hm hn => exact ⟨m, n, hm, hn⟩
    · cases h
  have hcents {k : Nat} (hk : k ≤ infinityIndex) : centsIndex k ≤ infinityIndex :=
    centsIndex_infinityIndex ▸ centsIndex_mono hk
  obtain ⟨m, n, hm, hn⟩ := hranked
  obtain ⟨s, i, hi, rfl⟩ := exists_ofIndex (a := a) (by rintro rfl; cases hm)
  obtain ⟨t, j, hj, rfl⟩ := exists_ofIndex (a := b) (by rintro rfl; cases hn)
  rw [le_of_rank (rank_ofIndex s i) (rank_ofIndex t j), decide_eq_true_eq, Nat.min_eq_left hi,
    Nat.min_eq_left hj] at h
  rw [roundCents_ofIndex s hi, roundCents_ofIndex t hj,
    le_of_rank (rank_ofIndex s _) (rank_ofIndex t _), decide_eq_true_eq,
    Nat.min_eq_left (hcents hi), Nat.min_eq_left (hcents hj)]
  exact signed_mono centsIndex_mono centsIndex_zero h

def ofRat (q : ℚ) : Binary64 := ofRatio (q < 0) q.num.natAbs q.den

theorem exists_rank_ofRat (q : ℚ) : ∃ n, (ofRat q).rank = some n := exists_rank_ofIndex _ _

variable {p q : ℚ} {n : Int}

theorem rank_ofRat (h : x.rank = some n) : (ofRat (n / unitsPerOne)).rank = some n := by
  obtain ⟨s, i, hi, rfl⟩ := exists_ofIndex (a := x) (by rintro rfl; cases h)
  have hunits : n.natAbs = units i := by
    rw [rank_ofIndex, Nat.min_eq_left hi] at h
    rw [← Option.some.inj h]
    cases s <;> simp [signed]
  have hpos : (0 : ℚ) < unitsPerOne := by exact_mod_cast unitsPerOne_pos
  generalize hq : (n / unitsPerOne : ℚ) = q
  have hnum : q.num * unitsPerOne = n * q.den := by
    have hexact : (q.num * unitsPerOne : ℚ) = n * q.den := by
      rw [← Rat.mul_den_eq_num, ← hq, mul_right_comm, div_mul_cancel₀ _ hpos.ne']
    exact_mod_cast hexact
  have hratio : q.num.natAbs * unitsPerOne * 1 = units i * q.den := by
    have habs := congrArg Int.natAbs hnum
    rwa [Int.natAbs_mul, Int.natAbs_mul, Int.natAbs_natCast, Int.natAbs_natCast, hunits,
      ← Nat.mul_one (_ * _)] at habs
  have hsign : q < 0 ↔ n < 0 := by
    rw [← hq, div_lt_iff₀ hpos, zero_mul, Int.cast_lt_zero]
  have hsigned := signed_natAbs n 1
  rw [ofRat, ofRatio, nearest_congr q.pos Nat.one_pos hratio, nearest_units, rank_ofIndex,
    Nat.min_eq_left hi, ← hunits]
  rw [Nat.mul_one, Int.natCast_one, Int.mul_one] at hsigned
  simp only [hsign, hsigned]

theorem ofRat_le (h : p ≤ q) : (ofRat p).le (ofRat q) = true := by
  have hcross := (Rat.le_iff p q).1 h
  have hcap {i j : Nat} (hij : i ≤ j) :
      units (min i infinityIndex) ≤ units (min j infinityIndex) :=
    units_strictMono.monotone (min_le_min_right _ hij)
  have hnearest {a b : ℚ} (hab : a.num.natAbs * b.den ≤ b.num.natAbs * a.den) :
      nearest (a.num.natAbs * unitsPerOne) a.den ≤
        nearest (b.num.natAbs * unitsPerOne) b.den := by
    apply nearest_mono a.pos b.pos
    rw [Nat.mul_right_comm, Nat.mul_right_comm b.num.natAbs]
    exact Nat.mul_le_mul_right _ hab
  rw [ofRat, ofRat, ofRatio, ofRatio, le_of_rank (rank_ofIndex _ _) (rank_ofIndex _ _),
    decide_eq_true_eq]
  rcases lt_or_ge q 0 with hq | hq
  · have hp : p < 0 := h.trans_lt hq
    have hnum := Rat.num_neg.2 hp
    have hnum' := Rat.num_neg.2 hq
    simp only [signed, decide_eq_true hp, decide_eq_true hq, ↓reduceIte, Int.neg_le_neg_iff,
      Int.ofNat_le]
    apply hcap (hnearest _)
    zify
    rw [abs_of_neg hnum, abs_of_neg hnum', Int.neg_mul, Int.neg_mul]
    exact Int.neg_le_neg hcross
  · rcases lt_or_ge p 0 with hp | hp
    · simp only [signed, decide_eq_true hp, decide_eq_false (not_lt.2 hq), ↓reduceIte,
        Bool.false_eq_true]
      omega
    · have hnum := Rat.num_nonneg.2 hp
      have hnum' := Rat.num_nonneg.2 hq
      simp only [signed, decide_eq_false (not_lt.2 hp), decide_eq_false (not_lt.2 hq),
        ↓reduceIte, Bool.false_eq_true, Int.ofNat_le]
      apply hcap (hnearest _)
      zify
      rwa [abs_of_nonneg hnum, abs_of_nonneg hnum']

theorem le_ofRat (h : x.rank = some n) (hq : n / unitsPerOne ≤ q) : x.le (ofRat q) = true := by
  obtain ⟨m, hm⟩ := exists_rank_ofRat q
  have hle := ofRat_le hq
  rw [le_of_rank (rank_ofRat h) hm] at hle
  rwa [le_of_rank h hm]

theorem ofRat_le_of_rank (h : x.rank = some n) (hq : q ≤ n / unitsPerOne) :
    (ofRat q).le x = true := by
  obtain ⟨m, hm⟩ := exists_rank_ofRat q
  have hle := ofRat_le hq
  rw [le_of_rank hm (rank_ofRat h)] at hle
  rwa [le_of_rank hm h]

open Decimal (readsBack)

variable {num den m n i : Nat} {d : Decimal}

theorem units_infinityIndex : units infinityIndex = 2 ^ 1024 * unitsPerOne := by
  obtain ⟨e, he, hunits⟩ := exists_unitsPerOne
  have hscale : scale infinityIndex = 2046 := by decide
  have hmantissa : infinityIndex - 2046 * 2 ^ 52 = 2 ^ 52 := by decide
  have hexponent : 52 + 2046 = 1024 + e := by omega
  rw [units_eq, hscale, hmantissa, hunits, ← Nat.pow_add, ← Nat.pow_add, hexponent]

theorem infinityIndex_le_nearest (h : 2 ^ 1024 ≤ n) :
    infinityIndex ≤ nearest (n * unitsPerOne) 1 := by
  rw [← nearest_units infinityIndex, units_infinityIndex]
  apply nearest_mono Nat.one_pos Nat.one_pos
  simpa only [Nat.mul_one] using Nat.mul_le_mul_right unitsPerOne h

theorem nearest_eq_zero (hden : 0 < den) (h : 2 * num ≤ den) : nearest num den = 0 := by
  have hhalf : nearest 1 2 = 0 := by decide
  apply Nat.le_zero.1
  rw [← hhalf]
  exact nearest_mono hden Nat.two_pos (by omega)

/-- A power that is no greater than another one stays so wherever the exponents keep their
ratio. -/
theorem pow_le_pow_of_ratio {a b p q : Nat} (hp : p ≠ 0) (hb : 0 < b) (hbase : a ^ p ≤ b ^ q)
    (h : q * m ≤ p * n) :
    a ^ m ≤ b ^ n := by
  apply (Nat.pow_le_pow_iff_left hp).1
  calc (a ^ m) ^ p
    _ = (a ^ p) ^ m := Nat.pow_right_comm a m p
    _ ≤ (b ^ q) ^ m := Nat.pow_le_pow_left hbase m
    _ = b ^ (q * m) := (Nat.pow_mul ..).symm
    _ ≤ b ^ (p * n) := Nat.pow_le_pow_right hb h
    _ = (b ^ n) ^ p := by rw [Nat.mul_comm, Nat.pow_mul]

theorem two_pow_le_ten_pow (h : 146 * m ≤ 485 * n) : 2 ^ m ≤ 10 ^ n :=
  pow_le_pow_of_ratio (by decide) (by decide) (by decide +kernel) h

theorem infinityIndex_le_of_large (hdigits : d.digits ≠ 0) (h : 310 ≤ d.exponent)
    (hback : readsBack i d = true) :
    infinityIndex ≤ i := by
  have hlarge : 2 ^ 1024 ≤ d.num := by
    calc 2 ^ 1024
      _ ≤ 10 ^ d.exponent.toNat := two_pow_le_ten_pow (by omega)
      _ ≤ d.num := Nat.le_mul_of_pos_left _ (Nat.pos_of_ne_zero hdigits)
  rw [readsBack, Decimal.den_of_nonneg (by omega), beq_iff_eq] at hback
  exact hback ▸ infinityIndex_le_nearest hlarge

theorem eq_zero_of_small (h : d.exponent + d.digits.log2 + 1 < -330)
    (hback : readsBack i d = true) : i = 0 := by
  obtain ⟨e, he, hunits⟩ := exists_unitsPerOne
  have hnum : d.num = d.digits := by
    have hexponent : d.exponent.toNat = 0 := by omega
    rw [Decimal.num, hexponent, Nat.pow_eq, Nat.pow_zero, Nat.mul_one]
  have hsmall : 2 * (d.num * unitsPerOne) ≤ d.den := by
    calc 2 * (d.num * unitsPerOne)
      _ ≤ 2 * (2 ^ (d.digits.log2 + 1) * 2 ^ e) := by
        rw [hnum, hunits]
        exact Nat.mul_le_mul_left 2 (Nat.mul_le_mul_right _ Nat.lt_log2_self.le)
      _ = 2 ^ (d.digits.log2 + 1 + e + 1) := by rw [← Nat.pow_add, Nat.pow_succ, Nat.mul_comm]
      _ ≤ 10 ^ (-d.exponent).toNat := two_pow_le_ten_pow (by omega)
  rw [readsBack, nearest_eq_zero d.den_pos hsmall, beq_iff_eq] at hback
  exact hback.symm

theorem ofDecimal_of_readsBack (s : Bool) {i : Fin (2047 * Nat.pow 2 52)}
    (h : readsBack i d = true) :
    ofDecimal s d = .finite s i := by
  have hzero (hi : i.val = 0) : ofIndex s 0 = .finite s i := hi ▸ ofIndex_of_lt s i.isLt
  rw [ofDecimal]
  split
  next hdigits =>
    apply hzero
    rw [readsBack, Decimal.num, hdigits, Nat.zero_mul, Nat.zero_mul, nearest_zero d.den_pos,
      beq_iff_eq] at h
    exact h.symm
  next hdigits =>
    split
    next hlarge =>
      exact absurd (infinityIndex_le_of_large hdigits hlarge h) (Nat.not_le.2 i.isLt)
    next =>
      split
      next hsmall => exact hzero (eq_zero_of_small hsmall h)
      next =>
        rw [readsBack, beq_iff_eq] at h
        rw [ofRatio, h]
        exact ofIndex_of_lt s i.isLt

end Binary64

end PromptChart
