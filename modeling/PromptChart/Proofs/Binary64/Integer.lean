import PromptChart.Binary64.Arithmetic
import PromptChart.Json.Number
import PromptChart.Proofs.Binary64.Index

namespace PromptChart.Binary64

theorem units_floorIndex_of_dvd {n : Nat} (h : 2 ^ (n.log2 - 52) ∣ n) :
    units (floorIndex n) = n := by
  rw [units_floorIndex]
  exact Nat.div_mul_cancel h

theorem log2_mul_unitsPerOne_lt {n p : Nat} (h : n < 2 ^ p) :
    (n * unitsPerOne).log2 < p + 1074 := by
  obtain ⟨e, he, hunits⟩ := exists_unitsPerOne
  by_cases hn : n * unitsPerOne = 0
  · rw [hn, Nat.log2_zero]
    omega
  · rw [← he, Nat.log2_lt hn, hunits, Nat.pow_add]
    exact Nat.mul_lt_mul_of_pos_right h (Nat.two_pow_pos e)

theorem le_log2_mul_unitsPerOne {n : Nat} (h : 0 < n) : 1074 ≤ (n * unitsPerOne).log2 := by
  obtain ⟨e, he, hunits⟩ := exists_unitsPerOne
  have hn : n * unitsPerOne ≠ 0 := Nat.mul_ne_zero (Nat.ne_of_gt h)
    (Nat.ne_of_gt unitsPerOne_pos)
  rw [← he, Nat.le_log2 hn, hunits]
  exact Nat.le_mul_of_pos_left _ h

theorem units_floorIndex_mul {n : Nat} (h : n < 2 ^ 53) :
    units (floorIndex (n * unitsPerOne)) = n * unitsPerOne := by
  have hlog := log2_mul_unitsPerOne_lt h
  obtain ⟨e, he, hunits⟩ := exists_unitsPerOne
  apply units_floorIndex_of_dvd
  have hpow : 2 ^ ((n * unitsPerOne).log2 - 52) ∣ unitsPerOne := by
    generalize (n * unitsPerOne).log2 = l at hlog
    rw [hunits]
    exact Nat.pow_dvd_pow 2 (by omega)
  exact Nat.dvd_mul_left_of_dvd hpow n

theorem floorIndex_mul_lt {n : Nat} (h : n < 2 ^ 53) :
    floorIndex (n * unitsPerOne) < 2047 * Nat.pow 2 52 := by
  have hlog := log2_mul_unitsPerOne_lt h
  have hmantissa := mantissa_lt (n * unitsPerOne)
  rw [floorIndex_eq]
  generalize (n * unitsPerOne).log2 = l at hlog hmantissa ⊢
  generalize n * unitsPerOne / 2 ^ (l - 52) = m at hmantissa ⊢
  rw [Nat.pow_eq]
  omega

def indexOf (n : Nat) (h : n < 2 ^ 53) : Fin (2047 * Nat.pow 2 52) :=
  ⟨floorIndex (n * unitsPerOne), floorIndex_mul_lt h⟩

theorem units_indexOf {n : Nat} (h : n < 2 ^ 53) : units (indexOf n h) = n * unitsPerOne :=
  units_floorIndex_mul h

theorem ofIndex_nearest_units (negative : Bool) (i : Fin (2047 * Nat.pow 2 52)) :
    ofIndex negative (nearest (units i) 1) = .finite negative i := by
  rw [nearest_units, ofIndex, dif_pos i.isLt]

theorem ofInt_eq {n : Int} (h : n.natAbs < 2 ^ 53) :
    ofInt n = .finite (n < 0) (indexOf n.natAbs h) := by
  rw [ofInt, ofRatio, ← units_indexOf h, ofIndex_nearest_units]

theorem ofInt_zero : ofInt 0 = ofIndex false 0 := by
  rw [ofInt, ofRatio, Int.natAbs_zero, Nat.zero_mul, nearest_zero Nat.one_pos]
  rfl

theorem signed_natAbs (n : Int) (k : Nat) : signed (n < 0) (n.natAbs * k) = n * k := by
  by_cases hn : n < 0
  · have habs : (n.natAbs : Int) = -n := by omega
    simp only [signed, hn, decide_true, ↓reduceIte, Int.natCast_mul, habs, Int.neg_mul,
      Int.neg_neg]
  · have habs : (n.natAbs : Int) = n := by omega
    simp only [signed, hn, decide_false, Bool.false_eq_true, ↓reduceIte, Int.natCast_mul, habs]

theorem rank_ofInt {n : Int} (h : n.natAbs < 2 ^ 53) :
    (ofInt n).rank = some (n * unitsPerOne) := by
  rw [ofInt_eq h, rank, units_indexOf, signed_natAbs]

theorem ofInt_add {a b : Int} (ha : a.natAbs < 2 ^ 53) (hb : b.natAbs < 2 ^ 53) :
    ofInt a + ofInt b = ofInt (a + b) := by
  have hsum :
      signed (a < 0) (units (indexOf a.natAbs ha)) +
        signed (b < 0) (units (indexOf b.natAbs hb)) =
      (a + b) * unitsPerOne := by
    rw [units_indexOf, units_indexOf, signed_natAbs, signed_natAbs, Int.add_mul]
  have hpos : (0 : Int) < unitsPerOne := by exact_mod_cast unitsPerOne_pos
  change add (ofInt a) (ofInt b) = _
  rw [ofInt_eq ha, ofInt_eq hb, add, hsum]
  by_cases hzero : a + b = 0
  · have hsign : (decide (a < 0) && decide (b < 0)) = false := by
      rw [Bool.and_eq_false_iff, decide_eq_false_iff_not, decide_eq_false_iff_not]
      omega
    rw [hzero, Int.zero_mul, if_pos rfl, hsign, ofInt_zero]
  · have hne : (a + b) * (unitsPerOne : Int) ≠ 0 := Int.mul_ne_zero hzero (Int.ne_of_gt hpos)
    have hneg : ((a + b) * (unitsPerOne : Int) < 0) ↔ a + b < 0 := by
      constructor
      · intro hlt
        by_contra hge
        exact absurd (Int.mul_nonneg (Int.not_lt.1 hge) (Int.le_of_lt hpos)) (Int.not_le.2 hlt)
      · intro hlt
        exact Int.mul_neg_of_neg_of_pos hlt hpos
    rw [if_neg hne, ofInt, ofRatio, Int.natAbs_mul, Int.natAbs_natCast]
    simp only [hneg]

theorem lt_ofInt {a b : Int} (ha : a.natAbs < 2 ^ 53) (hb : b.natAbs < 2 ^ 53) :
    (ofInt a).lt (ofInt b) = decide (a < b) := by
  have hpos : (0 : Int) < unitsPerOne := by exact_mod_cast unitsPerOne_pos
  rw [lt, rank_ofInt ha, rank_ofInt hb]
  simp only [Int.mul_lt_mul_right hpos]

theorem ofInt?_of_isFinite {n : Int} (h : (ofInt n).isFinite = true) :
    ofInt? n = .ok (ofInt n) := by
  simp only [ofInt?, h, ↓reduceIte]

theorem ofInt?_of_not_isFinite {n : Int} (h : (ofInt n).isFinite = false) :
    ofInt? n = .error .tooLarge := by
  simp only [ofInt?, h, Bool.false_eq_true, ↓reduceIte]

theorem eq_ofInt_of_ofInt? {n : Int} {x : Binary64} (h : ofInt? n = .ok x) : x = ofInt n := by
  cases hfinite : (ofInt n).isFinite with
  | true => exact (Except.ok.inj ((ofInt?_of_isFinite hfinite).symm.trans h)).symm
  | false =>
    rw [ofInt?_of_not_isFinite hfinite] at h
    cases h

theorem isFinite_ofInt {n : Int} (h : n.natAbs < 2 ^ 53) : (ofInt n).isFinite = true := by
  rw [ofInt_eq h]
  rfl

theorem ofInt?_eq_ok {n : Int} (h : n.natAbs < 2 ^ 53) : ofInt? n = .ok (ofInt n) :=
  ofInt?_of_isFinite (isFinite_ofInt h)

end PromptChart.Binary64
