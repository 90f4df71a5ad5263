import PromptChart.Decimal.Cents
import PromptChart.Proofs.Binary64.Integer

namespace PromptChart

namespace Decimal

open Binary64 (units unitsPerOne nearest floorIndex)

variable {i n : Nat} {d : Decimal} {g : Int}

theorem den_of_nonneg (h : 0 ≤ d.exponent) : d.den = 1 := by
  have hzero : (-d.exponent).toNat = 0 := by omega
  rw [den, hzero, Nat.pow_eq, Nat.pow_zero]

theorem strip_num (fuel : Nat) (h : 0 ≤ d.exponent) :
    (d.strip fuel).num = d.num ∧ 0 ≤ (d.strip fuel).exponent := by
  induction fuel generalizing d with
  | zero => exact ⟨rfl, h⟩
  | succ fuel ih =>
    by_cases hd : d.digits ≠ 0 ∧ d.digits % 10 = 0
    · have hexponent : (d.exponent + 1).toNat = d.exponent.toNat + 1 := by omega
      have hdigits : d.digits / 10 * 10 = d.digits := by omega
      have hnum : (⟨d.digits / 10, d.exponent + 1⟩ : Decimal).num = d.num := by
        simp only [num, hexponent, Nat.pow_eq, Nat.pow_succ]
        rw [Nat.mul_comm (10 ^ _) 10, ← Nat.mul_assoc, hdigits]
      rw [strip, if_pos hd, ← hnum]
      apply ih
      change 0 ≤ d.exponent + 1
      omega
    · rw [strip, if_neg hd]
      exact ⟨rfl, h⟩

theorem num_eq_of_readsBack (hi : units i = n * unitsPerOne) (hn : n < 2 ^ 52)
    (hd : 0 ≤ d.exponent) (h : readsBack i d = true) : d.num = n := by
  have hback : nearest (d.num * unitsPerOne) 1 = i := by
    rw [readsBack, den_of_nonneg hd, beq_iff_eq] at h
    exact h
  have hle : floorIndex (d.num * unitsPerOne) ≤ i := by
    have hfloor := Binary64.floorIndex_le_nearest (d.num * unitsPerOne) 1
    rwa [hback, Nat.div_one] at hfloor
  by_cases hnum : d.num < 2 ^ 52
  · rw [← Binary64.units_floorIndex_mul (Nat.lt_trans hnum (by decide)),
      Binary64.nearest_units] at hback
    rw [← hback, Binary64.units_floorIndex_mul (Nat.lt_trans hnum (by decide))] at hi
    exact Nat.eq_of_mul_eq_mul_right Binary64.unitsPerOne_pos hi
  · have hfloor : floorIndex (2 ^ 52 * unitsPerOne) ≤ i :=
      Nat.le_trans (Binary64.floorIndex_mono (Nat.mul_le_mul_right _ (Nat.not_lt.1 hnum))) hle
    rw [← Binary64.units_strictMono.le_iff_le, hi,
      Binary64.units_floorIndex_mul (by decide)] at hfloor
    exact absurd (Nat.le_of_mul_le_mul_right hfloor Binary64.unitsPerOne_pos) (Nat.not_le.2 hn)

theorem readsBack_self (hi : units i = n * unitsPerOne) : readsBack i ⟨n, 0⟩ = true := by
  have hnum : (⟨n, 0⟩ : Decimal).num = n := Nat.mul_one n
  rw [readsBack, den_of_nonneg (Int.le_refl 0), hnum, ← hi, Binary64.nearest_units,
    beq_self_eq_true]

theorem nearer?_eq_some {low : Nat} {half : Ordering} {below above : Bool}
    (h : nearer? low g half below above = some d) :
    (d = ⟨low, g⟩ ∧ below = true ∧ (above = true → half = .lt ∨ half = .eq ∧ low % 2 = 0)) ∨
      (d = ⟨low + 1, g⟩ ∧
        above = true ∧ (below = true → half = .gt ∨ half = .eq ∧ (low + 1) % 2 = 0)) := by
  cases below with
  | false =>
    cases above with
    | false => cases h
    | true => exact .inr ⟨(Option.some.inj h).symm, rfl, nofun⟩
  | true =>
    cases above with
    | false => exact .inl ⟨(Option.some.inj h).symm, rfl, nofun⟩
    | true =>
      cases half with
      | lt => exact .inl ⟨(Option.some.inj h).symm, rfl, fun _ => .inl rfl⟩
      | gt => exact .inr ⟨(Option.some.inj h).symm, rfl, fun _ => .inl rfl⟩
      | eq =>
        by_cases hlow : low % 2 = 0
        · simp only [nearer?, if_pos hlow] at h
          exact .inl ⟨(Option.some.inj h).symm, rfl, fun _ => .inr ⟨rfl, hlow⟩⟩
        · simp only [nearer?, if_neg hlow] at h
          exact .inr ⟨(Option.some.inj h).symm, rfl, fun _ => .inr ⟨rfl, by omega⟩⟩

theorem readsBack_of_candidate? (h : candidate? i g = some d) :
    readsBack i d = true ∧ d.exponent = g := by
  unfold candidate? at h
  generalize onGrid (units i) g = grid at h
  obtain ⟨low, half⟩ := grid
  dsimp only at h
  obtain ⟨rfl, hback, -⟩ | ⟨rfl, hback, -⟩ := nearer?_eq_some h
  · exact ⟨hback, rfl⟩
  · exact ⟨hback, rfl⟩

theorem exists_nearer? (low : Nat) (g : Int) (half : Ordering) (above : Bool) :
    ∃ d, nearer? low g half true above = some d := by
  cases above with
  | false => exact ⟨_, rfl⟩
  | true => cases half <;> exact ⟨_, rfl⟩

theorem exists_candidate?_zero (hi : units i = n * unitsPerOne) :
    ∃ d, candidate? i 0 = some d := by
  have hgrid : (onGrid (units i) 0).1 = n := by
    simp only [onGrid, Int.neg_zero, Int.toNat_zero, Nat.pow_eq, Nat.pow_zero, Nat.mul_one, hi]
    exact Nat.mul_div_cancel n Binary64.unitsPerOne_pos
  unfold candidate?
  generalize onGrid (units i) 0 = grid at hgrid
  obtain ⟨low, half⟩ := grid
  obtain rfl : low = n := hgrid
  dsimp only
  rw [readsBack_self hi]
  exact exists_nearer? low 0 half _

theorem leading_bounds (hpos : 0 < n) (hn : n < 2 ^ 50) :
    ∃ k : Nat, leading (n * unitsPerOne) = k ∧ 1 ≤ k ∧ k ≤ 17 := by
  have hle := Binary64.le_log2_mul_unitsPerOne hpos
  have hlt := Binary64.log2_mul_unitsPerOne_lt hn
  unfold leading
  generalize (n * unitsPerOne).log2 = l at hle hlt
  dsimp only
  split
  · exact ⟨((((l : Int) - 1074) * 30103 / 100000) + 1).toNat, by omega, by omega, by omega⟩
  · exact ⟨((((l : Int) - 1074) * 30103 / 100000) + 2).toNat, by omega, by omega, by omega⟩

/-- The search for the shortest decimal meets the integer at the latest where the fraction would
begin. -/
theorem exists_found (hi : units i = n * unitsPerOne) {k : Nat} (hk : 1 ≤ k) (hk' : k ≤ 17) :
    ∃ d, ((List.range' 1 17).findSome? fun m : Nat => candidate? i (k - m)) = some d ∧
      readsBack i d = true ∧ 0 ≤ d.exponent := by
  have hsplit : List.range' 1 17 = List.range' 1 k ++ List.range' (1 + k) (17 - k) := by
    rw [List.range'_append_1, Nat.add_sub_cancel' hk']
  obtain ⟨d, hd⟩ : ∃ d, ((List.range' 1 k).findSome? fun m : Nat => candidate? i (k - m)) =
    some d := by
    apply Option.isSome_iff_exists.1
    rw [List.findSome?_isSome_iff]
    obtain ⟨d, hd⟩ := exists_candidate?_zero hi
    refine ⟨k, List.mem_range'_1.2 (by omega), ?_⟩
    rw [Int.sub_self, hd]
    rfl
  obtain ⟨m, hm, hcandidate⟩ := List.exists_of_findSome?_eq_some hd
  obtain ⟨hback, hexponent⟩ := readsBack_of_candidate? hcandidate
  have hle := (List.mem_range'_1.1 hm).2
  refine ⟨d, ?_, hback, by omega⟩
  rw [hsplit, List.findSome?_append, hd]
  rfl

theorem shortest_num (hi : units i = n * unitsPerOne) (hn : n < 2 ^ 50) :
    (shortest i).num = n ∧ 0 ≤ (shortest i).exponent := by
  by_cases hzero : i = 0
  · have hunits : n * unitsPerOne = 0 := by rw [← hi, hzero, Binary64.units_zero]
    obtain rfl : n = 0 :=
      (Nat.mul_eq_zero.1 hunits).resolve_right (Nat.ne_of_gt Binary64.unitsPerOne_pos)
    rw [shortest, if_pos hzero]
    exact ⟨rfl, Int.le_refl 0⟩
  · have hpos : 0 < n := by
      apply Nat.pos_of_ne_zero
      rintro rfl
      rw [Nat.zero_mul, ← Binary64.units_zero] at hi
      exact hzero (Binary64.units_strictMono.injective hi)
    obtain ⟨k, hleading, hk, hk'⟩ := leading_bounds hpos hn
    obtain ⟨d, hfound, hback, hexponent⟩ := exists_found hi hk hk'
    have hshortest : shortest i = d.strip 20 := by
      rw [shortest, if_neg hzero]
      dsimp only
      rw [hi, hleading, hfound, Option.getD_some]
    obtain ⟨hnum, hnonneg⟩ := strip_num 20 hexponent
    rw [hshortest, hnum]
    exact ⟨num_eq_of_readsBack hi (Nat.lt_trans hn (by decide)) hexponent hback, hnonneg⟩

theorem cents_shortest (hi : units i = n * unitsPerOne) (hn : n < 2 ^ 50) :
    (shortest i).cents = n * 100 := by
  obtain ⟨hnum, hexponent⟩ := shortest_num hi hn
  rw [cents, hnum, den_of_nonneg hexponent, roundHalfUp]
  omega

end Decimal

namespace Binary64

theorem roundCents_ofInt {n : Int} (h : n.natAbs < 2 ^ 53) :
    roundCents (ofInt n) = ofInt n := by
  have hunits : units (indexOf n.natAbs h) = n.natAbs * unitsPerOne := units_indexOf h
  rw [ofInt_eq h, roundCents, hunits]
  by_cases hlimit : n.natAbs < centLimit
  · have hbound : n.natAbs < 2 ^ 50 := Nat.lt_trans hlimit (by decide)
    have hratio : n.natAbs * 100 * unitsPerOne = units (indexOf n.natAbs h) * 100 := by
      rw [hunits, Nat.mul_right_comm]
    rw [if_pos (Nat.mul_lt_mul_of_pos_right hlimit unitsPerOne_pos),
      Decimal.cents_shortest hunits hbound, ofRatio, hratio, nearest_units_mul _ (by decide),
      ofIndex, dif_pos (indexOf n.natAbs h).isLt]
  · rw [if_neg (Nat.not_lt.2 (Nat.mul_le_mul_right _ (Nat.not_lt.1 hlimit)))]

end Binary64

end PromptChart
