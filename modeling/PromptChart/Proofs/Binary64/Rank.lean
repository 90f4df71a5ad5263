import PromptChart.Arithmetic
import PromptChart.Proofs.Binary64.Cents

namespace PromptChart

namespace Binary64

variable {a b : Binary64} {m n : Int}

theorem exists_rank (h : a ≠ .nan) : ∃ n, a.rank = some n := by
  cases a with
  | nan => exact absurd rfl h
  | infinite s => exact ⟨_, rfl⟩
  | finite s i => exact ⟨_, rfl⟩

theorem eq_of_rank (ha : a.rank = some n) (hb : b.rank = some n) : a.eq b = true := by
  rw [eq, ha, hb]
  exact beq_self_eq_true n

theorem lt_of_rank (ha : a.rank = some m) (hb : b.rank = some n) : a.lt b = decide (m < n) := by
  rw [lt, ha, hb]

theorem ranks_of_lt (h : a.lt b = true) : ∃ m n, a.rank = some m ∧ b.rank = some n ∧ m < n := by
  rw [lt] at h
  split at h
  next m n hm hn => exact ⟨m, n, hm, hn, of_decide_eq_true h⟩
  · cases h

theorem not_lt_self (a : Binary64) : ¬ a.lt a = true := by
  intro h
  obtain ⟨m, n, hm, hn, hlt⟩ := ranks_of_lt h
  cases hm.symm.trans hn
  exact lt_irrefl _ hlt

theorem lt_of_lt_of_lt {c : Binary64} (hab : a.lt b = true) (hbc : b.lt c = true) :
    a.lt c = true := by
  obtain ⟨m, n, hm, hn, hmn⟩ := ranks_of_lt hab
  obtain ⟨n', k, hn', hk, hnk⟩ := ranks_of_lt hbc
  cases hn.symm.trans hn'
  rw [lt_of_rank hm hk]
  exact decide_eq_true (lt_trans hmn hnk)

theorem signed_injective {s t : Bool} {i j : Nat} (h : signed s i = signed t j) :
    i = j ∧ (s = t ∨ i = 0) := by
  cases s <;> cases t <;> simp [signed] at h ⊢ <;> omega

theorem eq_or_zeros_of_rank (ha : a.rank = some n) (hb : b.rank = some n) :
    a = b ∨ ∃ s t, a = ofIndex s 0 ∧ b = ofIndex t 0 := by
  have hbelow (i : Fin (2047 * Nat.pow 2 52)) : units i < units infinityIndex :=
    units_strictMono i.isLt
  have hbeyond : 0 < units infinityIndex := by
    rw [← units_zero]
    exact units_strictMono (by decide)
  have hzero {i : Fin (2047 * Nat.pow 2 52)} (s : Bool) (hi : units i = 0) :
      .finite s i = ofIndex s 0 := by
    have hindex : i.val = 0 := units_strictMono.injective (hi.trans units_zero.symm)
    rw [← hindex, ofIndex, dif_pos i.isLt]
  rw [← hb] at ha
  cases a with
  | nan =>
    rw [hb] at ha
    cases ha
  | infinite s =>
    cases b with
    | nan => cases ha
    | infinite t =>
      obtain ⟨-, rfl | habs⟩ := signed_injective (Option.some.inj ha)
      · exact .inl rfl
      · exact absurd habs (Nat.ne_of_gt hbeyond)
    | finite t j =>
      obtain ⟨habs, -⟩ := signed_injective (Option.some.inj ha)
      exact absurd habs (Nat.ne_of_gt (hbelow j))
  | finite s i =>
    cases b with
    | nan => cases ha
    | infinite t =>
      obtain ⟨habs, -⟩ := signed_injective (Option.some.inj ha)
      exact absurd habs (Nat.ne_of_lt (hbelow i))
    | finite t j =>
      obtain ⟨habs, hsign⟩ := signed_injective (Option.some.inj ha)
      obtain rfl : i = j := Fin.ext (units_strictMono.injective habs)
      obtain rfl | hunits := hsign
      · exact .inl rfl
      · exact .inr ⟨s, t, hzero s hunits, hzero t hunits⟩

theorem exists_rank_ofIndex (s : Bool) (i : Nat) : ∃ n, (ofIndex s i).rank = some n := by
  rw [ofIndex]
  split <;> exact ⟨_, rfl⟩

theorem exists_rank_roundCents (h : a.rank = some n) : ∃ n, (roundCents a).rank = some n := by
  cases a with
  | nan => cases h
  | infinite s => exact ⟨_, rfl⟩
  | finite s i =>
    rw [roundCents]
    split
    · exact exists_rank_ofIndex s _
    · exact ⟨_, rfl⟩

theorem ofIndex_zero (s : Bool) : ofIndex s 0 = .finite s ⟨0, by decide⟩ := dif_pos _

theorem rank_ofIndex_zero (s : Bool) : (ofIndex s 0).rank = some 0 := by
  rw [ofIndex_zero, rank, units_zero]
  cases s <;> rfl

theorem roundCents_ofIndex_zero (s : Bool) : roundCents (ofIndex s 0) = ofIndex s 0 := by
  have hunits : units 0 = 0 * unitsPerOne := by rw [units_zero, Nat.zero_mul]
  have hbelow : units 0 < centLimit * unitsPerOne := by
    rw [units_zero]
    exact Nat.mul_pos (by decide) unitsPerOne_pos
  rw [ofIndex_zero, roundCents, if_pos hbelow, Decimal.cents_shortest hunits (by decide),
    ofRatio, Nat.zero_mul, nearest_zero (by decide), ofIndex_zero]

theorem roundCents_eq_of_rank (ha : a.rank = some n) (hb : b.rank = some n) :
    (roundCents a).eq (roundCents b) = true := by
  obtain rfl | ⟨s, t, rfl, rfl⟩ := eq_or_zeros_of_rank ha hb
  · obtain ⟨m, hm⟩ := exists_rank_roundCents ha
    exact eq_of_rank hm hm
  · rw [roundCents_ofIndex_zero, roundCents_ofIndex_zero]
    exact eq_of_rank (rank_ofIndex_zero s) (rank_ofIndex_zero t)

section Defined

variable {a b : Binary64} {m n : Nat}

theorem ofIndex_ne_nan (s : Bool) (i : Nat) : ofIndex s i ≠ .nan := by
  intro h
  obtain ⟨n, hn⟩ := exists_rank_ofIndex s i
  rw [h] at hn
  cases hn

theorem ofInt_ne_nan (n : Int) : ofInt n ≠ .nan := ofIndex_ne_nan _ _

theorem ne_nan_of_isFinite (h : a.isFinite = true) : a ≠ .nan := by
  rintro rfl
  cases h

theorem add_ne_nan (ha : a ≠ .nan) (hb : b.isFinite = true) : a + b ≠ .nan := by
  cases b with
  | nan => cases hb
  | infinite => cases hb
  | finite t j =>
    cases a with
    | nan => exact absurd rfl ha
    | infinite s => exact nofun
    | finite s i =>
      change add (.finite s i) (.finite t j) ≠ .nan
      rw [add]
      split <;> exact ofIndex_ne_nan _ _

theorem floorIndex_pos (h : 0 < n) : 0 < floorIndex n := by
  apply Nat.pos_of_ne_zero
  intro hzero
  have hlt := lt_units_floorIndex_succ n
  have hone : units 1 = 1 := by decide
  rw [hzero, Nat.zero_add, hone] at hlt
  omega

theorem ofInt_natCast (n : Nat) : ofInt n = ofIndex false (nearest (n * unitsPerOne) 1) := by
  have hsign : decide ((n : Int) < 0) = false := decide_eq_false (by omega)
  rw [ofInt, ofRatio, hsign, Int.natAbs_natCast]

theorem isFinite_ofIndex_iff (s : Bool) (i : Nat) :
    (ofIndex s i).isFinite = true ↔ i < infinityIndex := by
  rw [ofIndex]
  split
  next h => exact iff_of_true rfl h
  next h => exact iff_of_false Bool.false_ne_true h

theorem isFinite_ofInt_of_le (h : m ≤ n) (hn : (ofInt n).isFinite = true) :
    (ofInt m).isFinite = true := by
  rw [ofInt_natCast, isFinite_ofIndex_iff] at hn ⊢
  exact (nearest_mono Nat.one_pos Nat.one_pos
    (by simpa using Nat.mul_le_mul_right unitsPerOne h)).trans_lt hn

theorem div_ofInt_ne_nan (ha : a ≠ .nan) (hpos : 0 < n) (hn : (ofInt n).isFinite = true) :
    a / ofInt n ≠ .nan := by
  have hindex : nearest (n * unitsPerOne) 1 ≠ 0 := by
    have hfloor := floorIndex_le_nearest (n * unitsPerOne) 1
    have hunits := floorIndex_pos (Nat.mul_pos hpos unitsPerOne_pos)
    rw [Nat.div_one] at hfloor
    omega
  rw [ofInt_natCast, isFinite_ofIndex_iff, infinityIndex] at hn
  rw [ofInt_natCast, ofIndex, dif_pos hn]
  cases a with
  | nan => exact absurd rfl ha
  | infinite s =>
    intro h
    cases h
  | finite s i =>
    change div (.finite s i) (.finite _ _) ≠ .nan
    rw [div, if_neg hindex]
    exact ofIndex_ne_nan _ _

end Defined

end Binary64

end PromptChart
