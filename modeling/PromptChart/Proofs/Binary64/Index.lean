import Mathlib.Algebra.Ring.Int.Defs
import Mathlib.Algebra.Ring.Nat
import Mathlib.Order.Monotone.Basic
import PromptChart.Binary64.Basic

namespace PromptChart.Binary64

theorem exists_unitsPerOne : ∃ e, e = 1074 ∧ unitsPerOne = 2 ^ e := by
  delta unitsPerOne
  generalize he : 1074 = e
  exact ⟨e, rfl, rfl⟩

theorem unitsPerOne_pos : 0 < unitsPerOne := by
  obtain ⟨e, -, he⟩ := exists_unitsPerOne
  rw [he]
  exact Nat.two_pow_pos e

theorem scale_eq (i : Nat) : scale i = i / 2 ^ 52 - 1 := rfl

theorem units_eq (i : Nat) : units i = (i - scale i * 2 ^ 52) * 2 ^ scale i := rfl

theorem units_succ (i : Nat) : units (i + 1) = units i + 2 ^ scale i := by
  by_cases h : scale (i + 1) = scale i
  · have hle : scale i * 2 ^ 52 ≤ i := by
      rw [scale_eq]
      omega
    rw [units_eq, units_eq, h, Nat.sub_add_comm hle, Nat.add_mul, Nat.one_mul]
  · obtain ⟨e, he⟩ : ∃ e, i + 1 = (e + 2) * 2 ^ 52 := by
      refine ⟨i / 2 ^ 52 - 1, ?_⟩
      simp only [scale_eq] at h
      omega
    have hscale : scale i = e := by
      rw [scale_eq]
      omega
    have hnext : scale (i + 1) = e + 1 := by
      rw [scale_eq]
      omega
    have hlow : i - e * 2 ^ 52 = 2 ^ 53 - 1 := by omega
    have hhigh : i + 1 - (e + 1) * 2 ^ 52 = 2 ^ 52 := by omega
    rw [units_eq, units_eq, hscale, hnext, hlow, hhigh, Nat.pow_succ]
    omega

theorem units_strictMono : StrictMono units := by
  apply strictMono_nat_of_lt_succ
  intro i
  rw [units_succ]
  exact Nat.lt_add_of_pos_right (Nat.two_pow_pos _)

theorem units_zero : units 0 = 0 := by decide

theorem floorIndex_eq (n : Nat) :
    floorIndex n = (n.log2 - 52) * 2 ^ 52 + n / 2 ^ (n.log2 - 52) := rfl

theorem mantissa_lt (n : Nat) : n / 2 ^ (n.log2 - 52) < 2 ^ 53 := by
  rw [Nat.div_lt_iff_lt_mul (Nat.two_pow_pos _), ← Nat.pow_add]
  calc n
    _ < 2 ^ (n.log2 + 1) := Nat.lt_log2_self
    _ ≤ 2 ^ (53 + (n.log2 - 52)) := Nat.pow_le_pow_right (by decide) (by omega)

theorem le_mantissa {n : Nat} (h : 52 < n.log2) : 2 ^ 52 ≤ n / 2 ^ (n.log2 - 52) := by
  have hn : n ≠ 0 := by
    rintro rfl
    rw [Nat.log2_zero] at h
    omega
  rw [Nat.le_div_iff_mul_le (Nat.two_pow_pos _), ← Nat.pow_add]
  calc 2 ^ (52 + (n.log2 - 52))
    _ = 2 ^ n.log2 := by rw [Nat.add_sub_cancel' (by omega)]
    _ ≤ n := Nat.log2_self_le hn

theorem scale_floorIndex (n : Nat) : scale (floorIndex n) = n.log2 - 52 := by
  have hlt := mantissa_lt n
  rw [scale_eq, floorIndex_eq]
  by_cases h : 52 < n.log2
  · have hle := le_mantissa h
    omega
  · have hk : n.log2 - 52 = 0 := by omega
    rw [hk, Nat.pow_zero, Nat.div_one] at hlt ⊢
    omega

theorem units_floorIndex (n : Nat) :
    units (floorIndex n) = n / 2 ^ (n.log2 - 52) * 2 ^ (n.log2 - 52) := by
  rw [units_eq, scale_floorIndex, floorIndex_eq, Nat.add_sub_cancel_left]

theorem units_floorIndex_le (n : Nat) : units (floorIndex n) ≤ n := by
  rw [units_floorIndex]
  exact Nat.div_mul_le_self n _

theorem lt_units_floorIndex_succ (n : Nat) : n < units (floorIndex n + 1) := by
  rw [units_succ, units_floorIndex, scale_floorIndex]
  exact Nat.lt_div_mul_add (Nat.two_pow_pos _)

theorem floorIndex_mono {m n : Nat} (h : m ≤ n) : floorIndex m ≤ floorIndex n := by
  apply Nat.lt_succ_iff.1
  rw [← units_strictMono.lt_iff_lt]
  calc units (floorIndex m)
    _ ≤ m := units_floorIndex_le m
    _ ≤ n := h
    _ < units (floorIndex n + 1) := lt_units_floorIndex_succ n

theorem floorIndex_units (i : Nat) : floorIndex (units i) = i := by
  apply Nat.le_antisymm
  · rw [← units_strictMono.le_iff_le]
    exact units_floorIndex_le _
  · apply Nat.lt_succ_iff.1
    rw [← units_strictMono.lt_iff_lt]
    exact lt_units_floorIndex_succ _

theorem le_towards (i : Nat) (o : Ordering) : i ≤ towards i o := by
  cases o with
  | lt => exact Nat.le_refl i
  | eq => exact Nat.le_add_right i _
  | gt => exact Nat.le_succ i

theorem towards_le (i : Nat) (o : Ordering) : towards i o ≤ i + 1 := by
  cases o with
  | lt => exact Nat.le_succ i
  | eq => exact Nat.add_le_add_left (Nat.le_of_lt_succ (Nat.mod_lt i Nat.zero_lt_two)) i
  | gt => exact Nat.le_refl _

theorem towards_compare_mono {m n : Nat} (i middle : Nat) (h : m ≤ n) :
    towards i (compare m middle) ≤ towards i (compare n middle) := by
  rcases Nat.lt_trichotomy n middle with hn | hn | hn
  · rw [Nat.compare_eq_lt.2 hn, Nat.compare_eq_lt.2 (h.trans_lt hn)]
  · rcases h.eq_or_lt with rfl | hless
    · exact Nat.le_refl _
    · rw [Nat.compare_eq_lt.2 (hn ▸ hless)]
      exact le_towards i _
  · rw [Nat.compare_eq_gt.2 hn]
    exact towards_le i _

theorem compare_mul_right (m n : Nat) {k : Nat} (hk : 0 < k) :
    compare (m * k) (n * k) = compare m n := by
  rcases Nat.lt_trichotomy m n with h | rfl | h
  · rw [Nat.compare_eq_lt.2 h, Nat.compare_eq_lt.2 (Nat.mul_lt_mul_of_pos_right h hk)]
  · rw [Nat.compare_eq_eq.2 rfl, Nat.compare_eq_eq.2 rfl]
  · rw [Nat.compare_eq_gt.2 h, Nat.compare_eq_gt.2 (Nat.mul_lt_mul_of_pos_right h hk)]

theorem nearest_mono {num den num' den' : Nat} (hden : 0 < den) (hden' : 0 < den')
    (h : num * den' ≤ num' * den) :
    nearest num den ≤ nearest num' den' := by
  have hdiv : num / den ≤ num' / den' := by
    rw [Nat.le_div_iff_mul_le hden']
    apply Nat.le_of_mul_le_mul_right _ hden
    calc num / den * den' * den
      _ = num / den * den * den' := Nat.mul_right_comm _ _ _
      _ ≤ num * den' := Nat.mul_le_mul_right _ (Nat.div_mul_le_self _ _)
      _ ≤ num' * den := h
  rw [nearest, nearest]
  rcases (floorIndex_mono hdiv).eq_or_lt with hfloor | hfloor
  · rw [hfloor]
    generalize units (floorIndex (num' / den')) + units (floorIndex (num' / den') + 1) = middle
    -- Both are compared with the same middle once their denominators are the same.
    rw [← compare_mul_right _ _ hden', ← compare_mul_right (2 * num') _ hden,
      Nat.mul_right_comm middle den' den]
    apply towards_compare_mono
    rw [Nat.mul_assoc, Nat.mul_assoc]
    exact Nat.mul_le_mul_left 2 h
  · calc towards (floorIndex (num / den)) _
      _ ≤ floorIndex (num / den) + 1 := towards_le _ _
      _ ≤ floorIndex (num' / den') := hfloor
      _ ≤ towards (floorIndex (num' / den')) _ := le_towards _ _

theorem nearest_congr {num den num' den' : Nat} (hden : 0 < den) (hden' : 0 < den')
    (h : num * den' = num' * den) :
    nearest num den = nearest num' den' :=
  Nat.le_antisymm (nearest_mono hden hden' h.le) (nearest_mono hden' hden h.ge)

theorem floorIndex_le_nearest (num den : Nat) : floorIndex (num / den) ≤ nearest num den :=
  le_towards _ _

theorem nearest_units_mul (i : Nat) {den : Nat} (h : 0 < den) :
    nearest (units i * den) den = i := by
  have hlt : 2 * (units i * den) < (units i + units (i + 1)) * den := by
    have hnext : units i * den < units (i + 1) * den :=
      Nat.mul_lt_mul_of_pos_right (units_strictMono (Nat.lt_succ_self i)) h
    rw [Nat.add_mul]
    omega
  rw [nearest, Nat.mul_div_cancel _ h, floorIndex_units, Nat.compare_eq_lt.2 hlt, towards]

theorem nearest_zero {den : Nat} (h : 0 < den) : nearest 0 den = 0 := by
  have hzero := nearest_units_mul 0 h
  rwa [units_zero, Nat.zero_mul] at hzero

theorem nearest_units (i : Nat) : nearest (units i) 1 = i := by
  have h := nearest_units_mul i Nat.one_pos
  rwa [Nat.mul_one] at h

end PromptChart.Binary64
