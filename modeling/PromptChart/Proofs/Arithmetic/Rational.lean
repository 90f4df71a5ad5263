import Mathlib.Algebra.Order.Floor.Ring
import Mathlib.Data.Rat.Floor
import Mathlib.Order.Monotone.Odd
import Mathlib.Tactic.Linarith
import PromptChart.Arithmetic

namespace PromptChart

/-- The exact value of a number; nan and the infinities have none. -/
def Binary64.toRat : Binary64 → Except Failure ℚ
  | .finite s i => .ok (signed s (units i) / unitsPerOne)
  | _ => .error .wrongKind

namespace Rational

/-- A rational rounded to hundredths, half of one going away from zero. -/
def hundredths (q : ℚ) : ℚ :=
  if q < 0 then -(⌊-q * 100 + 1 / 2⌋ : ℚ) / 100 else (⌊q * 100 + 1 / 2⌋ : ℚ) / 100

/-- A chart value; those at or above the limit stay as they are. -/
def roundCents (q : ℚ) : ℚ := if |q| < Binary64.centLimit then hundredths q else q

theorem hundredths_of_nonneg {q : ℚ} (h : 0 ≤ q) :
    hundredths q = (⌊q * 100 + 1 / 2⌋ : ℚ) / 100 := if_neg (not_lt.2 h)

theorem hundredths_neg (q : ℚ) : hundredths (-q) = -hundredths q := by
  rcases lt_trichotomy q 0 with hq | rfl | hq
  · rw [hundredths_of_nonneg (neg_nonneg.2 hq.le), hundredths, if_pos hq, neg_div, neg_neg]
  · norm_num [hundredths]
  · rw [hundredths, if_pos (neg_neg_of_pos hq), neg_neg, hundredths_of_nonneg hq.le, neg_div]

theorem roundCents_mono : Monotone roundCents := by
  apply monotone_of_odd_of_monotoneOn_nonneg
  · intro q
    rw [roundCents, roundCents, abs_neg, hundredths_neg]
    split <;> rfl
  · intro p hp q hq h
    have hp : 0 ≤ p := hp
    have hq : 0 ≤ q := hq
    have hfloor {a b : ℚ} (hab : a ≤ b) : (⌊a * 100 + 1 / 2⌋ : ℚ) ≤ ⌊b * 100 + 1 / 2⌋ := by
      exact_mod_cast Int.floor_mono (by linarith)
    rw [roundCents, roundCents, abs_of_nonneg hp, abs_of_nonneg hq, hundredths_of_nonneg hp,
      hundredths_of_nonneg hq]
    generalize Binary64.centLimit = limit
    by_cases hlimit : q < limit
    · rw [if_pos hlimit, if_pos (h.trans_lt hlimit)]
      exact div_le_div_of_nonneg_right (hfloor h) (by norm_num)
    · rw [if_neg hlimit]
      split
      next hbelow =>
        have hcap : ⌊p * 100 + 1 / 2⌋ < (limit * 100 + 1 : ℤ) := by
          rw [Int.floor_lt]
          push_cast
          linarith
        have hcap' :
            (⌊p * 100 + 1 / 2⌋ : ℚ) ≤ limit * 100 := by exact_mod_cast Int.lt_add_one_iff.1 hcap
        linarith
      · exact h

def read : Json → Except Failure ℚ
  | .int n => .ok n
  | j => j.number >>= Binary64.toRat

end Rational

instance : Arithmetic ℚ where
  ofInt n := n
  ofInt? n := .ok n
  read := Rational.read
  lt a b := decide (a < b)
  roundCents := Rational.roundCents

namespace Arithmetic

theorem ofInt_rational (n : Int) : (Arithmetic.ofInt n : ℚ) = n := rfl

theorem ofInt?_rational (n : Int) : Arithmetic.ofInt? n = .ok (n : ℚ) := rfl

theorem min_rational : (Arithmetic.min : ℚ → ℚ → ℚ) = Min.min := by
  funext a b
  rw [min_comm, min_def_lt]
  exact if_congr decide_eq_true_iff rfl rfl

theorem max_rational : (Arithmetic.max : ℚ → ℚ → ℚ) = Max.max := by
  funext a b
  rw [max_def_lt]
  exact if_congr decide_eq_true_iff rfl rfl

theorem read_int_rational (n : Int) : Arithmetic.read (.int n) = .ok (Arithmetic.ofInt n : ℚ) :=
  rfl

end Arithmetic

end PromptChart
