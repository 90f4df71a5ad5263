import PromptChart.Binary64.Arithmetic

namespace PromptChart

/-- The number `digits * 10 ^ exponent`. -/
structure Decimal where
  digits : Nat
  exponent : Int
  deriving DecidableEq, Repr

namespace Decimal

def num (d : Decimal) : Nat := d.digits * Nat.pow 10 d.exponent.toNat

def den (d : Decimal) : Nat := Nat.pow 10 (-d.exponent).toNat

def strip (d : Decimal) : Nat → Decimal
  | 0 => d
  | fuel + 1 =>
    if d.digits ≠ 0 ∧ d.digits % 10 = 0 then strip ⟨d.digits / 10, d.exponent + 1⟩ fuel else d

def roundHalfUp (num den : Nat) : Nat := (2 * num + den) / (2 * den)

/-- The quotient rounded to an integer, a half going to the even neighbour. -/
def roundHalfEven (num den : Nat) : Nat :=
  let q := num / den
  match compare (2 * (num % den)) den with
  | .lt => q
  | .eq => q + q % 2
  | .gt => q + 1

end Decimal

/-- The number nearest to a decimal. Exponents far outside the range are settled without the
power. -/
def Binary64.ofDecimal (negative : Bool) (d : Decimal) : Binary64 :=
  if d.digits = 0 then ofIndex negative 0
  else if 310 ≤ d.exponent then .infinite negative
  else if d.exponent + d.digits.log2 + 1 < -330 then ofIndex negative 0
  else ofRatio negative d.num d.den

end PromptChart
