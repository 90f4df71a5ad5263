import PromptChart.Decimal.Cents
import PromptChart.Json.Number

namespace PromptChart

/-- The numbers that values are summed up in. A run computes with binary64 numbers; the same
steps over numbers that are not rounded say what it would come to without rounding. -/
class Arithmetic (ν : Type) extends Add ν, Mul ν, Div ν where
  ofInt : Int → ν
  /-- An integer as a number; one that is beyond every number has none. -/
  ofInt? : Int → Except Failure ν
  read : Json → Except Failure ν
  lt : ν → ν → Bool
  roundCents : ν → ν

namespace Arithmetic

variable {ν : Type} [Arithmetic ν]

/-- The lesser of two numbers; the first stays unless the second is strictly below it. -/
def min (a b : ν) : ν := if lt b a then b else a

/-- The greater of two numbers; the first stays unless the second is strictly above it. -/
def max (a b : ν) : ν := if lt a b then b else a

end Arithmetic

instance : Arithmetic Binary64 where
  ofInt := Binary64.ofInt
  ofInt? := Binary64.ofInt?
  read := Json.number
  lt := Binary64.lt
  roundCents := Binary64.roundCents

end PromptChart
