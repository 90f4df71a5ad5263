import PromptChart.Decimal.Shortest

namespace PromptChart

def Decimal.numeral (n : Nat) : List Char := Nat.toDigits 10 n

namespace Decimal

def exponentText (e : Int) : List Char :=
  let digits := numeral e.natAbs
  'e' :: (if e < 0 then '-' else '+') ::
    (if digits.length < 2 then '0' :: digits else digits)

/-- A decimal in place while its leading digit stands between `10 ^ (-4)` and `10 ^ 15`,
otherwise with an exponent. A number in place always shows a digit after the point. -/
def write (d : Decimal) : List Char :=
  let digits := numeral d.digits
  let point : Int := digits.length + d.exponent
  if -4 < point ∧ point ≤ 16 then
    if point ≤ 0 then '0' :: '.' :: (List.replicate (-point).toNat '0' ++ digits)
    else if (digits.length : Int) ≤ point then
      digits ++ List.replicate (point - digits.length).toNat '0' ++ ['.', '0']
    else digits.take point.toNat ++ '.' :: digits.drop point.toNat
  else
    let mantissa := match digits with
      | lead :: next :: rest => lead :: '.' :: next :: rest
      | short => short
    mantissa ++ exponentText (point - 1)

end Decimal

namespace Binary64

/-- The text of a number; the names of nan and infinity are the writer's to choose. -/
def write (nan infinity : String) : Binary64 → List Char
  | .nan => nan.toList
  | .infinite s => (if s then ['-'] else []) ++ infinity.toList
  | .finite s i => (if s then ['-'] else []) ++ (Decimal.shortest i).write

def text (x : Binary64) : String := String.ofList (x.write "nan" "inf")

end Binary64

end PromptChart
