import PromptChart.Decimal.Basic

namespace PromptChart.Decimal

open Binary64 (units unitsPerOne nearest)

def readsBack (i : Nat) (d : Decimal) : Bool := nearest (d.num * unitsPerOne) d.den == i

def belowPower (u : Nat) (k : Int) : Bool :=
  u * Nat.pow 10 (-k).toNat < Nat.pow 10 k.toNat * unitsPerOne

/-- The least `k` with `u` units below `10 ^ k`, for a positive `u`; the estimate from the
binary length is short by at most one. -/
def leading (u : Nat) : Int :=
  let d := ((u.log2 : Int) - 1074) * 30103 / 100000
  if belowPower u (d + 1) then d + 1 else d + 2

/-- The neighbours of `u` units on the grid of multiples of `10 ^ g`, and the place between
them: the lower neighbour, and twice the distance to it compared with the spacing. -/
def onGrid (u : Nat) (g : Int) : Nat × Ordering :=
  let num := u * Nat.pow 10 (-g).toNat
  let den := unitsPerOne * Nat.pow 10 g.toNat
  (num / den, compare (2 * (num % den)) den)

/-- The nearer of two neighbours on a grid that read back; a tie goes to the even one. -/
def nearer? (low : Nat) (g : Int) (half : Ordering) (below above : Bool) : Option Decimal :=
  match below, above with
  | true, false => some ⟨low, g⟩
  | false, true => some ⟨low + 1, g⟩
  | false, false => none
  | true, true =>
    match half with
    | .lt => some ⟨low, g⟩
    | .gt => some ⟨low + 1, g⟩
    | .eq => some ⟨if low % 2 = 0 then low else low + 1, g⟩

def candidate? (i : Nat) (g : Int) : Option Decimal :=
  let (low, half) := onGrid (units i) g
  nearer? low g half (readsBack i ⟨low, g⟩) (readsBack i ⟨low + 1, g⟩)

def exact (i : Nat) : Decimal := ⟨units i * Nat.pow 5 1074, -1074⟩

/-- The fewest decimal digits that read back to a number, and of those decimals the nearest to
it. -/
def shortest (i : Nat) : Decimal :=
  if i = 0 then ⟨0, 0⟩
  else
    let k := leading (units i)
    let d := ((List.range' 1 17).findSome? fun n : Nat => candidate? i (k - n)).getD (exact i)
    d.strip 20

end PromptChart.Decimal
