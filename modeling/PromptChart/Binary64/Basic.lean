namespace PromptChart

/-- A binary64 number. A finite one is a sign and the index of its magnitude in increasing
order: the magnitude with index `i` is `units i` times `2 ^ (-1074)`, so arithmetic is integer
arithmetic and one rounding. -/
inductive Binary64 where
  | nan
  | infinite (negative : Bool)
  | finite (negative : Bool) (index : Fin (2047 * Nat.pow 2 52))
  deriving DecidableEq, Repr

namespace Binary64

def infinityIndex : Nat := 2047 * Nat.pow 2 52

def unitsPerOne : Nat := Nat.pow 2 1074

/-- How often the spacing has doubled where the magnitude with index `i` lies. -/
def scale (i : Nat) : Nat := i / Nat.pow 2 52 - 1

/-- The magnitude with index `i`, in units of the least positive one. -/
def units (i : Nat) : Nat := (i - scale i * Nat.pow 2 52) * Nat.pow 2 (scale i)

/-- The index of the greatest magnitude that is at most `n` units. -/
def floorIndex (n : Nat) : Nat :=
  let k := n.log2 - 52
  k * Nat.pow 2 52 + n / Nat.pow 2 k

/-- The index `i` or the next one, by the place against the middle between them; a tie goes to
the even one. -/
def towards (i : Nat) : Ordering → Nat
  | .lt => i
  | .eq => i + i % 2
  | .gt => i + 1

def nearest (num den : Nat) : Nat :=
  let i := floorIndex (num / den)
  towards i (compare (2 * num) ((units i + units (i + 1)) * den))

def ofIndex (negative : Bool) (i : Nat) : Binary64 :=
  if h : i < 2047 * Nat.pow 2 52 then .finite negative ⟨i, h⟩ else .infinite negative

def ofRatio (negative : Bool) (num den : Nat) : Binary64 :=
  ofIndex negative (nearest (num * unitsPerOne) den)

def ofInt (n : Int) : Binary64 := ofRatio (n < 0) n.natAbs 1

instance (n : Nat) : OfNat Binary64 n := ⟨ofInt n⟩

def isFinite : Binary64 → Bool
  | .finite .. => true
  | _ => false

def signed (negative : Bool) (n : Nat) : Int := if negative then -(n : Int) else n

/-- The place on the number line, in units; the infinities lie beyond every finite number. -/
def rank : Binary64 → Option Int
  | .nan => none
  | .infinite s => some (signed s (units infinityIndex))
  | .finite s i => some (signed s (units i))

def eq (a b : Binary64) : Bool :=
  match a.rank, b.rank with
  | some x, some y => x == y
  | _, _ => false

def lt (a b : Binary64) : Bool :=
  match a.rank, b.rank with
  | some x, some y => x < y
  | _, _ => false

def le (a b : Binary64) : Bool :=
  match a.rank, b.rank with
  | some x, some y => x ≤ y
  | _, _ => false

def isZero (a : Binary64) : Bool := a.rank == some 0

end Binary64

end PromptChart
