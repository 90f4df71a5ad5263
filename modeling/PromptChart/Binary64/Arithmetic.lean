import PromptChart.Binary64.Basic

namespace PromptChart.Binary64

/-- A sum is exact before it is rounded; a sum that cancels is positive zero. -/
def add : Binary64 → Binary64 → Binary64
  | .nan, _ => .nan
  | _, .nan => .nan
  | .infinite s, .infinite t => if s = t then .infinite s else .nan
  | .infinite s, .finite .. => .infinite s
  | .finite .., .infinite t => .infinite t
  | .finite s i, .finite t j =>
    let sum := signed s (units i) + signed t (units j)
    if sum = 0 then ofIndex (s && t) 0 else ofIndex (sum < 0) (nearest sum.natAbs 1)

instance : Add Binary64 := ⟨add⟩

def neg : Binary64 → Binary64
  | .nan => .nan
  | .infinite s => .infinite !s
  | .finite s i => .finite (!s) i

instance : Neg Binary64 := ⟨neg⟩

instance : Sub Binary64 := ⟨fun a b => a + -b⟩

def mul : Binary64 → Binary64 → Binary64
  | .nan, _ => .nan
  | _, .nan => .nan
  | .infinite s, .infinite t => .infinite (s ^^ t)
  | .infinite s, .finite t j => if j.val = 0 then .nan else .infinite (s ^^ t)
  | .finite s i, .infinite t => if i.val = 0 then .nan else .infinite (s ^^ t)
  | .finite s i, .finite t j => ofIndex (s ^^ t) (nearest (units i * units j) unitsPerOne)

instance : Mul Binary64 := ⟨mul⟩

/-- A quotient; a zero divisor gives an infinity, or nan for zero over zero. -/
def div : Binary64 → Binary64 → Binary64
  | .nan, _ => .nan
  | _, .nan => .nan
  | .infinite _, .infinite _ => .nan
  | .infinite s, .finite t _ => .infinite (s ^^ t)
  | .finite s _, .infinite t => ofIndex (s ^^ t) 0
  | .finite s i, .finite t j =>
    if j.val = 0 then if i.val = 0 then .nan else .infinite (s ^^ t)
    else ofIndex (s ^^ t) (nearest (units i * unitsPerOne) (units j))

instance : Div Binary64 := ⟨div⟩

def floor? : Binary64 → Option Int
  | .finite s i => some (signed s (units i) / unitsPerOne)
  | _ => none

/-- A multiple of the number, rounded to the nearest integer, a half going up: `none` for nan
and the infinities. -/
def round? (x : Binary64) (k : Int) : Option Int :=
  match x with
  | .finite s i => some ((2 * k * signed s (units i) + unitsPerOne) / (2 * unitsPerOne))
  | _ => none

def toInt? : Binary64 → Option Int
  | .finite s i =>
    if units i % unitsPerOne = 0 then some (signed s (units i / unitsPerOne)) else none
  | _ => none

end PromptChart.Binary64
