import PromptChart.Binary64.Arithmetic

namespace PromptChart

/-- The 32-bit Mersenne Twister: 624 words of state, all renewed at once whenever they have
been used up. -/
structure Twister where
  words : Array UInt32
  used : Nat

namespace Twister

def size : Nat := 624

def word (words : Array UInt32) (i : Nat) : UInt32 := words.getD (i % size) 0

def grow (seed : UInt32) : Array UInt32 :=
  (List.range (size - 1)).foldl (fun (words : Array UInt32) i =>
    let last := words.getD i 0
    words.push ((last ^^^ (last >>> 30)) * 1812433253 + UInt32.ofNat (i + 1))) #[seed]

/-- A place in the state, and the place in the seed. -/
structure Mixing where
  words : Array UInt32
  i : Nat
  j : Nat

/-- Behind the last place comes the second; the first gets a copy of the last. -/
def Mixing.wrap (m : Mixing) : Mixing :=
  if m.i < size then m else ⟨m.words.setIfInBounds 0 (word m.words (size - 1)), 1, m.j⟩

def Mixing.scrambled (m : Mixing) (factor : UInt32) : UInt32 :=
  let last := word m.words (m.i - 1)
  word m.words m.i ^^^ ((last ^^^ (last >>> 30)) * factor)

def Mixing.absorb (key : Array UInt32) (m : Mixing) : Mixing :=
  let value := m.scrambled 1664525 + key.getD m.j 0 + UInt32.ofNat m.j
  let j := if m.j + 1 < key.size then m.j + 1 else 0
  wrap ⟨m.words.setIfInBounds m.i value, m.i + 1, j⟩

def Mixing.stir (m : Mixing) : Mixing :=
  wrap ⟨m.words.setIfInBounds m.i (m.scrambled 1566083941 - UInt32.ofNat m.i), m.i + 1, m.j⟩

def ofKey (key : Array UInt32) : Twister :=
  let start : Mixing := ⟨grow 19650218, 1, 0⟩
  let absorbed := (List.range (Nat.max size key.size)).foldl (fun m _ => m.absorb key) start
  let stirred := (List.range (size - 1)).foldl (fun m _ => m.stir) absorbed
  ⟨stirred.words.setIfInBounds 0 0x80000000, size⟩

/-- The words of a number, the lowest first; a number has at least one. -/
def keyOf (n : Nat) : Array UInt32 :=
  (List.range (n.log2 / 32 + 1)).foldl (fun key i => key.push (UInt32.ofNat (n >>> (32 * i))))
    #[]

def ofSeed (seed : Int) : Twister := ofKey (keyOf seed.natAbs)

def renew (words : Array UInt32) (i : Nat) : Array UInt32 :=
  let y := (word words i &&& 0x80000000) ||| (word words (i + 1) &&& 0x7fffffff)
  let mixed := word words (i + 397) ^^^ (y >>> 1)
  words.setIfInBounds i (if y &&& 1 = 0 then mixed else mixed ^^^ 0x9908b0df)

def temper (y : UInt32) : UInt32 :=
  let y := y ^^^ (y >>> 11)
  let y := y ^^^ ((y <<< 7) &&& 0x9d2c5680)
  let y := y ^^^ ((y <<< 15) &&& 0xefc60000)
  y ^^^ (y >>> 18)

def next (t : Twister) : UInt32 × Twister :=
  let t := if t.used < size then t else ⟨(List.range size).foldl renew t.words, 0⟩
  (temper (word t.words t.used), { t with used := t.used + 1 })

end Twister

abbrev Draw := StateM Twister

namespace Draw

def word : Draw UInt32 := fun t => t.next

def bits (k : Nat) : Draw Nat := do return (← word).toNat >>> (32 - k)

/-- How often a draw is repeated at most; every try succeeds with a chance of more than one
half. -/
def tries : Nat := 500

def belowIn (bound k : Nat) : Nat → Draw Nat
  | 0 => pure 0
  | fuel + 1 => do
    let n ← bits k
    if n < bound then return n else belowIn bound k fuel

def below (bound : Nat) : Draw Nat := belowIn bound (bound.log2 + 1) tries

def between (first last : Nat) : Draw Nat := do return first + (← below (last - first + 1))

def unit : Draw Binary64 := do
  let a := (← word).toNat >>> 5
  let b := (← word).toNat >>> 6
  return .ofRatio false (a * Nat.pow 2 26 + b) (Nat.pow 2 53)

def uniform (low high : Binary64) : Draw Binary64 := do return low + (high - low) * (← unit)

def item {α : Type} (default : α) (items : List α) : Draw α := do
  return items.getD (← below items.length) default

def runningSums (sum : Binary64) : List Binary64 → List Binary64
  | [] => []
  | w :: rest => (sum + w) :: runningSums (sum + w) rest

def weighted {α : Type} (default : α) (items : List (α × Binary64)) : Draw α := do
  let sums := runningSums 0 (items.map (·.2))
  let x := (← unit) * sums.getLastD 0
  let place := (sums.dropLast.takeWhile (·.le x)).length
  return (items.map (·.1)).getD place default

end Draw

end PromptChart
