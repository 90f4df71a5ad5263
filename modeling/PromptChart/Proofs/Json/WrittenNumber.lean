import PromptChart.Json.Reader
import PromptChart.Json.Writer
import PromptChart.Proofs.Binary64.Monotone

namespace PromptChart.Json

open Binary64 (signed)
open Reader (isDigit whole? fraction exponent? number? word? words)

/-- A number without its sign, as it is written: the digits before the point and behind it, and
the exponent. -/
structure Layout where
  whole : List Char
  decimals : List Char
  power : Option Int
  whole_ne_nil : whole ≠ []
  isDigit_whole : ∀ c ∈ whole, isDigit c = true
  lead : whole = ['0'] ∨ whole.head? ≠ some '0'
  isDigit_decimals : ∀ c ∈ decimals, isDigit c = true

namespace Layout

/-- The point is written where there are digits behind it. -/
def pointed (decimals : List Char) : List Char :=
  if decimals.isEmpty then [] else '.' :: decimals

def chars (l : Layout) : List Char :=
  l.whole ++ (pointed l.decimals ++ (l.power.map Decimal.exponentText).getD [])

def decimal (l : Layout) : Decimal :=
  ⟨Nat.ofDigitChars 10 (l.whole ++ l.decimals) 0, l.power.getD 0 - l.decimals.length⟩

def isWhole (l : Layout) : Bool := l.decimals.isEmpty && l.power.isNone

def value (s : Bool) (l : Layout) : Json :=
  if l.isWhole then .int (signed s l.decimal.digits) else .float (.ofDecimal s l.decimal)

end Layout

/-- A text that may stand behind a number: it does not go on with what could belong to the
number. -/
def EndsNumber (rest : List Char) : Prop :=
  ∀ c ∈ rest.head?, isDigit c = false ∧ c ∉ ['.', 'e', 'E']

variable {c : Char} {cs digits rest : List Char} {n : Nat}

theorem takeWhile_isDigit (hdigits : ∀ c ∈ digits, isDigit c = true)
    (hrest : ∀ c ∈ rest.head?, isDigit c = false) :
    (digits ++ rest).takeWhile isDigit = digits := by
  rw [List.takeWhile_append_of_pos hdigits]
  cases rest with
  | nil => exact List.append_nil _
  | cons c rest =>
    rw [List.takeWhile_cons_of_neg (Bool.eq_false_iff.1 (hrest c rfl)), List.append_nil]

theorem dropWhile_isDigit (hdigits : ∀ c ∈ digits, isDigit c = true)
    (hrest : ∀ c ∈ rest.head?, isDigit c = false) :
    (digits ++ rest).dropWhile isDigit = rest := by
  rw [List.dropWhile_append_of_pos hdigits]
  cases rest with
  | nil => rfl
  | cons c rest => rw [List.dropWhile_cons_of_neg (Bool.eq_false_iff.1 (hrest c rfl))]

theorem whole?_append (l : Layout) (hrest : ∀ c ∈ rest.head?, isDigit c = false) :
    whole? (l.whole ++ rest) = some (l.whole, rest) := by
  obtain hzero | hlead := l.lead
  · rw [hzero]
    rfl
  · obtain ⟨c, cs, hwhole⟩ := List.exists_cons_of_ne_nil l.whole_ne_nil
    have hc : isDigit c = true := l.isDigit_whole c (hwhole ▸ .head cs)
    have htake := takeWhile_isDigit l.isDigit_whole hrest
    have hdrop := dropWhile_isDigit l.isDigit_whole hrest
    rw [hwhole] at htake hdrop hlead ⊢
    unfold whole?
    split
    next he => exact absurd (congrArg some (List.cons.inj he).1) hlead
    next => rw [List.cons_append, List.head?_cons, Option.any_some, hc, if_pos rfl,
      ← List.cons_append, htake, hdrop]

theorem fraction_append (hdigits : ∀ c ∈ digits, isDigit c = true)
    (hrest : ∀ c ∈ rest.head?, isDigit c = false ∧ c ≠ '.') :
    fraction (Layout.pointed digits ++ rest) = (digits, rest) := by
  have hends : ∀ c ∈ rest.head?, isDigit c = false := fun c hc => (hrest c hc).1
  cases digits with
  | nil =>
    change fraction rest = ([], rest)
    unfold fraction
    split
    next => exact absurd rfl (hrest '.' rfl).2
    next => rfl
  | cons d ds =>
    have htake := takeWhile_isDigit hdigits hends
    have hdrop := dropWhile_isDigit hdigits hends
    change fraction ('.' :: (d :: ds ++ rest)) = _
    rw [fraction, List.cons_append, List.head?_cons, Option.any_some, hdigits d (.head ds),
      if_pos rfl, ← List.cons_append, htake, hdrop]

theorem isDigit_of_mem_numeral (h : c ∈ Decimal.numeral n) : isDigit c = true := by
  have hdigit := Nat.isDigit_of_mem_toDigits (by decide) (by decide) h
  simp only [Char.isDigit, Bool.and_eq_true, decide_eq_true_eq] at hdigit
  simp only [isDigit, Bool.and_eq_true, decide_eq_true_eq]
  exact hdigit

def exponentDigits (n : Nat) : List Char :=
  if (Decimal.numeral n).length < 2 then '0' :: Decimal.numeral n else Decimal.numeral n

theorem isDigit_of_mem_exponentDigits (h : c ∈ exponentDigits n) : isDigit c = true := by
  unfold exponentDigits at h
  split at h
  · obtain rfl | h := List.mem_cons.1 h
    · rfl
    · exact isDigit_of_mem_numeral h
  · exact isDigit_of_mem_numeral h

theorem ofDigitChars_exponentDigits (n : Nat) :
    Nat.ofDigitChars 10 (exponentDigits n) 0 = n := by
  unfold exponentDigits
  split
  · exact Nat.ofDigitChars_ten_toDigits
  · exact Nat.ofDigitChars_ten_toDigits

theorem exponentDigits_ne_nil (n : Nat) : exponentDigits n ≠ [] := by
  unfold exponentDigits
  split
  · exact List.cons_ne_nil _ _
  · exact Nat.toDigits_ne_nil

theorem exponentText_eq (e : Int) :
    Decimal.exponentText e = 'e' :: (if e < 0 then '-' else '+') :: exponentDigits e.natAbs :=
  rfl

theorem exponent?_exponentText (e : Int) (hrest : ∀ c ∈ rest.head?, isDigit c = false) :
    exponent? (Decimal.exponentText e ++ rest) = (some e, rest) := by
  have hdigits : ∀ c ∈ exponentDigits e.natAbs, isDigit c = true :=
    fun c hc => isDigit_of_mem_exponentDigits hc
  have htake := takeWhile_isDigit hdigits hrest
  have hdrop := dropWhile_isDigit hdigits hrest
  have hnatural := ofDigitChars_exponentDigits e.natAbs
  obtain ⟨d, ds, hcons⟩ := List.exists_cons_of_ne_nil (exponentDigits_ne_nil e.natAbs)
  have hhead : (exponentDigits e.natAbs ++ rest).head?.any isDigit = true := by
    rw [hcons, List.cons_append, List.head?_cons, Option.any_some, hdigits d (hcons ▸ .head ds)]
  rw [exponentText_eq, List.cons_append, List.cons_append]
  by_cases he : e < 0
  · have habs : -(e.natAbs : Int) = e := by omega
    rw [if_pos he]
    simp only [exponent?, true_or, ↓reduceIte, hhead, htake, hdrop, hnatural, habs]
  · have habs : (e.natAbs : Int) = e := by omega
    rw [if_neg he]
    simp only [exponent?, true_or, ↓reduceIte, hhead, htake, hdrop, hnatural, habs,
      Bool.false_eq_true]

theorem exponent?_of_endsNumber (hrest : EndsNumber rest) : exponent? rest = (none, rest) := by
  cases rest with
  | nil => rfl
  | cons c rest =>
    have hc : ¬ (c = 'e' ∨ c = 'E') := by
      rintro (rfl | rfl)
      · exact (hrest 'e' rfl).2 (by decide)
      · exact (hrest 'E' rfl).2 (by decide)
    simp only [exponent?, if_neg hc]

theorem exponent?_power (power : Option Int) (hrest : EndsNumber rest) :
    exponent? ((power.map Decimal.exponentText).getD [] ++ rest) = (power, rest) := by
  cases power with
  | none => exact exponent?_of_endsNumber hrest
  | some e => exact exponent?_exponentText e fun c hc => (hrest c hc).1

theorem head?_power (power : Option Int) (hrest : EndsNumber rest) :
    ∀ c ∈ ((power.map Decimal.exponentText).getD [] ++ rest).head?,
      isDigit c = false ∧ c ≠ '.' := by
  cases power with
  | none =>
    intro c hc
    obtain ⟨hdigit, hpoint⟩ := hrest c hc
    exact ⟨hdigit, fun he => hpoint (he ▸ .head _)⟩
  | some e =>
    rintro _ ⟨⟩
    decide

theorem head?_pointed (decimals : List Char)
    (hrest : ∀ c ∈ rest.head?, isDigit c = false ∧ c ≠ '.') :
    ∀ c ∈ (Layout.pointed decimals ++ rest).head?, isDigit c = false := by
  cases decimals with
  | nil => exact fun c hc => (hrest c hc).1
  | cons d ds =>
    rintro _ ⟨⟩
    decide

theorem number?_layout (s : Bool) (l : Layout) (hrest : EndsNumber rest) :
    number? ((if s then ['-'] else []) ++ (l.chars ++ rest)) = some (l.value s, rest) := by
  have hpower := head?_power l.power hrest
  have hwhole := whole?_append l (head?_pointed l.decimals hpower)
  have hchars : l.chars ++ rest =
      l.whole ++
        (Layout.pointed l.decimals ++
          ((l.power.map Decimal.exponentText).getD [] ++ rest)) := by
    simp only [Layout.chars, List.append_assoc]
  have hminus : (l.chars ++ rest).head? ≠ some '-' := by
    obtain ⟨c, cs, hcons⟩ := List.exists_cons_of_ne_nil l.whole_ne_nil
    have hc : isDigit c = true := l.isDigit_whole c (hcons ▸ .head cs)
    rw [hchars, hcons, List.cons_append, List.head?_cons]
    rintro ⟨⟩
    cases hc
  unfold number?
  split
  next negative body he =>
    obtain ⟨rfl, rfl⟩ : negative = s ∧ body = l.chars ++ rest := by
      cases s with
      | true =>
        cases he
        exact ⟨rfl, rfl⟩
      | false =>
        simp only [Bool.false_eq_true, ↓reduceIte, List.nil_append] at he
        split at he
        next hcons => exact absurd (congrArg List.head? hcons) hminus
        next =>
          cases he
          exact ⟨rfl, rfl⟩
    rw [hchars, hwhole, Option.map_some]
    dsimp only
    rw [fraction_append l.isDigit_decimals hpower]
    dsimp only
    rw [exponent?_power l.power hrest]
    dsimp only
    rw [Layout.value, apply_ite (·, rest)]
    rfl

theorem head?_numeral (h : n ≠ 0) : (Decimal.numeral n).head? ≠ some '0' := by
  have hdigit : ∀ d < 10, d ≠ 0 → some (Nat.digitChar d) ≠ some '0' := by decide
  induction n using Nat.strongRecOn with
  | ind n ih =>
    rw [Decimal.numeral, Nat.toDigits_eq_if (by decide)]
    split
    next hsmall => exact hdigit n hsmall h
    next hlarge =>
      rw [List.head?_append_of_ne_nil _ Nat.toDigits_ne_nil]
      exact ih (n / 10) (by omega) (by omega)

theorem numeral_lead (n : Nat) :
    Decimal.numeral n = ['0'] ∨ (Decimal.numeral n).head? ≠ some '0' := by
  by_cases h : n = 0
  · exact .inl (h ▸ rfl)
  · exact .inr (head?_numeral h)

namespace Layout

def ofNat (n : Nat) : Layout where
  whole := Decimal.numeral n
  decimals := []
  power := none
  whole_ne_nil := Nat.toDigits_ne_nil
  isDigit_whole _ hc := isDigit_of_mem_numeral hc
  lead := numeral_lead n
  isDigit_decimals _ h := absurd h List.not_mem_nil

/-- Digits behind a zero and the point, with more zeros between. -/
def behindZeros (k n : Nat) : Layout where
  whole := ['0']
  decimals := List.replicate k '0' ++ Decimal.numeral n
  power := none
  whole_ne_nil := List.cons_ne_nil _ _
  isDigit_whole := by decide
  lead := .inl rfl
  isDigit_decimals := by
    intro c hc
    obtain hc | hc := List.mem_append.1 hc
    · rw [List.eq_of_mem_replicate hc]
      rfl
    · exact isDigit_of_mem_numeral hc

/-- Digits before zeros, with the point and another zero behind them. -/
def beforeZeros (n k : Nat) (h : n = 0 → k = 0) : Layout where
  whole := Decimal.numeral n ++ List.replicate k '0'
  decimals := ['0']
  power := none
  whole_ne_nil := List.append_ne_nil_of_left_ne_nil Nat.toDigits_ne_nil _
  isDigit_whole := by
    intro c hc
    obtain hc | hc := List.mem_append.1 hc
    · exact isDigit_of_mem_numeral hc
    · rw [List.eq_of_mem_replicate hc]
      rfl
  lead := by
    by_cases hn : n = 0
    · rw [hn, h hn]
      exact .inl rfl
    · have hne : Decimal.numeral n ≠ [] := Nat.toDigits_ne_nil
      rw [List.head?_append_of_ne_nil _ hne]
      exact .inr (head?_numeral hn)
  isDigit_decimals := by decide

/-- Digits with the point behind some of them, and an exponent. -/
def cut (n k : Nat) (power : Option Int) (hn : n ≠ 0) (hk : 0 < k) : Layout where
  whole := (Decimal.numeral n).take k
  decimals := (Decimal.numeral n).drop k
  power := power
  whole_ne_nil := by
    rw [ne_eq, List.take_eq_nil_iff, not_or]
    exact ⟨Nat.ne_of_gt hk, Nat.toDigits_ne_nil⟩
  isDigit_whole _ hc := isDigit_of_mem_numeral (List.mem_of_mem_take hc)
  lead := by
    rw [List.head?_take, if_neg (Nat.ne_of_gt hk)]
    exact .inr (head?_numeral hn)
  isDigit_decimals _ hc := isDigit_of_mem_numeral (List.mem_of_mem_drop hc)

end Layout

theorem exists_layout_of_int (m : Int) :
    ∃ l : Layout, writeInt m = (if m < 0 then ['-'] else []) ++ l.chars ∧
      l.value (m < 0) = .int m := by
  refine ⟨.ofNat m.natAbs, ?_, ?_⟩
  · rw [writeInt]
    congr 1
    exact (List.append_nil _).symm
  · have hnumeral : Nat.ofDigitChars 10 (Decimal.numeral m.natAbs ++ []) 0 = m.natAbs := by
      rw [List.append_nil]
      exact Nat.ofDigitChars_ten_toDigits
    have hsigned := Binary64.signed_natAbs m 1
    rw [Nat.mul_one, Int.natCast_one, Int.mul_one] at hsigned
    change Json.int (signed (m < 0) (Nat.ofDigitChars 10 (Decimal.numeral m.natAbs ++ []) 0)) =
      .int m
    rw [hnumeral, hsigned]

namespace Layout

variable {d : Decimal} {l : Layout} {k : Nat}

theorem pointed_of_ne_nil {decimals : List Char} (h : decimals ≠ []) :
    pointed decimals = '.' :: decimals := by
  cases decimals with
  | nil => exact absurd rfl h
  | cons c cs => rfl

theorem chars_behindZeros (k n : Nat) :
    (behindZeros k n).chars = '0' :: '.' :: (List.replicate k '0' ++ Decimal.numeral n) := by
  have hne : List.replicate k '0' ++ Decimal.numeral n ≠ [] :=
    List.append_ne_nil_of_right_ne_nil _ Nat.toDigits_ne_nil
  simp only [chars, behindZeros, pointed_of_ne_nil hne, Option.map_none, Option.getD_none,
    List.append_nil, List.cons_append, List.nil_append]

theorem chars_beforeZeros (n k : Nat) (h : n = 0 → k = 0) :
    (beforeZeros n k h).chars = Decimal.numeral n ++ List.replicate k '0' ++ ['.', '0'] := rfl

theorem chars_cut (n k : Nat) (hn : n ≠ 0) (hk : 0 < k)
    (hlength : k < (Decimal.numeral n).length) :
    (cut n k none hn hk).chars = (Decimal.numeral n).take k ++
      '.' :: (Decimal.numeral n).drop k := by
  have hne : (Decimal.numeral n).drop k ≠ [] := by
    rw [ne_eq, List.drop_eq_nil_iff]
    omega
  simp only [chars, cut, pointed_of_ne_nil hne, Option.map_none, Option.getD_none,
    List.append_nil]

theorem chars_cut_one (n : Nat) (e : Int) (hn : n ≠ 0) :
    (cut n 1 (some e) hn Nat.one_pos).chars = (match Decimal.numeral n with
      | lead :: next :: rest => lead :: '.' :: next :: rest
      | short => short) ++ Decimal.exponentText e := by
  simp only [chars, cut, Option.map_some, Option.getD_some, ← List.append_assoc]
  congr 1
  obtain ⟨lead, rest, hcons⟩ :=
    List.exists_cons_of_ne_nil (Nat.toDigits_ne_nil (n := n) (b := 10))
  rw [Decimal.numeral, hcons]
  cases rest <;> rfl

theorem decimal_behindZeros (k n : Nat) :
    (behindZeros k n).decimal = ⟨n, -(k + (Decimal.numeral n).length : Nat)⟩ := by
  have hdigits :
      Nat.ofDigitChars 10 ('0' :: (List.replicate k '0' ++ Decimal.numeral n)) 0 = n := by
    rw [← List.cons_append, ← List.replicate_succ, Nat.ofDigitChars_append,
      Nat.ofDigitChars_replicate_zero, Nat.mul_zero]
    exact Nat.ofDigitChars_ten_toDigits
  rw [decimal, behindZeros]
  simp only [List.singleton_append, hdigits, Option.getD_none, List.length_append,
    List.length_replicate, Int.zero_sub]

theorem decimal_beforeZeros (n k : Nat) (h : n = 0 → k = 0) :
    (beforeZeros n k h).decimal = ⟨10 ^ (k + 1) * n, -1⟩ := by
  have hdigits : Nat.ofDigitChars 10 (Decimal.numeral n ++ List.replicate k '0' ++ ['0']) 0 =
      10 ^ (k + 1) * n := by
    rw [List.append_assoc, ← List.replicate_succ', Nat.ofDigitChars_append,
      Nat.ofDigitChars_replicate_zero, Decimal.numeral, Nat.ofDigitChars_ten_toDigits]
  rw [decimal, beforeZeros]
  simp only [hdigits, Option.getD_none, List.length_singleton, Int.zero_sub]
  rfl

theorem decimal_cut (n k : Nat) (power : Option Int) (hn : n ≠ 0) (hk : 0 < k) :
    (cut n k power hn hk).decimal =
      ⟨n, power.getD 0 - ((Decimal.numeral n).length - k : Nat)⟩ := by
  have hdigits : Nat.ofDigitChars 10 (Decimal.numeral n) 0 = n := Nat.ofDigitChars_ten_toDigits
  rw [decimal, cut]
  simp only [List.take_append_drop, hdigits, List.length_drop]

theorem num_mul_den_zeros (n k : Nat) :
    Decimal.num ⟨10 ^ (k + 1) * n, -1⟩ * Decimal.den ⟨n, k⟩ = Decimal.num ⟨n, k⟩ *
      Decimal.den ⟨10 ^ (k + 1) * n, -1⟩ := by
  have hone : (-1 : Int).toNat = 0 := rfl
  have hten : (-(-1 : Int)).toNat = 1 := rfl
  have hk : (k : Int).toNat = k := Int.toNat_natCast k
  have hzero : (-(k : Int)).toNat = 0 := by omega
  simp only [Decimal.num, Decimal.den, Nat.pow_eq, hone, hten, hk, hzero]
  ring

/-- A layout of a decimal: the decimal is written like this, not as an integer, and is read as
the same number. -/
structure Shows (l : Layout) (d : Decimal) : Prop where
  write : d.write = l.chars
  isWhole : l.isWhole = false
  num : l.decimal.num * d.den = d.num * l.decimal.den

theorem isWhole_of_ne_nil (h : l.decimals ≠ []) : l.isWhole = false := by
  rw [isWhole, List.isEmpty_eq_false_iff.2 h, Bool.false_and]

variable {n : Nat} {e : Int}

theorem write_mk (n : Nat) (e : Int) : Decimal.write ⟨n, e⟩ =
    if -4 < (Decimal.numeral n).length + e ∧ (Decimal.numeral n).length + e ≤ 16 then
      if (Decimal.numeral n).length + e ≤ 0 then
        '0' :: '.' ::
          (List.replicate (-((Decimal.numeral n).length + e)).toNat '0' ++ Decimal.numeral n)
      else if ((Decimal.numeral n).length : Int) ≤ (Decimal.numeral n).length + e then
        Decimal.numeral n ++
          List.replicate ((Decimal.numeral n).length + e - (Decimal.numeral n).length).toNat
            '0' ++
          ['.', '0']
      else (Decimal.numeral n).take ((Decimal.numeral n).length + e).toNat ++
        '.' :: (Decimal.numeral n).drop ((Decimal.numeral n).length + e).toNat
    else (match Decimal.numeral n with
      | lead :: next :: rest => lead :: '.' :: next :: rest
      | short => short) ++ Decimal.exponentText ((Decimal.numeral n).length + e - 1) := rfl

theorem shows_behindZeros (hlow : -4 < (Decimal.numeral n).length + e)
    (hhigh : (Decimal.numeral n).length + e ≤ 0) :
    (behindZeros (-((Decimal.numeral n).length + e)).toNat n).Shows ⟨n, e⟩ where
  write := by
    rw [chars_behindZeros, write_mk, if_pos ⟨hlow, by omega⟩, if_pos hhigh]
  isWhole := isWhole_of_ne_nil (List.append_ne_nil_of_right_ne_nil _ Nat.toDigits_ne_nil)
  num := by
    have hexponent :
        -((-((Decimal.numeral n).length + e)).toNat + (Decimal.numeral n).length : Nat) =
          e := by omega
    rw [decimal_behindZeros, hexponent]

theorem shows_beforeZeros (h : n = 0 → k = 0) (hk : (Decimal.numeral n).length + k ≤ 16) :
    (beforeZeros n k h).Shows ⟨n, k⟩ where
  write := by
    have hlength : 0 < (Decimal.numeral n).length := Nat.length_toDigits_pos
    have hzeros :
        ((Decimal.numeral n).length + (k : Int) - (Decimal.numeral n).length).toNat = k := by
      omega
    rw [chars_beforeZeros, write_mk, if_pos (by omega), if_neg (by omega), if_pos (by omega),
      hzeros]
  isWhole := isWhole_of_ne_nil (List.cons_ne_nil _ _)
  num := by rw [decimal_beforeZeros, num_mul_den_zeros]

theorem shows_cut (hn : n ≠ 0) (hhigh : (Decimal.numeral n).length + e ≤ 16) (he : e < 0)
    (hk : 0 < ((Decimal.numeral n).length + e).toNat) :
    (cut n ((Decimal.numeral n).length + e).toNat none hn hk).Shows ⟨n, e⟩ where
  write := by
    rw [chars_cut _ _ _ _ (by omega), write_mk, if_pos (by omega), if_neg (by omega),
      if_neg (by omega)]
  isWhole := by
    apply isWhole_of_ne_nil
    rw [cut, ne_eq, List.drop_eq_nil_iff]
    omega
  num := by
    have hexponent :
        0 - ((Decimal.numeral n).length - ((Decimal.numeral n).length + e).toNat : Nat) =
          e := by omega
    rw [decimal_cut, Option.getD_none, hexponent]

theorem shows_cut_one (hn : n ≠ 0)
    (hfar : ¬ (-4 < (Decimal.numeral n).length + e ∧ (Decimal.numeral n).length + e ≤ 16)) :
    (cut n 1 (some ((Decimal.numeral n).length + e - 1)) hn Nat.one_pos).Shows ⟨n, e⟩ where
  write := by
    rw [chars_cut_one, write_mk, if_neg hfar]
  isWhole := by rw [isWhole, cut, Option.isNone_some, Bool.and_false]
  num := by
    have hlength : 0 < (Decimal.numeral n).length := Nat.length_toDigits_pos
    have hexponent :
        ((Decimal.numeral n).length + e - 1) - ((Decimal.numeral n).length - 1 : Nat) = e := by
      omega
    rw [decimal_cut, Option.getD_some, hexponent]

theorem exists_shows (h : n = 0 → e = 0) : ∃ l : Layout, l.Shows ⟨n, e⟩ := by
  have hzero : n = 0 → (Decimal.numeral n).length + e = 1 := by
    rintro rfl
    rw [h rfl]
    rfl
  by_cases hplace : -4 < (Decimal.numeral n).length + e ∧ (Decimal.numeral n).length + e ≤ 16
  · by_cases hsmall : (Decimal.numeral n).length + e ≤ 0
    · exact ⟨_, shows_behindZeros hplace.1 hsmall⟩
    · by_cases he : e < 0
      · exact ⟨_, shows_cut (fun hn => absurd (h hn) (by omega)) hplace.2 he (by omega)⟩
      · obtain ⟨k, rfl⟩ := Int.eq_ofNat_of_zero_le (Int.not_lt.1 he)
        exact ⟨_, shows_beforeZeros (fun hn => Int.ofNat.inj (h hn)) (by omega)⟩
  · exact ⟨_, shows_cut_one (fun hn => hplace (by have := hzero hn; omega)) hplace⟩

end Layout

theorem exponent_shortest {i : Nat} (h : (Decimal.shortest i).digits = 0) :
    (Decimal.shortest i).exponent = 0 := by
  have hback := Decimal.readsBack_shortest i
  rw [Decimal.readsBack, Decimal.num, h, Nat.zero_mul, Nat.zero_mul,
    Binary64.nearest_zero (Decimal.den_pos _), beq_iff_eq] at hback
  rw [← hback]
  rfl

theorem exists_layout_of_finite (nan infinity : String) (s : Bool)
    (i : Fin (2047 * Nat.pow 2 52)) :
    ∃ l : Layout,
      (Binary64.finite s i).write nan infinity = (if s then ['-'] else []) ++ l.chars ∧
      l.value s = .float (.finite s i) := by
  obtain ⟨l, hl⟩ := Layout.exists_shows (n := (Decimal.shortest i).digits) exponent_shortest
  refine ⟨l, by rw [← hl.write]; rfl, ?_⟩
  rw [Layout.value, hl.isWhole, if_neg Bool.false_ne_true, Binary64.ofDecimal_of_readsBack]
  rw [Decimal.readsBack_congr hl.num]
  exact Decimal.readsBack_shortest i

theorem word?_layout (s : Bool) (l : Layout) (rest : List Char) :
    word? ((if s then ['-'] else []) ++ (l.chars ++ rest)) = none := by
  obtain ⟨c, cs, hcons⟩ := List.exists_cons_of_ne_nil l.whole_ne_nil
  have hc : isDigit c = true := l.isDigit_whole c (hcons ▸ .head cs)
  have hne (d : Char) (hd : isDigit d = false) : d ≠ c := by
    rintro rfl
    exact absurd hc (Bool.eq_false_iff.1 hd)
  rw [Layout.chars, hcons]
  cases s with
  | true => simp [word?, words, hne 'I' rfl]
  | false =>
    simp [word?, words, hne 'n' rfl, hne 't' rfl, hne 'f' rfl, hne 'N' rfl, hne 'I' rfl,
      hne '-' rfl]

end PromptChart.Json
