import PromptChart.Decimal.Notation

namespace PromptChart

def isLeap (year : Nat) : Bool := year % 4 = 0 && (year % 100 ≠ 0 || year % 400 = 0)

def daysInMonth (year month : Nat) : Nat :=
  if month = 2 then if isLeap year then 29 else 28
  else if month = 4 ∨ month = 6 ∨ month = 9 ∨ month = 11 then 30
  else 31

structure Date where
  year : Nat
  month : Nat
  day : Nat
  year_pos : 0 < year
  year_le : year ≤ 9999
  month_pos : 0 < month
  month_le : month ≤ 12
  day_pos : 0 < day
  day_le : day ≤ daysInMonth year month
  deriving DecidableEq, Repr

namespace Date

def of? (year month day : Nat) : Option Date :=
  if h : 0 < year ∧
    year ≤ 9999 ∧ 0 < month ∧ month ≤ 12 ∧ 0 < day ∧ day ≤ daysInMonth year month then
    some ⟨year, month, day, h.1, h.2.1, h.2.2.1, h.2.2.2.1, h.2.2.2.2.1, h.2.2.2.2.2⟩
  else none

def padded (width n : Nat) : List Char :=
  let digits := Decimal.numeral n
  List.replicate (width - digits.length) '0' ++ digits

def text (d : Date) : String :=
  String.ofList (padded 4 d.year ++ '-' :: padded 2 d.month ++ '-' :: padded 2 d.day)

def daysBefore (year : Nat) : Nat → Nat
  | 0 => 0
  | 1 => 0
  | month + 1 => daysBefore year month + daysInMonth year month

def number (d : Date) : Nat :=
  let y := d.year - 1
  365 * y + y / 4 - y / 100 + y / 400 + daysBefore d.year d.month + d.day - 1

/-- The month and the day that lie `n` days after the start of a month, `months` months at
most. -/
def inYear (year month n : Nat) : Nat → Nat × Nat
  | 0 => (month, n + 1)
  | months + 1 =>
    if n < daysInMonth year month then (month, n + 1)
    else inYear year (month + 1) (n - daysInMonth year month) months

/-- The date with a number. Whole cycles of 400 years, centuries, leap cycles and years are
counted off; the last century of a cycle and the last year of a leap cycle are one day
longer. -/
def ofNumber? (n : Nat) : Option Date :=
  let cycles := n / 146097
  let n := n % 146097
  let centuries := Nat.min (n / 36524) 3
  let n := n - centuries * 36524
  let leaps := n / 1461
  let n := n % 1461
  let years := Nat.min (n / 365) 3
  let n := n - years * 365
  let year := 400 * cycles + 100 * centuries + 4 * leaps + years + 1
  let (month, day) := inYear year 1 n 12
  of? year month day

def addDays? (d : Date) (days : Nat) : Option Date := ofNumber? (d.number + days)

def le (a b : Date) : Bool :=
  a.year < b.year ||
    (a.year = b.year && (a.month < b.month || (a.month = b.month && a.day ≤ b.day)))

end Date

end PromptChart
