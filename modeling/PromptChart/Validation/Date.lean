import PromptChart.Calendar.Date
import PromptChart.Validation.Scalar

namespace PromptChart

/-- A day, and whether the clock shows midnight. -/
structure Moment where
  date : Date
  midnight : Bool

namespace Moment

open Numeral (isDigit natural)

def secondsLimit : Nat := 20000000000

def epoch : Nat := 719162

def ofMicroseconds? (n : Int) : Option Moment :=
  let number := n / 86400000000 + epoch
  if number < 0 then none
  else (Date.ofNumber? number.toNat).map fun date => ⟨date, n % 86400000000 = 0⟩

def microseconds (n : Int) : Int := if n.natAbs ≤ secondsLimit then 1000000 else 1000

/-- The moment some seconds or milliseconds after the start of 1970. -/
def ofInt? (n : Int) : Option Moment := ofMicroseconds? (n * microseconds n)

/-- The moment that a real number denotes, to the nearest microsecond. -/
def ofReal? (x : Binary64) : Option Moment := do
  let n ← x.floor?
  (x.round? (microseconds n)).bind ofMicroseconds?

def date? : List Char → Option (Date × List Char)
  | y1 :: y2 :: y3 :: y4 :: '-' :: m1 :: m2 :: '-' :: d1 :: d2 :: rest =>
    if [y1, y2, y3, y4, m1, m2, d1, d2].all isDigit then
      (Date.of? (natural [y1, y2, y3, y4]) (natural [m1, m2]) (natural [d1, d2])).map (·, rest)
    else none
  | _ => none

def pair? (limit : Nat) : List Char → Option (Nat × List Char)
  | a :: b :: rest =>
    if isDigit a && isDigit b && natural [a, b] < limit then some (natural [a, b], rest)
    else none
  | _ => none

/-- A zone makes up the whole rest of the text: none, `Z`, or a sign with hours and minutes. -/
def isZone (cs : List Char) : Bool :=
  match cs with
  | [] => true
  | ['Z'] => true
  | ['z'] => true
  | c :: rest =>
    (c = '+' || c = '-' || c = '−') &&
      match pair? 24 rest with
      | some (_, ':' :: minutes) => (pair? 60 minutes).any (·.2.isEmpty)
      | some (_, minutes) => (pair? 60 minutes).any (·.2.isEmpty)
      | none => false

/-- Is there anything but zero in the seconds and their fraction? `none` if they cannot be
read. -/
def seconds? (cs : List Char) : Option (Bool × List Char) :=
  match cs with
  | ':' :: rest => do
    let (s, rest) ← pair? 60 rest
    match rest with
    | c :: more =>
      if c = '.' || c = ',' then
        let digits := more.takeWhile isDigit
        if digits.isEmpty then none
        else some (s ≠ 0 || (digits.take 6).any (· ≠ '0'), more.dropWhile isDigit)
      else some (s ≠ 0, rest)
    | [] => some (s ≠ 0, rest)
  | _ => some (false, cs)

/-- Hours and minutes, seconds if they are given, and a zone: does the clock show midnight? -/
def midnight? (cs : List Char) : Option Bool := do
  let (hours, rest) ← pair? 24 cs
  match rest with
  | ':' :: rest =>
    let (minutes, rest) ← pair? 60 rest
    let (late, zone) ← seconds? rest
    if isZone zone then some (hours = 0 && minutes = 0 && !late) else none
  | _ => none

/-- A number written with digits and at most one point before, between or behind them. -/
def ofNumeral? (cs : List Char) : Option Moment :=
  let (negative, body) := Numeral.sign cs
  if body.all fun c => isDigit c || c = '.' then
    (Numeral.decimal? body).bind fun d => ofReal? (.ofDecimal negative d)
  else none

def ofText? (cs : List Char) : Option Moment :=
  match date? cs with
  | some (date, []) => some ⟨date, true⟩
  | some (date, c :: time) =>
    if c = 'T' || c = 't' || c = ' ' || c = '_' then (midnight? time).map (⟨date, ·⟩) else none
  | none => ofNumeral? cs

end Moment

open Checked in
/-- A date is written year, month, day, or given as a moment at midnight: a date with a time,
or seconds since the start of 1970, milliseconds when the number is too large for seconds. -/
def Checked.date (j : Json) : Checked Date :=
  let moment : Option Moment → Checked Date
    | some m => if m.midnight then .valid m.date else fail .inexactDate
    | none => fail .unreadableDate
  match j with
  | .text s => moment (Moment.ofText? s.toList)
  | .int n => moment (Moment.ofInt? n)
  | .float x => moment (Moment.ofReal? x)
  | _ => fail .notDate

end PromptChart
