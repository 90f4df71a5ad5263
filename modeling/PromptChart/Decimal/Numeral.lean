import PromptChart.Decimal.Basic
import PromptChart.Text.Class

namespace PromptChart.Numeral

open Text (isBlank digit? trimBy)

def isDigit (c : Char) : Bool := '0' ≤ c && c ≤ '9'

def natural (digits : List Char) : Nat := Nat.ofDigitChars 10 digits 0

def sign : List Char → Bool × List Char
  | '-' :: rest => (true, rest)
  | '+' :: rest => (false, rest)
  | cs => (false, cs)

/-- The exponent that makes up the whole rest of a number; no rest is exponent zero. -/
def exponent? : List Char → Option Int
  | [] => some 0
  | c :: rest =>
    if c = 'e' ∨ c = 'E' then
      let (negative, digits) := sign rest
      if digits.isEmpty || !digits.all isDigit then none
      else some (Binary64.signed negative (natural digits))
    else none

/-- A decimal without a sign; the point may stand at either end of the digits. -/
def decimal? (cs : List Char) : Option Decimal :=
  let whole := cs.takeWhile isDigit
  let (fraction, rest) := match cs.dropWhile isDigit with
    | '.' :: rest => (rest.takeWhile isDigit, rest.dropWhile isDigit)
    | rest => ([], rest)
  if whole.isEmpty && fraction.isEmpty then none
  else (exponent? rest).map fun e => ⟨natural (whole ++ fraction), e - fraction.length⟩

def number? (cs : List Char) : Option Binary64 :=
  let (negative, body) := sign cs
  let word := String.ofList (body.map Char.toLower)
  if word = "inf" ∨ word = "infinity" then some (.infinite negative)
  else if word = "nan" then some .nan
  else (decimal? body).map (.ofDecimal negative)

/-- A digit of any script as an ASCII digit, and white space beyond ASCII as a space. -/
def simplify (c : Char) : Char :=
  if c.toNat < 0x7f then c
  else if isBlank c then ' '
  else
    match digit? c with
    | some d => Char.ofNat ('0'.toNat + d)
    | none => c

/-- The text without its underscores; `none` if one of them does not stand between two
digits. -/
def joined? (afterDigit : Bool) : List Char → Option (List Char)
  | [] => some []
  | c :: rest =>
    if c = '_' then if afterDigit && rest.head?.any isDigit then joined? false rest else none
    else (joined? (isDigit c) rest).map (c :: ·)

def isPadding (c : Char) : Bool := c = ' ' || ('\t' ≤ c && c ≤ '\r')

def free? (s : String) : Option Binary64 :=
  (joined? false (trimBy isPadding (s.toList.map simplify))).bind number?

end PromptChart.Numeral
