import PromptChart.Decimal.Numeral
import PromptChart.Text.Search
import PromptChart.Validation.Checked

namespace PromptChart.Checked

open Text (isSpacing trimBy)

def anything (j : Json) : Checked Json := .valid j

def text : Json → Checked String
  | .text s => .valid s
  | _ => fail .notText

def members : Json → Checked (List (String × Json))
  | .object members => .valid members
  | _ => fail .notMap

/-- The text without its underscores; `none` if one stands at an end or next to another one. -/
def withoutUnderscores? (cs : List Char) : Option (List Char) :=
  if cs.head? = some '_' || cs.getLast? = some '_' || Text.occursIn ['_', '_'] cs then none
  else some (cs.filter (· ≠ '_'))

def realText? (cs : List Char) : Option Binary64 :=
  (Numeral.number? (trimBy isSpacing cs)).or <|
    if cs.contains '_' then
      (withoutUnderscores? cs).bind fun cs => Numeral.number? (trimBy isSpacing cs)
    else none

def real : Json → Checked Binary64
  | .bool b => .valid (if b then 1 else 0)
  | .int n =>
    let x := Binary64.ofInt n
    if x.isFinite then .valid x else fail .notReal
  | .float x => .valid x
  | .text s =>
    match realText? s.toList with
    | some x => .valid x
    | none => fail .unreadableReal
  | _ => fail .notReal

def isLeading (c : Char) : Bool := '1' ≤ c && c ≤ '9'

/-- The text of a whole number from its first digit other than zero on, or from a minus behind
the zeros; `zero` is the text from the last zero or underscore on, and stands for itself when a
point or nothing follows. -/
def dropZeros (zero : List Char) : List Char → Option (List Char)
  | [] => some zero
  | c :: rest =>
    if c = '0' || c = '_' then dropZeros (c :: rest) rest
    else if isLeading c || c = '-' then some (c :: rest)
    else if c = '.' then some zero
    else none

/-- Zeros at the front are dropped; what does not start with a digit is no whole number. -/
def significant? : List Char → Option (List Char)
  | [] => none
  | c :: rest =>
    if c = '0' then dropZeros (c :: rest) rest
    else if isLeading c then some (c :: rest)
    else none

/-- A point with zeros behind it, at least one, is dropped when nothing else follows. -/
def dropPoint (cs : List Char) : List Char :=
  match cs.dropWhile (· ≠ '.') with
  | _ :: '0' :: zeros => if zeros.all (· = '0') then cs.takeWhile (· ≠ '.') else cs
  | _ => cs

/-- Underscores are dropped; if one stands in a wrong place, all of them are kept. -/
def dropUnderscores (cs : List Char) : List Char := (withoutUnderscores? cs).getD cs

/-- The zeros behind a sign are dropped; a plus is dropped with them. -/
def signedSignificant? : List Char → Option (List Char)
  | '-' :: rest => (significant? rest).map ('-' :: ·)
  | '+' :: rest => significant? rest
  | cs => significant? cs

/-- What is left of a whole number written as text without the space around it, a plus in front
of it, zeros in front and behind the point, and underscores. -/
def bareWhole? (cs : List Char) : Option (List Char) :=
  (signedSignificant? (trimBy isSpacing cs)).map fun cs => dropUnderscores (dropPoint cs)

/-- A whole number has at most this many digits and signs as text. -/
def wholeTextLimit : Nat := 4300

/-- A row of digits behind an optional minus, without zeros in front. A row that is too long is
not read on, and what stands behind it does not matter. -/
def digits (cs : List Char) : Checked Int :=
  let (negative, body) := match cs with
    | '-' :: rest => (true, rest)
    | _ => (false, cs)
  let row := body.takeWhile Numeral.isDigit
  if row.isEmpty || (row.head? = some '0' && 1 < row.length) then fail .unreadableWhole
  else if wholeTextLimit < row.length + (if negative then 1 else 0) then fail .oversizedWhole
  else if row.length < body.length then fail .unreadableWhole
  else .valid (Binary64.signed negative (Numeral.natural row))

def wholeText (cs : List Char) : Checked Int :=
  match bareWhole? cs with
  | some bare => digits bare
  | none => fail .unreadableWhole

def fitsWord (n : Int) : Bool := -9223372036854775808 ≤ n && n < 9223372036854775808

def wholeReal (x : Binary64) : Checked Int :=
  if !x.isFinite then fail .notFinite
  else
    match x.toInt? with
    | some n => if fitsWord n then .valid n else fail .oversizedWhole
    | none => fail .fractional

def whole : Json → Checked Int
  | .bool b => .valid (if b then 1 else 0)
  | .int n => .valid n
  | .float x => wholeReal x
  | .text s => wholeText s.toList
  | _ => fail .notWhole

def truthWords : List (String × Bool) :=
  [("0", false), ("off", false), ("f", false), ("false", false), ("n", false), ("no", false),
   ("1", true), ("on", true), ("t", true), ("true", true), ("y", true), ("yes", true)]

/-- Only zero and one stand for truth values; a number that does not fit a word is not even read
as one. -/
def truthOfInt (n : Int) : Checked Bool :=
  if n = 0 then .valid false
  else if n = 1 then .valid true
  else if fitsWord n then fail .unreadableTruth
  else fail .notTruth

def truth : Json → Checked Bool
  | .bool b => .valid b
  | .int n => truthOfInt n
  | .float x =>
    match x.toInt? with
    | some n => truthOfInt n
    | none => fail .notTruth
  | .text s =>
    match truthWords.lookup (String.ofList (s.toList.map Char.toLower)) with
    | some b => .valid b
    | none => fail .unreadableTruth
  | _ => fail .notTruth

def word {α : Type} (mismatch : Mismatch) (words : List (String × α)) : Json → Checked α
  | .text s =>
    match words.lookup s with
    | some a => .valid a
    | none => fail mismatch
  | _ => fail mismatch

end PromptChart.Checked
