import PromptChart.Json.Basic
import PromptChart.Text.Quoted

namespace PromptChart.Json

open Text (hex)

/-- A character inside a JSON text; those beyond the basic plane are written as two units. -/
def escaped (c : Char) : List Char :=
  match c with
  | '"' => ['\\', '"']
  | '\\' => ['\\', '\\']
  | '\n' => ['\\', 'n']
  | '\r' => ['\\', 'r']
  | '\t' => ['\\', 't']
  | '\x08' => ['\\', 'b']
  | '\x0c' => ['\\', 'f']
  | c =>
    if ' ' ≤ c ∧ c ≤ '~' then [c]
    else if c.toNat < 0x10000 then '\\' :: 'u' :: hex 4 c.toNat
    else
      let n := c.toNat - 0x10000
      '\\' :: 'u' :: hex 4 (0xd800 + n / 0x400) ++ '\\' :: 'u' :: hex 4 (0xdc00 + n % 0x400)

def writeText (s : String) : List Char := '"' :: s.toList.flatMap escaped ++ ['"']

/-- Integers of more than 4300 digits are not meant: they can neither be written nor read
back. -/
def writeInt (n : Int) : List Char :=
  (if n < 0 then ['-'] else []) ++ Decimal.numeral n.natAbs

mutual

def writeChars : Json → List Char
  | .null => "null".toList
  | .bool b => if b then "true".toList else "false".toList
  | .int n => writeInt n
  | .float x => x.write "NaN" "Infinity"
  | .text s => writeText s
  | .array items => '[' :: writeItems items ++ [']']
  | .object members => '{' :: writeMembers members ++ ['}']

def writeItems : List Json → List Char
  | [] => []
  | [j] => writeChars j
  | j :: rest => writeChars j ++ ',' :: ' ' :: writeItems rest

def writeMembers : List (String × Json) → List Char
  | [] => []
  | [(k, j)] => writeText k ++ ':' :: ' ' :: writeChars j
  | (k, j) :: rest => writeText k ++ ':' :: ' ' :: writeChars j ++
    ',' :: ' ' :: writeMembers rest

end

/-- JSON text in ASCII, with a space after every comma and colon. -/
def write (j : Json) : String := String.ofList j.writeChars

end PromptChart.Json
