import PromptChart.Json.Basic

namespace PromptChart.Json

/-- What is wrong with a JSON text. -/
inductive Fault where
  | byteOrderMark
  | expectingValue
  | expectingKey
  | expectingColon
  | expectingComma
  | extraData
  | unterminatedText
  | controlCharacter
  | badEscape
  | badUnicodeEscape
  deriving DecidableEq, Repr

def Fault.message : Fault → String
  | .byteOrderMark => "Unexpected UTF-8 BOM (decode using utf-8-sig)"
  | .expectingValue => "Expecting value"
  | .expectingKey => "Expecting property name enclosed in double quotes"
  | .expectingColon => "Expecting ':' delimiter"
  | .expectingComma => "Expecting ',' delimiter"
  | .extraData => "Extra data"
  | .unterminatedText => "Unterminated string starting at"
  | .controlCharacter => "Invalid control character at"
  | .badEscape => "Invalid \\escape"
  | .badUnicodeEscape => "Invalid \\uXXXX escape"

/-- A fault and how many characters come before it. -/
structure SyntaxError where
  fault : Fault
  before : List Char
  deriving Repr

def SyntaxError.message (e : SyntaxError) : String :=
  let line := e.before.count '\n' + 1
  let column := (e.before.reverse.takeWhile (· ≠ '\n')).length + 1
  e.fault.message ++ ": line " ++ toString line ++ " column " ++ toString column ++
    " (char " ++ toString e.before.length ++ ")"

namespace Reader

/-- Where and why reading stopped: the fault and the text from there. -/
abbrev Stop := Fault × List Char

def isSpace (c : Char) : Bool := c = ' ' || c = '\t' || c = '\n' || c = '\r'

def skip (cs : List Char) : List Char := cs.dropWhile isSpace

def isDigit (c : Char) : Bool := '0' ≤ c && c ≤ '9'

def hexDigit? (c : Char) : Option Nat :=
  if '0' ≤ c ∧ c ≤ '9' then some (c.toNat - 48)
  else if 'a' ≤ c ∧ c ≤ 'f' then some (c.toNat - 87)
  else if 'A' ≤ c ∧ c ≤ 'F' then some (c.toNat - 55)
  else none

def hex4? (a b c d : Char) : Option Nat := do
  let a ← hexDigit? a
  let b ← hexDigit? b
  let c ← hexDigit? c
  let d ← hexDigit? d
  return ((a * 16 + b) * 16 + c) * 16 + d

def escape? : Char → Option Char
  | '"' => some '"'
  | '\\' => some '\\'
  | '/' => some '/'
  | 'b' => some '\x08'
  | 'f' => some '\x0c'
  | 'n' => some '\n'
  | 'r' => some '\r'
  | 't' => some '\t'
  | _ => none

def isHigh (n : Nat) : Bool := 0xd800 ≤ n && n < 0xdc00

def isLow (n : Nat) : Bool := 0xdc00 ≤ n && n < 0xe000

/-- Codes to characters: two halves in a row make one, and half a pair on its own is read as the
replacement character. -/
def joinPairs : List Nat → List Char
  | [] => []
  | [n] => [if isHigh n || isLow n then '\ufffd' else Char.ofNat n]
  | n :: m :: rest =>
    if isHigh n && isLow m then
      Char.ofNat (0x10000 + (n - 0xd800) * 0x400 + (m - 0xdc00)) :: joinPairs rest
    else (if isHigh n || isLow n then '\ufffd' else Char.ofNat n) :: joinPairs (m :: rest)

/-- The codes up to the closing quote, and the text behind it; `start` is where the text
opened. -/
def codes (start : List Char) : List Char → Except Stop (List Nat × List Char)
  | [] => .error (.unterminatedText, start)
  | '"' :: rest => .ok ([], rest)
  | ['\\'] => .error (.unterminatedText, start)
  | '\\' :: 'u' :: a :: b :: c :: d :: rest =>
    match hex4? a b c d with
    | some n =>
      if rest.isEmpty then .error (.badUnicodeEscape, ['u', a, b, c, d])
      else (codes start rest).map fun (ns, rest) => (n :: ns, rest)
    | none => .error (.badUnicodeEscape, 'u' :: a :: b :: c :: d :: rest)
  | '\\' :: 'u' :: rest => .error (.badUnicodeEscape, 'u' :: rest)
  | '\\' :: c :: rest =>
    match escape? c with
    | some e => (codes start rest).map fun (ns, rest) => (e.toNat :: ns, rest)
    | none => .error (.badEscape, '\\' :: c :: rest)
  | c :: rest =>
    if c.toNat < 0x20 then .error (.controlCharacter, c :: rest)
    else (codes start rest).map fun (ns, rest) => (c.toNat :: ns, rest)

def text (start rest : List Char) : Except Stop (String × List Char) :=
  (codes start rest).map fun (ns, rest) => (String.ofList (joinPairs ns), rest)

def whole? : List Char → Option (List Char × List Char)
  | '0' :: rest => some (['0'], rest)
  | cs => if cs.head?.any isDigit then some (cs.takeWhile isDigit, cs.dropWhile isDigit)
    else none

def fraction : List Char → List Char × List Char
  | '.' :: rest =>
    if rest.head?.any isDigit then (rest.takeWhile isDigit, rest.dropWhile isDigit)
    else ([], '.' :: rest)
  | cs => ([], cs)

def exponent? (cs : List Char) : Option Int × List Char :=
  match cs with
  | c :: rest =>
    if c = 'e' ∨ c = 'E' then
      let (negative, digits) := match rest with
        | '-' :: r => (true, r)
        | '+' :: r => (false, r)
        | r => (false, r)
      if digits.head?.any isDigit then
        let n := Nat.ofDigitChars 10 (digits.takeWhile isDigit) 0
        (some (if negative then -(n : Int) else n), digits.dropWhile isDigit)
      else (none, cs)
    else (none, cs)
  | [] => (none, cs)

/-- A number; it is an integer unless it has a fraction or an exponent. -/
def number? (cs : List Char) : Option (Json × List Char) :=
  let (negative, body) := match cs with
    | '-' :: rest => (true, rest)
    | _ => (false, cs)
  (whole? body).map fun (digits, rest) =>
    let (decimals, rest) := fraction rest
    let (power, rest) := exponent? rest
    let n := Nat.ofDigitChars 10 (digits ++ decimals) 0
    if decimals.isEmpty && power.isNone then (.int (if negative then -(n : Int) else n), rest)
    else (.float (.ofDecimal negative ⟨n, power.getD 0 - decimals.length⟩), rest)

def words : List (List Char × Json) :=
  [("null".toList, .null), ("true".toList, .bool true), ("false".toList, .bool false),
   ("NaN".toList, .float .nan), ("Infinity".toList, .float (.infinite false)),
   ("-Infinity".toList, .float (.infinite true))]

def word? (cs : List Char) : Option (Json × List Char) :=
  words.findSome? fun (word, j) =>
    if word.isPrefixOf cs then some (j, cs.drop word.length) else none

mutual

def value : Nat → List Char → Except Stop (Json × List Char)
  | 0, cs => .error (.expectingValue, cs)
  | fuel + 1, cs =>
    match cs with
    | '"' :: rest => (text cs rest).map fun (s, rest) => (.text s, rest)
    | '[' :: rest =>
      match skip rest with
      | ']' :: rest => .ok (.array [], rest)
      | rest => (items fuel rest).map fun (js, rest) => (.array js, rest)
    | '{' :: rest =>
      match skip rest with
      | '}' :: rest => .ok (.object [], rest)
      | rest => (members fuel rest).map fun (ms, rest) => (ofMembers ms, rest)
    | _ =>
      match word? cs <|> number? cs with
      | some found => .ok found
      | none => .error (.expectingValue, cs)

/-- The items of a list that is not empty, up to its closing bracket. -/
def items : Nat → List Char → Except Stop (List Json × List Char)
  | 0, cs => .error (.expectingValue, cs)
  | fuel + 1, cs => do
    let (j, rest) ← value fuel cs
    match skip rest with
    | ']' :: rest => return ([j], rest)
    | ',' :: rest =>
      let (js, rest) ← items fuel (skip rest)
      return (j :: js, rest)
    | rest => .error (.expectingComma, rest)

/-- The members of an object that is not empty, up to its closing brace. -/
def members : Nat → List Char → Except Stop (List (String × Json) × List Char)
  | 0, cs => .error (.expectingValue, cs)
  | fuel + 1, cs => do
    match cs with
    | '"' :: rest =>
      let (key, rest) ← text cs rest
      match skip rest with
      | ':' :: rest =>
        let (j, rest) ← value fuel (skip rest)
        match skip rest with
        | '}' :: rest => return ([(key, j)], rest)
        | ',' :: rest =>
          let (ms, rest) ← members fuel (skip rest)
          return ((key, j) :: ms, rest)
        | rest => .error (.expectingComma, rest)
      | rest => .error (.expectingColon, rest)
    | cs => .error (.expectingKey, cs)

end

end Reader

open Reader in
/-- The value that a text holds. NaN and the infinities are numbers, and of two members with
one key the later value takes the place of the earlier one. Every step down takes a character,
so twice the length is enough. -/
def read (s : String) : Except SyntaxError Json :=
  let cs := s.toList
  let located (e : Stop) : SyntaxError := ⟨e.1, cs.take (cs.length - e.2.length)⟩
  if cs.head? = some '\ufeff' then .error ⟨.byteOrderMark, []⟩
  else
    match value (2 * cs.length + 2) (skip cs) with
    | .error e => .error (located e)
    | .ok (j, rest) =>
      match skip rest with
      | [] => .ok j
      | rest => .error (located (.extraData, rest))

end PromptChart.Json
