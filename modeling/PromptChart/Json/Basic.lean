import PromptChart.Decimal.Notation
import PromptChart.Entries

namespace PromptChart

/-- JSON values. Integers and floating numbers are different values, and an object keeps the
order in which its keys arrived. -/
inductive Json where
  | null
  | bool (b : Bool)
  | int (n : Int)
  | float (x : Binary64)
  | text (s : String)
  | array (items : List Json)
  | object (members : List (String × Json))
  deriving Repr, Inhabited

namespace Json

def ofMembers (members : List (String × Json)) : Json :=
  .object (Entries.ofList members)

def get? (key : String) : Json → Option Json
  | .object members => members.lookup key
  | _ => none

def get (key : String) (j : Json) : Json := (j.get? key).getD .null

/-- Null, false, zero, and the empty text, list and object hold nothing. -/
def isVacant : Json → Bool
  | .null => true
  | .bool b => !b
  | .int n => n == 0
  | .float x => x.isZero
  | .text s => s.isEmpty
  | .array items => items.isEmpty
  | .object members => members.isEmpty

def present? (j : Json) : Option Json := if j.isVacant then none else some j

def isNull : Json → Bool
  | .null => true
  | _ => false

def text? : Json → Option String
  | .text s => some s
  | _ => none

def kindName : Json → String
  | .null => "NoneType"
  | .bool _ => "bool"
  | .int _ => "int"
  | .float _ => "float"
  | .text _ => "str"
  | .array _ => "list"
  | .object _ => "dict"

/-- The place of a finite number on the number line, in units; truth values count as zero and
one. -/
def rank? : Json → Option Int
  | .bool b => some (if b then Binary64.unitsPerOne else 0)
  | .int n => some (n * Binary64.unitsPerOne)
  | .float x => if x.isFinite then x.rank else none
  | _ => none

/-- Equality of scalars: numbers by value, whatever their kind. Lists and objects equal
nothing. -/
def sameScalar : Json → Json → Bool
  | .null, .null => true
  | .text s, .text t => s == t
  | .float x, .float y => x.eq y
  | a, b =>
    match a.rank?, b.rank? with
    | some x, some y => x == y
    | _, _ => false

end Json

end PromptChart
