import PromptChart.Decimal.Numeral
import PromptChart.Failure
import PromptChart.Json.Basic

namespace PromptChart

/-- An integer as a binary64 number; one that is beyond every finite number has none. -/
def Binary64.ofInt? (n : Int) : Except Failure Binary64 :=
  let x := ofInt n
  if x.isFinite then .ok x else .error .tooLarge

namespace Json

/-- The number that a value stands for. Texts are read in the free form. -/
def number : Json → Except Failure Binary64
  | .bool b => .ok (if b then 1 else 0)
  | .int n => Binary64.ofInt? n
  | .float x => .ok x
  | .text s =>
    match Numeral.free? s with
    | some x => .ok x
    | none => .error (.notNumber s)
  | _ => .error .wrongKind

/-- What a value is made up of, one after another: the items of a list, the characters of a
text, the keys of an object. -/
def elements : Json → Except Failure (List Json)
  | .array items => .ok items
  | .text s => .ok (s.toList.map fun c => .text (String.singleton c))
  | .object members => .ok (members.map fun m => .text m.1)
  | _ => .error .wrongKind

/-- The first appearance of every value, scalars being equal as in `sameScalar`. Lists and
objects cannot be compared. -/
def distinct (items : List Json) : Except Failure (List Json) :=
  if items.any isCompound then .error .wrongKind else .ok (go [] items)
where
  isCompound : Json → Bool
    | .array _ => true
    | .object _ => true
    | _ => false
  go (seen : List Json) : List Json → List Json
    | [] => []
    | j :: rest => if seen.any j.sameScalar then go seen rest else j :: go (j :: seen) rest

end Json

end PromptChart
