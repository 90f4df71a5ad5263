import PromptChart.Failure
import PromptChart.Json.Basic

namespace PromptChart

/-- A value, or all that is wrong with its data: fields in the order of the model, list items
in the order of the list. -/
inductive Checked (α : Type) where
  | valid (a : α)
  | invalid (issues : List Issue)
  deriving Repr

namespace Checked

variable {α β : Type}

def map (f : α → β) : Checked α → Checked β
  | .valid a => .valid (f a)
  | .invalid issues => .invalid issues

def also : Checked (α → β) → Checked α → Checked β
  | .valid f, .valid a => .valid (f a)
  | .valid _, .invalid ys => .invalid ys
  | .invalid xs, .valid _ => .invalid xs
  | .invalid xs, .invalid ys => .invalid (xs ++ ys)

instance : Applicative Checked where
  pure := .valid
  map := map
  seq f a := also f (a ())

def andThen (a : Checked α) (f : α → Checked β) : Checked β :=
  match a with
  | .valid a => f a
  | .invalid issues => .invalid issues

def toExcept : Checked α → Except Failure α
  | .valid a => .ok a
  | .invalid issues => .error (.invalid issues)

def fail (mismatch : Mismatch) : Checked α := .invalid [⟨[], mismatch⟩]

def under (key : String) : Checked α → Checked α
  | .valid a => .valid a
  | .invalid issues => .invalid (issues.map (.under key))

def required (key : String) (check : Json → Checked α) (j : Json) : Checked α :=
  under key (match j.get? key with
    | some v => check v
    | none => fail .missing)

def optional (key : String) (check : Json → Checked α) (default : α) (j : Json) : Checked α :=
  match j.get? key with
  | some v => under key (check v)
  | none => .valid default

def nullable (check : Json → Checked α) : Json → Checked (Option α)
  | .null => .valid none
  | j => (check j).map some

def record (check : Json → Checked α) : Json → Checked α
  | .object members => check (.object members)
  | _ => fail .notRecord

def items (check : Json → Checked α) (index : Nat) : List Json → Checked (List α)
  | [] => .valid []
  | j :: rest => List.cons <$> under (toString index) (check j) <*> items check (index + 1) rest

def list (check : Json → Checked α) : Json → Checked (List α)
  | .array js => items check 0 js
  | _ => fail .notList

end Checked

end PromptChart
