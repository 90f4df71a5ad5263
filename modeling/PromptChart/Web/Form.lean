import PromptChart.Validation.Chart
import PromptChart.Web.Basic

namespace PromptChart

namespace Checked

def textBetween (shortest longest : Nat) (j : Json) : Checked String :=
  (text j).andThen fun s =>
    if s.length < shortest then fail .textTooShort
    else if longest < s.length then fail .textTooLong
    else .valid s

end Checked

namespace Web

open Checked

def promptText : Json → Checked String := textBetween 1 500

structure AskForm where
  prompt : String
  customer : Option Int
  first : Option Date
  last : Option Date
  user : Option String

namespace AskForm

def check (j : Json) : Checked AskForm :=
  AskForm.mk
    <$> required "prompt" promptText j
    <*> optional "customer_id" (nullable whole) none j
    <*> optional "start_date" (nullable date) none j
    <*> optional "end_date" (nullable date) none j
    <*> optional "user_id" (nullable text) none j

def range (f : AskForm) : Checked (Option DateRange) :=
  match f.first, f.last with
  | some first, some last => (DateRange.of first last).map some
  | _, _ => .valid none

end AskForm

def checkPrompt (j : Json) : Checked String := required "prompt" promptText j

def Call.carried {α : Type} (check : Json → Checked α) (call : Call) : Checked α :=
  under "body" (match call.body with
    | none => fail .missing
    | some (.object members) => check (.object members)
    | some _ => fail .notBody)

/-- The parameters of the query of a call; of two with one name the later one counts. -/
def Call.parameters {α : Type} (check : Json → Checked α) (call : Call) : Checked α :=
  under "query" (check (.ofMembers (call.query.map fun (k, v) => (k, .text v))))

def customer (j : Json) : Checked Scope :=
  Scope.mk <$> optional "customer_id" (nullable whole) none j

inductive FieldKind where
  | dimension
  | metric
  deriving DecidableEq, Repr

namespace FieldKind

def name : FieldKind → String
  | .dimension => "dimension"
  | .metric => "metric"

def names : List (String × FieldKind) := [dimension, metric].map fun k => (k.name, k)

end FieldKind

structure TokenForm where
  token : String
  kind : FieldKind
  scope : Scope

def TokenForm.check (j : Json) : Checked TokenForm :=
  TokenForm.mk
    <$> required "token" text j
    <*> optional "kind" (word .notWord FieldKind.names) .dimension j
    <*> customer j

end Web

end PromptChart
