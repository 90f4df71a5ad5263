import PromptChart.Json.Number
import PromptChart.Json.Reader
import PromptChart.Validation.Query

namespace PromptChart.Payload

/-- A payload with its layers of text taken off, as many as `layers` at most. -/
def unwrap (table : String) : Nat → Json → Except Failure Json
  | layers + 1, .text s =>
    match Json.read s with
    | .ok j => unwrap table layers j
    | .error e => .error (.query table ("invalid JSON payload: " ++ e.message))
  | _, j => .ok j

def rawRows (table : String) : Json → Except Failure (List Json)
  | .null => .ok []
  | .array rows => .ok rows
  | .object members =>
    match (Json.get "error" (.object members)).present? with
    | some e => .error (.query table e.plain)
    | none =>
      match (Json.get "data" (.object members)).present? with
      | some data => data.elements
      | none => .ok []
  | j => .error (.query table ("unexpected payload type " ++ j.kindName))

def checkRows (table : String) (raw : List Json) : Except Failure (List PartialRow) :=
  raw.mapM fun j =>
    match PartialRow.check j with
    | .valid row => .ok row
    | .invalid issues =>
      .error (.query table ("malformed rows: " ++ toString issues.length ++ " error(s)"))

/-- What a store sends back is a list of rows, or an object with an error or with data, and may
be wrapped in one or two layers of JSON text. -/
def rows (table : String) (payload : Json) : Except Failure (List PartialRow) := do
  checkRows table (← rawRows table (← unwrap table 2 payload))

end PromptChart.Payload
