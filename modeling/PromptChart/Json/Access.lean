import PromptChart.Json.Display
import PromptChart.Json.Number

namespace PromptChart.Json

def memberOf (key : String) : Json → Except Failure Json
  | .object members => .ok ((members.lookup key).getD .null)
  | _ => .error .noMember

def membersOrNone (j : Json) : Except Failure (List (String × Json)) :=
  match j.present? with
  | none => .ok []
  | some (.object members) => .ok members
  | some _ => .error .noMember

def elementsOrNone (j : Json) : Except Failure (List Json) :=
  match j.present? with
  | none => .ok []
  | some v => v.elements

def elementsAt (key : String) (j : Json) : Except Failure (List Json) :=
  match j.get? key with
  | none => .ok []
  | some v => v.elements

def plainOr (default key : String) (j : Json) : String :=
  match j.get? key with
  | none => default
  | some v => v.plain

def plainAt (key : String) (j : Json) : String :=
  match (j.get key).present? with
  | none => ""
  | some v => v.plain

def entry (key : String) : Json → Except Failure Json
  | .object members =>
    match members.lookup key with
    | some v => .ok v
    | none => .error (.missingKey key)
  | _ => .error .wrongKind

end PromptChart.Json
