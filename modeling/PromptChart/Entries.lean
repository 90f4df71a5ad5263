namespace PromptChart

abbrev Entries (κ α : Type) := List (κ × α)

namespace Entries

variable {κ α : Type} [DecidableEq κ]

/-- The entries with one set: in place if the key is there, otherwise at the end. -/
def put (key : κ) (value : α) : Entries κ α → Entries κ α
  | [] => [(key, value)]
  | (k, v) :: rest => if k = key then (k, value) :: rest else (k, v) :: put key value rest

def get? (key : κ) : Entries κ α → Option α
  | [] => none
  | (k, v) :: rest => if k = key then some v else get? key rest

def ofList (entries : List (κ × α)) : Entries κ α :=
  entries.foldl (fun acc e => put e.1 e.2 acc) []

end Entries

end PromptChart
