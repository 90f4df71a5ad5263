import PromptChart.Execute.FanOut
import PromptChart.Execute.Plan
import PromptChart.Merge.Pivot

namespace PromptChart

/-- What a run asked of its store, and what came of it. -/
structure Run (α : Type) where
  requests : List Request
  result : Except Failure α

namespace Run

variable {α β : Type}

def quiet (result : Except Failure α) : Run α := ⟨[], result⟩

def map (f : α → β) (r : Run α) : Run β := ⟨r.requests, f <$> r.result⟩

end Run

namespace Merger

variable {κ ν : Type} [DecidableEq κ] [Arithmetic ν]

def addNamed (m : Merger κ ν) : List (κ × List (PartialRow ν)) → Except Failure (Merger κ ν)
  | [] => .ok m
  | (k, batch) :: rest => do addNamed (← m.takeBatch (fun _ => k) batch) rest

end Merger

namespace Comparison

variable {ν : Type} [Arithmetic ν]

/-- The points of a comparison: one for every term that has rows, in the order of the terms. -/
def points (x : Comparison) (batches : Entries String (List (PartialRow ν))) :
    Except Failure (List (Point ν)) := do
  let named := x.terms.map fun term => (term, (batches.get? term).getD [])
  let merged ← (← (Merger.start x.aggregation).addNamed named).result
  return x.terms.filterMap fun term => (merged.get? term).map (Point.mk term)

def run (c : Catalog) (s : Settings) (store : Store ν) (scope : Scope)
    (range : Option DateRange) (metric : String) (x : Comparison) : Run (List (Point ν)) :=
  match x.requests c s range metric with
  | .error f => .quiet (.error f)
  | .ok requests =>
    ⟨requests.map (·.2), collect (fun _ request => store request scope) requests >>= x.points⟩

end Comparison

namespace PartialRow

def relabel (term : String) (r : PartialRow) : PartialRow where
  primary := some term
  secondary := some ((nonempty? r.secondary).getD unknownGroup)
  label := none
  value := r.value
  count := if r.count = 0 then 1 else r.count

end PartialRow

namespace Breakdown

def relabelled (b : Breakdown) (batches : Entries String (List PartialRow)) :
    List (List PartialRow) :=
  b.terms.map fun term => ((batches.get? term).getD []).map (.relabel term)

def merge (b : Breakdown) (batches : List (List PartialRow)) : Except Failure Grouped :=
  Pivot.ofMerged batches.flatten <$> mergeRows b.aggregation PartialRow.pairKey batches

/-- The chart data of a plan: rows per term under their terms, or else the rows that have a
primary group. -/
def answer (store : Store) (scope : Scope) (b : Breakdown) : Plan → Except Failure Grouped
  | .perTerm requests => do
    b.merge (b.relabelled (← collect (fun _ request => store request scope) requests))
  | .single request => do
    b.merge [(← store request scope).filter fun r => (PartialRow.nonempty? r.primary).isSome]

def run (c : Catalog) (s : Settings) (store : Store) (scope : Scope) (range : Option DateRange)
    (b : Breakdown) : Run Grouped :=
  match b.plan c s range with
  | .error f => .quiet (.error f)
  | .ok plan => ⟨plan.requests, b.answer store scope plan⟩

end Breakdown

end PromptChart
