import PromptChart.Arithmetic
import PromptChart.Entries
import PromptChart.Query.Aggregation
import PromptChart.Query.Request

namespace PromptChart

/-- What is known of the rows with one key, whatever batch they came from. An average weights
every value by its count; the plain mean stands in for it where no count is positive. -/
structure Cell (ν : Type := Binary64) where
  total : ν
  count : Int
  plainTotal : ν
  plainCount : Nat
  seen : Bool
  deriving DecidableEq, Repr

namespace Cell

variable {ν : Type} [Arithmetic ν]

def empty : Cell ν := ⟨Arithmetic.ofInt 0, 0, Arithmetic.ofInt 0, 0, false⟩

def addWeighted (cell : Cell ν) (value : ν) (count : Int) : Except Failure (Cell ν) := do
  let plain := { cell with
    plainTotal := cell.plainTotal + value, plainCount := cell.plainCount + 1, seen := true }
  if 0 < count then
    return { plain with
      total := cell.total + value * (← Arithmetic.ofInt? count), count := cell.count + count }
  else return plain

/-- A value taken in by an operation on totals; the first value is kept as it is. -/
def addBy (op : ν → ν → ν) (cell : Cell ν) (value : ν) (count : Int) : Cell ν :=
  { cell with
    total := if cell.seen then op cell.total value else value
    count := cell.count + count, seen := true }

/-- A cell after one more row. A value is there unless rows are counted, which does not need
it. -/
def add (kind : Aggregation) (cell : Cell ν) (value : ν) (count : Int) :
    Except Failure (Cell ν) :=
  match kind with
  | .avg => cell.addWeighted value count
  | .sum => .ok { cell with
      total := cell.total + value, count := cell.count + count, seen := true }
  | .count => do
    return { cell with
      total := cell.total + (← Arithmetic.ofInt? count), count := cell.count + count,
        seen := true }
  | .min => .ok (cell.addBy Arithmetic.min value count)
  | .max => .ok (cell.addBy Arithmetic.max value count)

def value (kind : Aggregation) (cell : Cell ν) : Except Failure ν :=
  match kind with
  | .avg =>
    if 0 < cell.count then (Arithmetic.ofInt? cell.count).map (cell.total / ·)
    else if cell.plainCount = 0 then .error .divisionByZero
    else .ok (cell.plainTotal / Arithmetic.ofInt cell.plainCount)
  | _ => .ok cell.total

end Cell

def unknownGroup : String := "Unknown"

namespace PartialRow

variable {ν : Type}

def nonempty? (name : Option String) : Option String := name.filter (!·.isEmpty)

def labelKey (r : PartialRow ν) : String :=
  ((nonempty? r.label).or (nonempty? r.primary)).getD unknownGroup

def pairKey (r : PartialRow ν) : String × String :=
  ((nonempty? r.primary).getD unknownGroup, (nonempty? r.secondary).getD unknownGroup)

end PartialRow

/-- The cells of a merge in the order in which their keys first came. -/
structure Merger (κ : Type) (ν : Type := Binary64) where
  kind : Aggregation
  cells : Entries κ (Cell ν)
  deriving DecidableEq, Repr

namespace Merger

variable {κ ν : Type} [DecidableEq κ] [Arithmetic ν]

def start (kind : Aggregation) : Merger κ ν := ⟨kind, []⟩

/-- A row without a value carries nothing, unless rows are counted. -/
def carries (kind : Aggregation) (row : PartialRow ν) : Bool :=
  row.value.isSome || kind = .count

/-- One row taken in. A row that cannot be added still leaves its cell behind. -/
def addRow (key : PartialRow ν → κ) (m : Merger κ ν) (row : PartialRow ν) :
    Merger κ ν × Option Failure :=
  if carries m.kind row then
    let k := key row
    let cell := (m.cells.get? k).getD .empty
    match cell.add m.kind (row.value.getD (Arithmetic.ofInt 0)) row.count with
    | .ok cell => ({ m with cells := m.cells.put k cell }, none)
    | .error f => ({ m with cells := m.cells.put k cell }, some f)
  else (m, none)

/-- A batch taken in, up to the first row that cannot be added. -/
def addBatch (key : PartialRow ν → κ) (m : Merger κ ν) :
    List (PartialRow ν) → Merger κ ν × Option Failure
  | [] => (m, none)
  | row :: rest =>
    match m.addRow key row with
    | (m, none) => addBatch key m rest
    | (m, some f) => (m, some f)

def takeBatch (key : PartialRow ν → κ) (m : Merger κ ν) (batch : List (PartialRow ν)) :
    Except Failure (Merger κ ν) :=
  match m.addBatch key batch with
  | (m, none) => .ok m
  | (_, some f) => .error f

def addBatches (key : PartialRow ν → κ) (m : Merger κ ν)
    (batches : List (List (PartialRow ν))) : Except Failure (Merger κ ν) :=
  batches.foldlM (takeBatch key) m

def result (m : Merger κ ν) : Except Failure (Entries κ ν) :=
  m.cells.mapM fun (k, cell) => do return (k, Arithmetic.roundCents (← cell.value m.kind))

end Merger

def mergeRows {κ ν : Type} [DecidableEq κ] [Arithmetic ν] (kind : Aggregation)
    (key : PartialRow ν → κ) (batches : List (List (PartialRow ν))) :
    Except Failure (Entries κ ν) := do
  ((← (Merger.start kind).addBatches key batches)).result

end PromptChart
