import PromptChart.Chart.Basic
import PromptChart.Merge.Merger
import PromptChart.Text.Search

namespace PromptChart.Pivot

def nameKey : String := "primaryGroup"

/-- The rows with one more cell: the row of its primary group, new or not, gets the value. -/
def addCell (rows : Entries String GroupedRow) (primary secondary : String) (value : Json) :
    Entries String GroupedRow :=
  let row := (rows.get? primary).getD [(nameKey, .text primary)]
  rows.put primary (Entries.put secondary value row)

def rows (cells : Entries (String × String) Json) : List GroupedRow :=
  (cells.foldl (fun acc cell => addCell acc cell.1.1 cell.1.2 cell.2) []).map (·.2)

def secondaries (cells : Entries (String × String) Json) : List String :=
  (Text.distinct (cells.map (·.1.2))).mergeSort (· ≤ ·)

def ofMerged (raw : List PartialRow) (cells : Entries (String × String) Binary64) : Grouped :=
  let cells := cells.map fun (k, x) => (k, Json.float x)
  ⟨raw, rows cells, secondaries cells⟩

end PromptChart.Pivot
