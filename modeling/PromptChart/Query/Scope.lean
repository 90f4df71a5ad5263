import PromptChart.Calendar.Date

namespace PromptChart

/-- The customer whose records may be seen. No customer, and customer zero, is the admin. -/
structure Scope where
  customer : Option Int
  deriving DecidableEq, Repr

namespace Scope

def admin : Scope := ⟨none⟩

def isAdmin (s : Scope) : Bool := s.customer.getD 0 == 0

end Scope

/-- A range of days, both ends included. -/
structure DateRange where
  first : Date
  last : Date
  first_le_last : first.le last = true
  deriving DecidableEq, Repr

def DateRange.text (r : DateRange) : String := r.first.text ++ " to " ++ r.last.text

end PromptChart
