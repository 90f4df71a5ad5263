import PromptChart.Calendar.Date
import PromptChart.Decimal.Cents
import PromptChart.Demo.Draw
import PromptChart.Entries
import PromptChart.Json.Basic

namespace PromptChart.Demo

def shipmentCount : Nat := 300

def states : List String := ["TX", "CA", "IL", "GA", "OH", "PA", "NY", "FL"]

def carriers : List String :=
  ["Swift Freight", "Old Dominion", "Estes Express", "XPO Logistics", "Saia"]

def modes : List (String × Binary64) :=
  [("LTL", .ofRatio false 55 100), ("FTL", .ofRatio false 25 100),
    ("Partial", .ofRatio false 12 100),
   ("Intermodal", .ofRatio false 8 100)]

def products : List String :=
  ["Drawer System 36in", "Drawer System 48in", "Steel Drawer", "Drawer Insert",
    "CargoGlide 1000",
   "CargoGlide 1500 HD", "Tool Box Standard", "Tool Box XL", "Bed Slide", "Ladder Rack"]

def day (n : Nat) : String :=
  match (Date.of? 2025 1 1).bind (·.addDays? n) with
  | some d => d.text
  | none => ""

def shipment (id : Nat) : Draw (List (String × Json)) := do
  let miles ← Draw.between 80 2400
  let retail :=
    (.ofInt miles *
      (← Draw.uniform (.ofRatio false 18 10) (.ofRatio false 32 10))).roundHundredths
  let cost :=
    (retail * (← Draw.uniform (.ofRatio false 70 100) (.ofRatio false 88 100))).roundHundredths
  let customer ← Draw.item 101 [101, 102, 103]
  let pickup ← Draw.between 0 364
  let origin ← Draw.item "" states
  let destination ← Draw.item "" states
  let carrier ← Draw.item "" carriers
  let mode ← Draw.weighted "" modes
  let weight ← Draw.between 150 18000
  return [("load_id", .int id), ("customer_id", .int customer),
    ("pickup_date", .text (day pickup)), ("origin_state", .text origin),
    ("dest_state", .text destination), ("carrier_name", .text carrier),
    ("mode_name", .text mode), ("miles", .int miles), ("weight", .int weight),
    ("retail", .float retail), ("cost", .float cost),
    ("margin", .float (retail - cost).roundHundredths)]

def items (shipment : List (String × Json)) : Nat → Draw (List Json)
  | 0 => pure []
  | n + 1 => do
    let product ← Draw.item "" products
    return .object (shipment ++ [("description", .text product)]) :: (← items shipment n)

/-- The records of the shipments from a number on: `n` shipments, and all their items. -/
def records (id : Nat) : Nat → Draw (List Json × List Json)
  | 0 => pure ([], [])
  | n + 1 => do
    let s ← shipment id
    let lines ← items s (← Draw.between 1 3)
    let (shipments, others) ← records (id + 1) n
    return (.object s :: shipments, lines ++ others)

def tables (seed : Int) : Entries String (List Json) :=
  let (shipments, items) := ((records 1 shipmentCount).run (Twister.ofSeed seed)).1
  [("shipment", shipments), ("shipment_item", items)]

def usualSeed : Int := 42

end PromptChart.Demo
