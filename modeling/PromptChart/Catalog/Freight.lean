import PromptChart.Catalog.Basic

namespace PromptChart.Catalog

def openColumn (category type id label : String) : Column := ⟨id, label, category, type, false⟩

def adminFigure (id label : String) : Column := ⟨id, label, "financial", "number", true⟩

def freightColumns : List Column :=
  [openColumn "shipment" "number" "load_id" "Load ID",
   openColumn "shipment" "string" "reference_number" "Reference Number",
   openColumn "shipment" "string" "status_name" "Status",
   openColumn "shipment" "string" "mode_name" "Mode",
   openColumn "shipment" "string" "equipment_name" "Equipment Type",
   openColumn "shipment" "date" "pickup_date" "Pickup Date",
   openColumn "shipment" "date" "delivery_date" "Delivery Date",
   openColumn "shipment" "number" "miles" "Miles",
   openColumn "shipment" "number" "weight" "Weight (lbs)",
   openColumn "shipment" "number" "number_of_pallets" "Pallets",
   openColumn "financial" "number" "retail" "Retail (Your Charge)",
   openColumn "financial" "number" "fuel_surcharge" "Fuel Surcharge",
   openColumn "financial" "number" "accessorial_total" "Accessorial Charges",
   adminFigure "cost" "Cost (Carrier Pay)",
   adminFigure "cost_without_tax" "Cost (No Tax)",
   adminFigure "margin" "Margin ($)",
   adminFigure "margin_percent" "Margin (%)",
   adminFigure "linehaul" "Linehaul Cost",
   adminFigure "carrier_total" "Carrier Total",
   adminFigure "target_rate" "Target Rate",
   openColumn "origin" "string" "origin_city" "Origin City",
   openColumn "origin" "string" "origin_state" "Origin State",
   openColumn "destination" "string" "dest_city" "Destination City",
   openColumn "destination" "string" "dest_state" "Destination State",
   openColumn "carrier" "string" "carrier_name" "Carrier Name",
   openColumn "carrier" "string" "scac" "SCAC Code",
   openColumn "products" "string" "description" "Item Description",
   openColumn "products" "string" "item_description" "Product Description",
   openColumn "products" "string" "commodity" "Commodity",
   openColumn "products" "string" "freight_class" "Freight Class",
   openColumn "customer" "string" "customer_name" "Customer Name",
   openColumn "time" "string" "pickup_month" "Pickup Month"]

def freightProduct (label : String) (words shadowedBy : List String) : Product :=
  ⟨label, [.ofWords words], shadowedBy⟩

def freightProducts : List Product :=
  [freightProduct "Drawer System" ["drawer", "system"] [],
   freightProduct "Drawer" ["drawer"] ["Drawer System"],
   freightProduct "CargoGlide" ["cargo", "glide"] [],
   freightProduct "Tool Box" ["tool", "box"] []]

def freight : Catalog where
  version := .int 1
  defaultMetric := "retail"
  defaultDimension := "description"
  textField := "description"
  dateField := "pickup_date"
  tables := [("item", "shipment_item"), ("shipment", "shipment")]
  dimensionAliases :=
    [("product", "description"), ("products", "description"), ("item", "description"),
     ("items", "description"), ("description", "description"), ("category", "description"),
     ("categories", "description"), ("state", "origin_state"), ("states", "origin_state"),
     ("origin", "origin_state"), ("origins", "origin_state"), ("location", "origin_state"),
     ("destination", "dest_state"), ("dest", "dest_state"), ("carrier", "carrier_name"),
     ("carriers", "carrier_name"), ("mode", "mode_name"), ("modes", "mode_name")]
  metricAliases :=
    [("cost", "retail"), ("costs", "retail"), ("price", "retail"), ("prices", "retail"),
     ("retail", "retail"), ("revenue", "retail"), ("charge", "retail"), ("charges", "retail"),
     ("weight", "weight"), ("weights", "weight"), ("miles", "miles"), ("mileage", "miles"),
     ("distance", "miles"), ("shipments", "load_id"), ("shipment", "load_id"),
     ("count", "load_id"), ("volume", "load_id")]
  metricKeywords :=
    ["cost", "price", "retail", "weight", "miles"]
  promptKeywords :=
    ["cost", "price", "retail", "average", "avg", "total", "sum", "count", "charge"]
  breakdownDimensions :=
    ["origin", "state", "destination", "carrier", "mode"]
  products := freightProducts
  fieldMappings :=
    [("item_description", ["product", "description", "productdescription", "itemdescription",
      "item"]),
     ("carrier_name", ["carrier", "carriername"]),
     ("cost", ["cost", "carrierpay", "carriercost"]),
     ("retail", ["retail", "revenue", "charge", "price"]),
     ("origin_state", ["origin", "originstate", "fromstate"]),
     ("dest_state", ["destination", "deststate", "tostate"]),
     ("mode_name", ["mode", "modename", "shipmentmode"]),
     ("pickup_date", ["date", "pickupdate", "shipdate"]),
     ("weight", ["weight", "totalweight"])]
  restrictedFields := ["cost", "margin", "carrier_cost", "profit", "commission"]
  adminTerms := ["cost", "margin", "carrier pay", "linehaul", "profit"]
  columns := freightColumns

end PromptChart.Catalog
