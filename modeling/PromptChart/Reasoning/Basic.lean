import PromptChart.Json.Basic

namespace PromptChart

structure ReasoningRequest where
  question : String
  customer : String
  user : Option String
  preferences : List (String × Json)
  deriving Repr

namespace ReasoningRequest

def usualPreferences : List (String × Json) :=
  [("showReasoning", .bool true), ("forceMode", .text "visual")]

def toJson (r : ReasoningRequest) : Json :=
  .object [("question", .text r.question), ("customerId", .text r.customer),
    ("userId", match r.user with
      | some user => .text user
      | none => .null),
    ("conversationHistory", .array []), ("preferences", .object r.preferences)]

end ReasoningRequest

/-- A chart that the service proposes: what it groups by, its metric, and its data as they
came. -/
structure Visualization where
  type : String
  title : String
  groupBy : Option String
  metric : Option String
  data : List (String × Json)
  deriving Repr

def Visualization.toJson (v : Visualization) : Json :=
  let nullable : Option String → Json
    | some s => .text s
    | none => .null
  .object [("type", .text v.type), ("title", .text v.title),
    ("config", .object [("groupBy", nullable v.groupBy), ("metric", nullable v.metric)]),
    ("data", .object v.data)]

structure ReasoningResponse where
  success : Bool
  visualizations : List Visualization
  reasoning : List Json
  error : Option String
  deriving Repr

end PromptChart
