import PromptChart.Query.Request
import PromptChart.Remote.Post
import PromptChart.Settings
import PromptChart.Store.Payload

namespace PromptChart.RemoteStore

def body (c : Catalog) (request : Request) (scope : Scope) : Json :=
  .object [("p_table_name", .text request.table),
    ("p_customer_id", .int (scope.customer.getD 0)), ("p_is_admin", .bool scope.isAdmin),
    ("p_group_by", .text request.grouping.text), ("p_metric", .text request.metric),
    ("p_aggregation", .text request.aggregation.name),
    ("p_filters", .array ((scopedFilters c scope request.filters).map (·.toJson))),
    ("p_limit", .int request.limit)]

/-- The message for a request; a token of the user goes before the key of the service. -/
def post (c : Catalog) (settings : Settings) (token : Option String) (request : Request)
    (scope : Scope) : Post :=
  let token := (token.filter (!·.isEmpty)).getD settings.serviceKey
  ⟨settings.aggregateUrl, "Bearer " ++ token, some settings.serviceKey, body c request scope⟩

def rows (table : String) : Reply → Except Failure (List PartialRow)
  | .timeout message | .unreachable message =>
    .error (.query table ("transport error: " ++ message))
  | .answered status text =>
    if 400 ≤ status then
      .error (.query table
        ("HTTP " ++ toString status ++ ": " ++ String.ofList (text.toList.take 200)))
    else Payload.rows table (.text text)

def aggregate (c : Catalog) (settings : Settings) (token : Option String) (server : Server)
    (request : Request) (scope : Scope) : List Post × Except Failure (List PartialRow) :=
  if settings.serviceUrl.isEmpty then ([], .error (.query request.table missingAddress))
  else
    let message := post c settings token request scope
    ([message], rows request.table (server message))

end PromptChart.RemoteStore
