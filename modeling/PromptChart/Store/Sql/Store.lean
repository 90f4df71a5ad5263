import PromptChart.Store.Payload
import PromptChart.Store.Sql.Query
import PromptChart.Store.Sql.Transaction

namespace PromptChart.Sql

def queryFailure (table : String) : Failure → Failure
  | .database message => .query table ("SQL execution failed: " ++ message)
  | f => f

/-- What happens on the connection for a request, and the rows that come back. A request that
cannot be compiled never reaches the database. -/
def Server.aggregate (c : Catalog) (server : Server) (timeoutMs : Int) (request : Request)
    (scope : Scope) : List Event × Except Failure (List PartialRow) :=
  match compile c request scope with
  | .error f => ([], .error f)
  | .ok (query, parameters) =>
    let (events, result) := server.readOnly timeoutMs query.text parameters
    (events, do
      let records ← result.mapError (queryFailure request.table)
      Payload.rows request.table (.object [("data", .array records)]))

def aggregate (c : Catalog) (db : Database) :
    Int → Request → Scope → List Event × Except Failure (List PartialRow) :=
  Server.aggregate c db.server

end PromptChart.Sql
