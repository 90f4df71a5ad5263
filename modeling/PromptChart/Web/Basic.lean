import PromptChart.Catalog.Basic
import PromptChart.Chart.Basic
import PromptChart.Failure

namespace PromptChart.Web

/-- A call: its method and path, the parameters of its query, and the JSON value that it
carries. -/
structure Call where
  method : String
  path : String
  query : List (String × String)
  body : Option Json

inductive Content where
  | healthy
  | refusal (detail : String)
  | issues (issues : List Issue)
  | chart (prompt : String) (chart : Chart)
  | reading (prompt : String) (intent : Option Intent)
  | vocabulary (columns : List Column) (tables : List (String × String))
      (products : List String) (defaultMetric : String)
  | field (token kind : String) (id : Option String)

def route (intent : Option Intent) : ChartSource := if intent.isSome then .own else .service

structure Answer where
  status : Nat
  content : Content

namespace Answer

def ok (content : Content) : Answer := ⟨200, content⟩

def notFound : Answer := ⟨404, .refusal "Not Found"⟩

def methodNotAllowed : Answer := ⟨405, .refusal "Method Not Allowed"⟩

def invalid (issues : List Issue) : Answer := ⟨422, .issues issues⟩

def unprocessable (detail : String) : Answer := ⟨422, .refusal detail⟩

end Answer

end PromptChart.Web
