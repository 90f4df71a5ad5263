import PromptChart.Catalog.Freight
import PromptChart.Chart.Material
import PromptChart.Execute.Run
import PromptChart.Prompt.Classify
import PromptChart.Reasoning.Question
import PromptChart.Reasoning.Service

namespace PromptChart

/-- What prompts are answered with. -/
structure Analyst where
  catalog : Catalog
  settings : Settings
  store : Store
  reasoner : Reasoner

/-- What was asked of the store and of the reasoning service for a prompt, and the chart that
came of it. -/
structure Inquiry where
  requests : List Request
  questions : List ReasoningRequest
  chart : Except Failure Chart

namespace Inquiry

def ofRun (r : Run Chart) : Inquiry := ⟨r.requests, [], r.result⟩

end Inquiry

def Chart.failed (source : ChartSource) (message : String) (reasoning : List Json) : Chart :=
  { status := .error, source, message, reasoning }

def Chart.emptied (message : String) (chart : Chart) : Chart :=
  { chart with status := .empty, message }

namespace Analyst

def comparedMetric : String := "cost"

/-- A comparison of products: an admin compares their cost, a customer what the default metric
says. -/
def compare (a : Analyst) (scope : Scope) (range : Option DateRange)
    (x : Comparison) : Run Chart :=
  let metric := a.catalog.scopedMetric scope.isAdmin comparedMetric
  (x.run a.catalog a.settings a.store scope range metric).map fun points =>
    let chart := x.chart a.catalog metric points
    if points.isEmpty then chart.emptied (emptyMessage x.terms range productData) else chart

def rescope (a : Analyst) (scope : Scope) (b : Breakdown) : Breakdown :=
  { b with metric := a.catalog.scopedMetric scope.isAdmin b.metric }

def breakdownData (b : Breakdown) : String :=
  b.metric ++ " data by " ++ b.primary ++ " and " ++ b.secondary

def breakDown (a : Analyst) (scope : Scope) (range : Option DateRange)
    (b : Breakdown) : Run Chart :=
  let b := a.rescope scope b
  let run := b.run a.catalog a.settings a.store scope range
  ⟨run.requests,
    match run.result with
    | .ok data =>
      let chart := b.chart a.catalog data
      .ok (if data.rows.isEmpty then
          chart.emptied (emptyMessage b.terms range (breakdownData b))
        else chart)
    | .error (.query table detail) => .ok (.failed .own (Failure.query table detail).message [])
    | .error f => .error f⟩

def drawn (a : Analyst) (scope : Scope) (prompt : String) (response : ReasoningResponse) :
    Except Failure Chart :=
  match response.success, response.visualizations with
  | true, visualization :: _ => do
    let chart ← Material.chart a.catalog scope (.array response.reasoning)
      (.visualization visualization.toJson (.text prompt))
    return if chart.points.isEmpty then
      chart.emptied "No data found for this request. Try rephrasing or widening the date range."
    else chart
  | _, _ =>
    let message :=
      (response.error.filter (!·.isEmpty)).getD "AI could not generate visualization"
    .ok (.failed .service message response.reasoning)

def reasoningRequest (scope : Scope) (user : Option String) (prompt : String) :
    ReasoningRequest where
  question := Question.ofPrompt .freight scope.isAdmin prompt
  customer := toString (scope.customer.getD 0)
  user := user
  preferences := ReasoningRequest.usualPreferences

/-- The reasoning service asked once; a fault gives a chart that says so. -/
def passOn (a : Analyst) (scope : Scope) (user : Option String) (prompt : String) : Inquiry :=
  let request := reasoningRequest scope user prompt
  ⟨[], [request],
    match a.reasoner request with
    | .ok response => a.drawn scope prompt response
    | .error (.reasoning fault detail) => .ok (.failed .service (fault.userMessage detail) [])
    | .error f => .error f⟩

def follow (a : Analyst) (scope : Scope) (range : Option DateRange) : Intent → Run Chart
  | .comparison x => a.compare scope range x
  | .breakdown b => a.breakDown scope range b

/-- A prompt from beginning to end. A prompt that has a reading here is run against the store,
any other one goes to the reasoning service, once; what fails on the way ends in a chart with
a message. -/
def ask (a : Analyst) (scope : Scope) (range : Option DateRange) (user : Option String)
    (prompt : String) : Inquiry :=
  let intent := Prompt.classify a.catalog prompt
  let inquiry := match intent with
    | none => a.passOn scope user prompt
    | some intent => .ofRun (a.follow scope range intent)
  { inquiry with chart := (fun chart => { chart with intent }) <$> inquiry.chart }

end Analyst

end PromptChart
