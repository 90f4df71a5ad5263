import PromptChart.Analyst
import PromptChart.Web.Form

namespace PromptChart.Web

abbrev Handler := Analyst → Call → Except Failure Answer

/-- Goes on with what a call carries, or answers all that is wrong with it. -/
def fitting {α : Type} (carried : Checked α) (serve : α → Except Failure Answer) :
    Except Failure Answer :=
  match carried with
  | .valid a => serve a
  | .invalid issues => .ok (.invalid issues)

def health : Handler := fun _ _ => .ok (.ok .healthy)

def ask : Handler := fun a call =>
  fitting (call.carried AskForm.check) fun form =>
    match form.range with
    | .invalid _ => .ok (.unprocessable "start_date must not be after end_date")
    | .valid range => do
      return .ok (.chart form.prompt
        (← (a.ask ⟨form.customer⟩ range form.user form.prompt).chart))

def classify : Handler := fun a call =>
  fitting (call.carried checkPrompt) fun prompt =>
    .ok (.ok (.reading prompt (Prompt.classify a.catalog prompt)))

def vocabulary : Handler := fun a call =>
  fitting (call.parameters customer) fun scope =>
    .ok (.ok (.vocabulary (a.catalog.visibleColumns scope.isAdmin) a.catalog.tables
      (a.catalog.products.map (·.label)) a.catalog.defaultMetric))

def resolve : Handler := fun a call =>
  fitting (call.parameters TokenForm.check) fun form =>
    let id := match form.kind with
      | .metric =>
        some (a.catalog.scopedMetric form.scope.isAdmin (a.catalog.metric form.token))
      | .dimension => a.catalog.dimension? form.token
    .ok (.ok (.field form.token form.kind.name id))

def routes : List (String × String × Handler) :=
  [("/ask", "POST", ask), ("/ask/classify", "POST", classify), ("/catalog", "GET", vocabulary),
   ("/fields/resolve", "GET", resolve), ("/health", "GET", health)]

def answer (a : Analyst) (call : Call) : Except Failure Answer :=
  match routes.lookup call.path with
  | none => .ok .notFound
  | some (method, handler) =>
    if method = call.method then handler a call else .ok .methodNotAllowed

end PromptChart.Web
