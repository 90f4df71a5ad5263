import PromptChart.Json.Reader
import PromptChart.Remote.Post
import PromptChart.Settings
import PromptChart.Text.Class
import PromptChart.Validation.Chart

namespace PromptChart

abbrev Reasoner := ReasoningRequest → Except Failure ReasoningResponse

namespace Reasoning

/-- Who answers: a stand-in that never draws anything, or the service. -/
inductive Provider where
  | mock
  | http
  deriving DecidableEq, Repr

def Provider.ofName (name : String) : Except Failure Provider :=
  if name = "mock" then .ok .mock
  else if name = "http" then .ok .http
  else .error (.unknownProvider name)

/-- The named provider, or the one that the settings name in any case. -/
def provider (settings : Settings) (name : Option String) : Except Failure Provider :=
  Provider.ofName (name.getD (Text.lower settings.reasoningProvider))

def mockResponse : ReasoningResponse where
  success := false
  visualizations := []
  reasoning :=
    [.object [("type", .text "routing"), ("content", .text "mock reasoning provider")]]
  error := some ("AI could not generate visualization. " ++
    "Try a prompt like: \"Average cost for drawer, cargoglide, toolbox\"")

/-- The response that the text of an answer holds. A blank text means that the service gave
up. -/
def readBody (text : String) : Except Failure ReasoningResponse :=
  if text.toList.all Text.isBlank then
    .error (.reasoning .timeout "Unexpected end of JSON input")
  else
    match Json.read text with
    | .error e => .error (.reasoning .malformed ("Invalid JSON: " ++ e.message))
    | .ok j =>
      match ReasoningResponse.check j with
      | .valid response => .ok response
      | .invalid issues =>
        .error (.reasoning .malformed
          ("Unexpected payload: " ++ toString issues.length ++ " error(s)"))

def serverStatuses : List Int := [500, 502, 503, 504]

def readReply : Reply → Except Failure ReasoningResponse
  | .timeout message => .error (.reasoning .timeout message)
  | .unreachable message => .error (.reasoning .generic ("Request failed: " ++ message))
  | .answered status text =>
    if serverStatuses.contains status then .error (.reasoning .server (refused status))
    else if 400 ≤ status then .error (.reasoning .generic (refused status))
    else readBody text
where
  refused (status : Int) : String := "Request failed: " ++ toString status

def post (settings : Settings) (request : ReasoningRequest) : Post :=
  ⟨settings.reasoningUrl, "Bearer " ++ settings.serviceKey, none, request.toJson⟩

def call (settings : Settings) (name : Option String) (server : Server)
    (request : ReasoningRequest) : List Post × Except Failure ReasoningResponse :=
  match provider settings name with
  | .error f => ([], .error f)
  | .ok .mock => ([], .ok mockResponse)
  | .ok .http =>
    if settings.serviceUrl.isEmpty then ([], .error (.reasoning .generic missingAddress))
    else
      let message := post settings request
      ([message], readReply (server message))

end Reasoning

end PromptChart
