import PromptChart.Text.Quoted
import PromptChart.Validation.Issue

namespace PromptChart

/-- How the reasoning service failed. -/
inductive ReasoningFault where
  | timeout
  | server
  | malformed
  | generic
  | other (name : String)
  deriving DecidableEq, Repr

namespace ReasoningFault

def name : ReasoningFault → String
  | .timeout => "timeout"
  | .server => "server"
  | .malformed => "malformed"
  | .generic => "generic"
  | .other name => name

def ofName (name : String) : ReasoningFault :=
  if name = "timeout" then .timeout
  else if name = "server" then .server
  else if name = "malformed" then .malformed
  else if name = "generic" then .generic
  else .other name

/-- The message of a fault: its detail, or its name where there is no detail. -/
def message (fault : ReasoningFault) (detail : String) : String :=
  if detail.isEmpty then fault.name else detail

def userMessage (fault : ReasoningFault) (detail : String) : String :=
  match fault with
  | .timeout => "Request timed out. Try a simpler query or check your connection."
  | .server => "Server error. Please try again in a moment."
  | .malformed => "The analysis service returned an unreadable response. Please try again."
  | _ => if detail.isEmpty then "AI request failed" else detail

end ReasoningFault

inductive Failure where
  | invalid (issues : List Issue)
  | query (table detail : String)
  | reasoning (fault : ReasoningFault) (detail : String)
  | database (message : String)
  | notNumber (text : String)
  | tooLarge
  | divisionByZero
  | wrongKind
  | noMember
  | missingKey (key : String)
  /-- A pattern that is no regular expression, or none that can be read. -/
  | badPattern (source : String)
  /-- What stands for an aggregation is none; it is shown as in messages. -/
  | unknownAggregation (shown : String)
  | unknownBackend (name : String)
  | unknownProvider (name : String)
  deriving DecidableEq, Repr

def Failure.message : Failure → String
  | .invalid issues => toString issues.length ++ " invalid values"
  | .query table detail => "Aggregate query on '" ++ table ++ "' failed: " ++ detail
  | .reasoning fault detail => fault.message detail
  | .database message => message
  | .notNumber text => "could not convert string to float: " ++ Text.quoted text
  | .tooLarge => "int too large to convert to float"
  | .divisionByZero => "float division by zero"
  | .wrongKind => "wrong kind of value"
  | .noMember => "no such member"
  | .missingKey key => Text.quoted key
  | .badPattern source => "bad pattern " ++ Text.quoted source
  | .unknownAggregation shown => shown ++ " is not a valid AggregationKind"
  | .unknownBackend name =>
    "Store backend '" ++ name ++ "' is not supported.  Choose from: memory, rpc, sql"
  | .unknownProvider name =>
    "Reasoning provider '" ++ name ++ "' is not supported.  Choose from: mock, http"

end PromptChart
