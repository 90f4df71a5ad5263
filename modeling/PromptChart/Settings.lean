import PromptChart.Text.Case
import PromptChart.Validation.Scalar

namespace PromptChart

structure Settings where
  storeBackend : String
  serviceUrl : String
  serviceKey : String
  aggregateCall : String
  databaseUser : String
  databasePassword : String
  databaseName : String
  databaseHost : String
  databasePort : Int
  reasoningProvider : String
  reasoningFunction : String
  /-- How many round trips may be under way at once; at least one may. -/
  concurrency : Int
  /-- How many groups a comparison, or a breakdown of product terms, asks for per term. -/
  categoryLimit : Int
  breakdownLimit : Int
  timeoutSeconds : Binary64
  apiHost : String
  apiPort : Int
  logLevel : String
  deriving DecidableEq, Repr

inductive Backend where
  | memory
  | remote
  | sql
  deriving DecidableEq, Repr

namespace Settings

def usual : Settings where
  storeBackend := "memory"
  serviceUrl := ""
  serviceKey := ""
  aggregateCall := "mcp_aggregate"
  databaseUser := "askchart"
  databasePassword := "askchart_pw"
  databaseName := "analytics"
  databaseHost := "localhost"
  databasePort := 5432
  reasoningProvider := "mock"
  reasoningFunction := "investigate"
  concurrency := 4
  categoryLimit := 100
  breakdownLimit := 200
  timeoutSeconds := 30
  apiHost := "127.0.0.1"
  apiPort := 8000
  logLevel := "INFO"

def keys : List String :=
  ["store_backend", "supabase_url", "supabase_key", "aggregate_rpc", "postgres_user",
   "postgres_password", "postgres_db", "postgres_host", "postgres_port", "reasoning_provider",
   "reasoning_function", "query_max_concurrency", "category_limit", "breakdown_limit",
   "http_timeout_seconds", "api_host", "api_port", "log_level"]

def databaseUrl (s : Settings) : String :=
  "postgresql://" ++ s.databaseUser ++ ":" ++ s.databasePassword ++ "@" ++ s.databaseHost ++
    ":" ++ toString s.databasePort ++ "/" ++ s.databaseName

def serviceRoot (s : Settings) : String :=
  String.ofList (s.serviceUrl.toList.reverse.dropWhile (· = '/')).reverse

def aggregateUrl (s : Settings) : String := s.serviceRoot ++ "/rest/v1/rpc/" ++ s.aggregateCall

def reasoningUrl (s : Settings) : String :=
  s.serviceRoot ++ "/functions/v1/" ++ s.reasoningFunction

def backend (s : Settings) : Except Failure Backend :=
  let name := Text.lower s.storeBackend
  if name = "memory" then .ok .memory
  else if name = "rpc" then .ok .remote
  else if name = "sql" then .ok .sql
  else .error (.unknownBackend name)

open Checked in
/-- Settings out of named values; what is not named has its usual value. -/
def checkFields (j : Json) : Checked Settings :=
  Settings.mk
    <$> optional "store_backend" text usual.storeBackend j
    <*> optional "supabase_url" text usual.serviceUrl j
    <*> optional "supabase_key" text usual.serviceKey j
    <*> optional "aggregate_rpc" text usual.aggregateCall j
    <*> optional "postgres_user" text usual.databaseUser j
    <*> optional "postgres_password" text usual.databasePassword j
    <*> optional "postgres_db" text usual.databaseName j
    <*> optional "postgres_host" text usual.databaseHost j
    <*> optional "postgres_port" whole usual.databasePort j
    <*> optional "reasoning_provider" text usual.reasoningProvider j
    <*> optional "reasoning_function" text usual.reasoningFunction j
    <*> optional "query_max_concurrency" whole usual.concurrency j
    <*> optional "category_limit" whole usual.categoryLimit j
    <*> optional "breakdown_limit" whole usual.breakdownLimit j
    <*> optional "http_timeout_seconds" real usual.timeoutSeconds j
    <*> optional "api_host" text usual.apiHost j
    <*> optional "api_port" whole usual.apiPort j
    <*> optional "log_level" text usual.logLevel j

def checkKeys (members : List (String × Json)) : Checked Unit :=
  match members.filter fun m => !keys.contains m.1 with
  | [] => .valid ()
  | others => .invalid (others.map fun m => ⟨[m.1], .unexpected⟩)

/-- The variables of an environment that name settings, in any case; of two that differ in case
only the later one counts. -/
def fromEnvironment (named : List (String × String)) : List (String × Json) :=
  let lowered := Entries.ofList (named.map fun v => (Text.lower v.1, v.2))
  (lowered.filter fun v => keys.contains v.1).map fun v => (v.1, .text v.2)

def read (given : List (String × Json)) (environment : List (String × String)) :
    Checked Settings :=
  let merged := given.foldl (fun acc m => Entries.put m.1 m.2 acc) (fromEnvironment environment)
  (fun s _ => s) <$> checkFields (.object merged) <*> checkKeys given

end Settings

end PromptChart
