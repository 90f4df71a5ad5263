import PromptChart.Json.Basic

namespace PromptChart

structure Post where
  url : String
  authorization : String
  apiKey : Option String
  body : Json
  deriving Repr

/-- What comes of a message: nothing in time, no connection, or a status with a text. -/
inductive Reply where
  | timeout (message : String)
  | unreachable (message : String)
  | answered (status : Int) (body : String)
  deriving DecidableEq, Repr

abbrev Server := Post → Reply

def missingAddress : String :=
  "supabase_url is not set.  Set SUPABASE_URL in your .env file or environment."

end PromptChart
