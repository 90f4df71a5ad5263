import PromptChart.Calendar.Date
import PromptChart.Decimal.Numeral
import PromptChart.Entries
import PromptChart.Failure
import PromptChart.Json.Basic

namespace PromptChart.Sql

/-- A time of day on a date, to the microsecond; `zone` is its offset as it is written. -/
structure Timestamp where
  date : Date
  hour : Nat
  minute : Nat
  second : Nat
  micro : Nat
  zone : String
  deriving DecidableEq, Repr

namespace Timestamp

/-- Date and time with a T between them; microseconds only where there are any. -/
def text (t : Timestamp) : String :=
  let clock := Date.padded 2 t.hour ++ ':' :: Date.padded 2 t.minute ++
    ':' :: Date.padded 2 t.second
  let micro := if t.micro = 0 then [] else '.' :: Date.padded 6 t.micro
  t.date.text ++ "T" ++ String.ofList (clock ++ micro) ++ t.zone

end Timestamp

/-- A length of time: days and hours, minutes, seconds, and microseconds only where there are
any. -/
def durationText (micros : Int) : String :=
  let day : Int := 86400000000
  let days := micros / day
  let rest := (micros % day).toNat
  let seconds := rest / 1000000
  let dayText :=
    if days = 0 then ""
    else toString days ++ (if days.natAbs = 1 then " day, " else " days, ")
  let clock := Decimal.numeral (seconds / 3600) ++ ':' :: Date.padded 2 (seconds / 60 % 60) ++
    ':' :: Date.padded 2 (seconds % 60)
  let micro := if rest % 1000000 = 0 then [] else '.' :: Date.padded 6 (rest % 1000000)
  dayText ++ String.ofList (clock ++ micro)

inductive Value where
  | plain (j : Json)
  | decimal (x : Binary64)
  | date (d : Date)
  | timestamp (t : Timestamp)
  | duration (micros : Int)
  deriving Repr

def Value.toJson : Value → Json
  | .plain j => j
  | .decimal x => .float x
  | .date d => .text d.text
  | .timestamp t => .text t.text
  | .duration micros => .text (durationText micros)

structure Table where
  columns : List String
  rows : List (List Value)
  deriving Repr

/-- A statement and its parameters, if it has a place for them. -/
structure Statement where
  text : String
  parameters : Option (List (String × Json))
  deriving Repr

/-- A database that is asked over a connection. It answers the request for one, and then every
statement after those sent before it with a table; instead of either there may be a message. -/
structure Server where
  connect : Except String Unit
  answer (sent : List Statement) (s : Statement) : Except String Table

/-- How a database that has no memory answers a statement: a table, or a message. -/
abbrev Database := String → Except String Table

def Database.server (db : Database) : Server where
  connect := .ok ()
  answer _ s := db s.text

inductive Event where
  | connect
  | execute (statement : String) (parameters : Option (List (String × Json)))
  | close
  deriving Repr

def Statement.event (s : Statement) : Event := .execute s.text s.parameters

def readOnlyMode : Statement := ⟨"SET TRANSACTION READ ONLY", none⟩

def timeLimit (timeoutMs : Int) : Statement :=
  ⟨"SET LOCAL statement_timeout = " ++ toString timeoutMs, none⟩

def script (timeoutMs : Int) (query : String) (parameters : List (String × Json)) :
    List Statement :=
  [readOnlyMode, timeLimit timeoutMs, ⟨query, some parameters⟩]

/-- Statements one after another, up to the first that fails, and what came of the last one.
Those in `sent` were sent before. -/
def Server.runAll (server : Server) (sent : List Statement) :
    List Statement → List Event × Except Failure Table
  | [] => ([], .ok ⟨[], []⟩)
  | s :: rest =>
    match server.answer sent s, rest with
    | .error message, _ => ([s.event], .error (.database message))
    | .ok table, [] => ([s.event], .ok table)
    | .ok _, next :: more =>
      let (events, result) := server.runAll (sent ++ [s]) (next :: more)
      (s.event :: events, result)

/-- The rows of a table by column; what is too much on either side is left out. -/
def Table.records (t : Table) : List Json :=
  t.rows.map fun row => Json.ofMembers (t.columns.zip (row.map (·.toJson)))

/-- A query in a read-only transaction: the connection is made read-only and given a time
limit before the query is sent, and it is closed whatever happens. -/
def Server.readOnly (server : Server) (timeoutMs : Int) (query : String)
    (parameters : List (String × Json)) : List Event × Except Failure (List Json) :=
  match server.connect with
  | .error message => ([.connect], .error (.database message))
  | .ok () =>
    let (events, result) := server.runAll [] (script timeoutMs query parameters)
    (.connect :: events ++ [.close], result.map (·.records))

def readOnly (db : Database) :
    Int → String → List (String × Json) → List Event × Except Failure (List Json) :=
  db.server.readOnly

def usualTimeout : Int := 10000

end PromptChart.Sql
