import PromptChart.Json.Writer
import PromptChart.Query.Aggregation
import PromptChart.Regex.Search
import PromptChart.Text.Case
import PromptChart.Text.Search

namespace PromptChart.Trace

open Regex (caseless inOrder gap space plus opt)
open Text (contains isBlank sameLetter)

/-- What one field of a step has to say: a text says itself, any other value its JSON text. -/
def saying : Json → List String
  | .null => []
  | .text s => [s]
  | j => [j.write]

/-- The text of a step: the step itself, or what an object says under three keys. -/
def stepText : Json → String
  | .text s => s
  | .object members =>
    let step := Json.object members
    let input := match step.get "input" with
      | .null => []
      | j => [j.write]
    Text.join "\n" (saying (step.get "content") ++ saying (step.get "text") ++ input)
  | _ => ""

def aggregation? (lowered : String) : Option Aggregation :=
  if contains lowered "avg(" || contains lowered "average" then some .avg
  else if contains lowered "sum(" then some .sum
  else if contains lowered "count(" then some .count
  else none

def quotedTerm : Regex :=
  inOrder [.one (· == '"'), .group 1 (plus (· != '"')), .one (· == '"')]

def lookUp : Regex :=
  inOrder [caseless "ILIKE", space, .one (· == '\''), .one (· == '%'),
    .group 1 (plus fun c => c != '%' && c != '\''), .one (· == '%'), .one (· == '\'')]

def isQuote (c : Char) : Bool := c == '"' || c == '\''

def isLatin (c : Char) : Bool := "abcdefghijklmnopqrstuvwxyz".toList.any (sameLetter · c)

def startsField (c : Char) : Bool := isLatin c || c == '_'

def continuesFields (c : Char) : Bool :=
  startsField c || ('0' ≤ c && c ≤ '9') || c == ',' || isBlank c

/-- The fields that a step groups by, after an equals sign or a colon. -/
def groupedBy : Regex :=
  inOrder [opt (.one isQuote), caseless "group", opt (.one (· == '_')), caseless "by",
    opt (.one isQuote), gap, .one (fun c => c == ':' || c == '='), gap, opt (.one isQuote),
    .group 1 (.seq (.one startsField) (.many continuesFields))]

def lookedUp (text : String) : List String :=
  ((lookUp.findAll text).map fun m => Text.stripped (m.group 1)).filter (!·.isEmpty)

def firstField? (text : String) : Option String :=
  (groupedBy.search text).map fun m =>
    Text.stripped (String.ofList ((m.group 1).toList.takeWhile (· ≠ ',')))

end PromptChart.Trace
