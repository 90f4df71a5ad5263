import PromptChart.Json.Basic
import PromptChart.Text.Quoted

namespace PromptChart.Json

open Text (quoted)

mutual

/-- A value within another one. Integers of more than 4300 digits are not meant: they cannot be
shown. -/
def display : Json → String
  | .null => "None"
  | .bool b => if b then "True" else "False"
  | .int n => toString n
  | .float x => x.text
  | .text s => quoted s
  | .array items => "[" ++ displayItems items ++ "]"
  | .object members => "\x7b" ++ displayMembers members ++ "\x7d"

def displayItems : List Json → String
  | [] => ""
  | [j] => display j
  | j :: rest => display j ++ ", " ++ displayItems rest

def displayMembers : List (String × Json) → String
  | [] => ""
  | [(k, j)] => quoted k ++ ": " ++ display j
  | (k, j) :: rest => quoted k ++ ": " ++ display j ++ ", " ++ displayMembers rest

end

/-- How a value reads inside a message: a text stands for itself, and texts within lists and
objects are quoted. -/
def plain : Json → String
  | .text s => s
  | j => display j

end PromptChart.Json
