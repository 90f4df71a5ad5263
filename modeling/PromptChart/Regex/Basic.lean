import PromptChart.Text.Case
import PromptChart.Text.Class
import PromptChart.Text.Word

namespace PromptChart

inductive Regex where
  | empty
  | one (accepts : Char → Bool)
  /-- As many characters of a class as possible, or fewer. -/
  | many (accepts : Char → Bool)
  | seq (first second : Regex)
  | alt (first second : Regex)
  | group (index : Nat) (body : Regex)
  /-- A place between a word character and another one. -/
  | boundary

namespace Regex

/-- A place in a text: the characters before it, the nearest first, and those after it. -/
structure Cursor where
  before : List Char
  after : List Char
  deriving DecidableEq, Repr

def Cursor.textTo (start stop : Cursor) : List Char :=
  start.after.take (start.after.length - stop.after.length)

def Cursor.atBoundary (c : Cursor) : Bool :=
  c.before.head?.any Text.isWord != c.after.head?.any Text.isWord

/-- A numbered stretch of the text. -/
structure Capture where
  index : Nat
  start : Cursor
  stop : Cursor
  deriving DecidableEq, Repr

/-- A place, and what has been captured on the way to it, the latest first. -/
structure State where
  cursor : Cursor
  captures : List Capture
  deriving DecidableEq, Repr

/-- The ends of runs of a class from a place on, added to `shorter`: the longest run comes
first. -/
def runs (accepts : Char → Bool) (before : List Char) (shorter : List Cursor) :
    List Char → List Cursor
  | [] => ⟨before, []⟩ :: shorter
  | c :: rest =>
    if accepts c then runs accepts (c :: before) (⟨before, c :: rest⟩ :: shorter) rest
    else ⟨before, c :: rest⟩ :: shorter

/-- The states in which an expression can end, the preferred one first. This is the meaning of
an expression. -/
def ends : Regex → State → List State
  | .empty, s => [s]
  | .one accepts, s =>
    match s.cursor.after with
    | [] => []
    | c :: rest =>
      if accepts c then [{ s with cursor := ⟨c :: s.cursor.before, rest⟩ }] else []
  | .many accepts, s =>
    (runs accepts s.cursor.before [] s.cursor.after).map ({ s with cursor := · })
  | .seq first second, s => (first.ends s).flatMap second.ends
  | .alt first second, s => first.ends s ++ second.ends s
  | .group index body, s =>
    (body.ends s).map fun e =>
      { e with captures := ⟨index, s.cursor, e.cursor⟩ :: e.captures }
  | .boundary, s => if s.cursor.atBoundary then [s] else []

def plus (accepts : Char → Bool) : Regex := .seq (.one accepts) (.many accepts)

def opt (r : Regex) : Regex := .alt r .empty

/-- Expressions put together from the last to the first; no expression at all is the empty
text. -/
def chain (combine : Regex → Regex → Regex) : List Regex → Regex
  | [] => .empty
  | [r] => r
  | r :: rest => combine r (chain combine rest)

def inOrder : List Regex → Regex := chain .seq

def firstOf : List Regex → Regex := chain .alt

def exactly (s : String) : Regex := inOrder (s.toList.map fun c => .one (· == c))

def caseless (s : String) : Regex := inOrder (s.toList.map fun c => .one (Text.sameLetter c))

def gap : Regex := .many Text.isBlank

def space : Regex := plus Text.isBlank

def word : Regex := plus Text.isWord

end Regex

end PromptChart
