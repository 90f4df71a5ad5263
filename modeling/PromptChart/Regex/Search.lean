import PromptChart.Regex.Basic

namespace PromptChart.Regex

/-- A stretch of the text that an expression matches, with its captures. -/
structure Match where
  start : Cursor
  stop : Cursor
  captures : List Capture
  deriving DecidableEq, Repr

def Match.position (m : Match) : Nat := m.start.before.length

def Match.text (m : Match) : String := String.ofList (m.start.textTo m.stop)

def Match.groups (m : Match) : List String :=
  m.captures.reverse.map fun c => String.ofList (c.start.textTo c.stop)

def Match.group (m : Match) (index : Nat) : String :=
  match m.captures.find? (·.index = index) with
  | some c => String.ofList (c.start.textTo c.stop)
  | none => ""

def matchAt (r : Regex) (c : Cursor) : Option Match :=
  (r.ends ⟨c, []⟩).head?.map fun e => ⟨c, e.cursor, e.captures⟩

def searchFrom (r : Regex) (before : List Char) : List Char → Option Match
  | [] => r.matchAt ⟨before, []⟩
  | c :: rest =>
    match r.matchAt ⟨before, c :: rest⟩ with
    | some m => some m
    | none => searchFrom r (c :: before) rest

def search (r : Regex) (text : String) : Option Match := r.searchFrom [] text.toList

def isIn (r : Regex) (text : String) : Bool := (r.search text).isSome

/-- The matches one after another, none of which overlaps the one before; the next `skip`
characters belong to a match already found. Expressions that match the empty text are not meant
here. -/
def matchesFrom (r : Regex) (before : List Char) (skip : Nat) : List Char → List Match
  | [] => []
  | c :: rest =>
    match skip with
    | skip + 1 => matchesFrom r (c :: before) skip rest
    | 0 =>
      match r.matchAt ⟨before, c :: rest⟩ with
      | some m =>
        m :: matchesFrom r (c :: before) ((c :: rest).length - m.stop.after.length - 1) rest
      | none => matchesFrom r (c :: before) 0 rest

def findAll (r : Regex) (text : String) : List Match := r.matchesFrom [] 0 text.toList

end PromptChart.Regex
