import PromptChart.Json.Number
import PromptChart.Regex.Search

namespace PromptChart

/-- A part of a pattern of letters, which match in any case, and gaps, which match any white
space. -/
inductive TermPiece where
  | letter (c : Char)
  | gap
  deriving DecidableEq, Repr

/-- A pattern of a product, as it is written, and the places of a text at which it matches. It
may be any regular expression: whether one matches at a place hangs on the text before and after
the place only. -/
structure TermPattern where
  source : String
  matchesAt : Regex.Cursor → Bool

namespace TermPattern

def positionFrom? (p : TermPattern) (before : List Char) : List Char → Option Nat
  | [] => if p.matchesAt ⟨before, []⟩ then some before.length else none
  | c :: rest =>
    if p.matchesAt ⟨before, c :: rest⟩ then some before.length
    else p.positionFrom? (c :: before) rest

def position? (p : TermPattern) (text : String) : Option Nat := p.positionFrom? [] text.toList

def ofRegex (source : String) (r : Regex) : TermPattern :=
  ⟨source, fun c => (r.matchAt c).isSome⟩

def ofPieces (source : String) (pieces : List TermPiece) : TermPattern :=
  ofRegex source (.inOrder (pieces.map fun
    | .letter c => .one (Text.sameLetter c)
    | .gap => .gap))

/-- Words one after another, with or without white space between them. -/
def ofWords (words : List String) : TermPattern :=
  ofPieces ("\\s*".intercalate words)
    ([TermPiece.gap].intercalate (words.map fun w => w.toList.map .letter))

/-- The pieces of a pattern as it is written: a gap is `\s*`, and signs that mean something else
in a regular expression have to be escaped. Other regular expressions have no pieces. -/
def pieces? : List Char → Option (List TermPiece)
  | [] => some []
  | '\\' :: 's' :: '*' :: rest => (pieces? rest).map (.gap :: ·)
  | '\\' :: c :: rest => if c.isAlphanum then none else (pieces? rest).map (.letter c :: ·)
  | c :: rest => if c ∈ signs then none else (pieces? rest).map (.letter c :: ·)
where
  signs : List Char := ['.', '^', '$', '*', '+', '?', '{', '[', '\\', '|', '(', ')']

def read (source : String) : Except Failure TermPattern :=
  match pieces? source.toList with
  | some pieces => .ok (ofPieces source pieces)
  | none => .error (.badPattern source)

example : read "drawer\\s*system" = .ok (ofWords ["drawer", "system"]) := rfl

end TermPattern

structure Column where
  id : String
  label : String
  category : String
  type : String
  adminOnly : Bool
  deriving DecidableEq, Repr

/-- A product that prompts may name. It is not reported once a product that shadows it has
been. -/
structure Product where
  label : String
  patterns : List TermPattern
  shadowedBy : List String

/-- The earliest place where one of the patterns of a product matches. -/
def Product.position? (p : Product) (text : String) : Option Nat :=
  (p.patterns.filterMap (·.position? text)).min?

structure Catalog where
  version : Json
  defaultMetric : String
  defaultDimension : String
  /-- The field that product terms are looked up in. -/
  textField : String
  dateField : String
  tables : List (String × String)
  dimensionAliases : List (String × String)
  metricAliases : List (String × String)
  /-- Tokens that may stand where a breakdown names a dimension. -/
  metricKeywords : List String
  promptKeywords : List String
  breakdownDimensions : List String
  products : List Product
  fieldMappings : List (String × List String)
  restrictedFields : List String
  adminTerms : List String
  columns : List Column

namespace Catalog

def columnIds (c : Catalog) : List String := c.columns.map (·.id)

def adminOnlyIds (c : Catalog) : List String := (c.columns.filter (·.adminOnly)).map (·.id)

def visibleColumns (c : Catalog) (admin : Bool) : List Column :=
  if admin then c.columns else c.columns.filter (!·.adminOnly)

def table (c : Catalog) (kind : String) : Except Failure String :=
  match c.tables.lookup kind with
  | some name => .ok name
  | none => .error (.missingKey kind)

end Catalog

end PromptChart
