import PromptChart.Prompt.Keywords

namespace PromptChart.Prompt

open Text (isWord)
open Regex (caseless exactly inOrder firstOf gap space word opt)

/-- What the rules know about a prompt. -/
structure Context where
  lowered : String
  terms : List String
  aggregation : Aggregation
  catalog : Catalog

def Context.of (catalog : Catalog) (lowered : String) : Context :=
  ⟨lowered, Prompt.terms catalog lowered, Prompt.aggregation lowered, catalog⟩

structure Rule where
  name : String
  find : Context → Option Regex.Match
  read : Context → Regex.Match → Option Breakdown

def anyOf (words : List String) : Regex := firstOf (words.map caseless)

def token (index : Nat) : Regex := .group index word

/-- A metric and two dimensions, each with a connector in front. -/
def slots (first second : List String) : List Regex :=
  [token 1, space, anyOf first, space, token 2, space, anyOf second, space, token 3]

def aggregateVerb : Regex :=
  inOrder ([anyOf ["average", "avg", "total", "sum", "count", "show", "get"], space] ++
    slots ["by", "per", "for"] ["by", "and", "per", "grouped by", "for each", "&"])

def metricByPair : Regex :=
  inOrder (slots ["per", "by", "for"] ["by", "and", "per", "grouped by", "&"])

def breakdownOf : Regex :=
  inOrder ([caseless "breakdown", space, caseless "of", space] ++
    slots ["by"] ["and", "&", "by"])

def groupedBy : Regex :=
  inOrder [token 1, space, caseless "by", space, token 2, space, caseless "grouped", space,
    caseless "by", space, token 3]

def byPair : Regex :=
  inOrder [.boundary, caseless "by", space, token 1, space, anyOf ["and", "&"], space, token 2]

def listedDimension (c : Catalog) : Regex :=
  .group 1 (firstOf (c.breakdownDimensions.map exactly))

def dimensionPhrases (c : Catalog) : List Regex :=
  [inOrder [.boundary,
     firstOf
       [exactly "by", exactly "per",
        inOrder [exactly "split", gap, opt (firstOf [exactly "up", exactly "out"]), gap,
          exactly "by"],
        inOrder [exactly "broke", opt (exactly "n"), gap,
          firstOf [exactly "down", exactly "out"], gap, exactly "by"],
        inOrder [exactly "grouped", gap, exactly "by"],
        inOrder [exactly "also", gap, exactly "by"],
        inOrder [exactly "and", gap, firstOf [exactly "by", exactly "per"]],
        inOrder [exactly "as", gap, exactly "well", gap,
          opt (firstOf [exactly "as", exactly "by"])]],
     space, listedDimension c],
   inOrder [.boundary, listedDimension c, gap,
     firstOf [inOrder [exactly "as", gap, exactly "well"], exactly "too", exactly "also"],
     .boundary],
   inOrder [.boundary, exactly "for", gap, exactly "each", space, listedDimension c]]

def Context.breakdown? (ctx : Context) (primary secondary metric : String) :
    Option Breakdown := do
  let primary ← ctx.catalog.dimension? primary
  let secondary ← ctx.catalog.dimension? secondary
  return ⟨primary, secondary, metric, ctx.aggregation, ctx.terms⟩

/-- Does a token name a dimension, or a metric that may stand for one? -/
def Context.recognises (ctx : Context) (token : String) : Bool :=
  ctx.catalog.isDimensionAlias token || ctx.catalog.isMetricKeyword token

/-- Metric, primary and secondary token; one of the two dimensions has to be recognised. -/
def readSlots (ctx : Context) (m : Regex.Match) : Option Breakdown :=
  if ctx.recognises (m.group 2) || ctx.recognises (m.group 3) then
    ctx.breakdown? (m.group 2) (m.group 3) (ctx.catalog.metric (m.group 1))
  else none

def readListed (ctx : Context) (m : Regex.Match) : Option Breakdown :=
  (ctx.catalog.dimension? (m.group 1)).map fun secondary =>
    ⟨ctx.catalog.defaultDimension, secondary, hintedMetric ctx.catalog ctx.lowered,
      ctx.aggregation, ctx.terms⟩

def readPair (ctx : Context) (m : Regex.Match) : Option Breakdown :=
  if ctx.catalog.isDimensionAlias (m.group 1) || ctx.catalog.isDimensionAlias (m.group 2) then
    ctx.breakdown? (m.group 1) (m.group 2) (hintedMetric ctx.catalog ctx.lowered)
  else none

/-- A prompt with a list of products and a number to ask for: the first phrase that it has. -/
def findListed (ctx : Context) : Option Regex.Match :=
  if ctx.terms.length < 2 || !hasMetricKeyword ctx.catalog ctx.lowered then none
  else (dimensionPhrases ctx.catalog).findSome? (·.search ctx.lowered)

def Rule.ofPattern (name : String) (pattern : Regex)
    (read : Context → Regex.Match → Option Breakdown) : Rule :=
  ⟨name, fun ctx => pattern.search ctx.lowered, read⟩

/-- The rule that accepts first decides. A rule looks for its pattern once; it accepts or
rejects the place it found. -/
def rules : List Rule :=
  [.ofPattern "aggregate_verb" aggregateVerb readSlots,
   .ofPattern "metric_by_pair" metricByPair readSlots,
   .ofPattern "breakdown_of" breakdownOf readSlots,
   .ofPattern "grouped_by" groupedBy readSlots,
   ⟨"product_by_dimension", findListed, readListed⟩,
   .ofPattern "by_a_and_b" byPair readPair]

def Rule.apply (r : Rule) (ctx : Context) : Option Breakdown := (r.find ctx).bind (r.read ctx)

def firstAccepted (ctx : Context) : Option (Rule × Breakdown) :=
  rules.findSome? fun r => (r.apply ctx).map (r, ·)

/-- A breakdown goes before a comparison; a prompt with neither has no local reading. -/
def classify (c : Catalog) (prompt : String) : Option Intent :=
  let lowered := Text.stripped (Text.lower prompt)
  if lowered.isEmpty then none
  else
    let ctx := Context.of c lowered
    match firstAccepted ctx with
    | some (_, b) => some (.breakdown b)
    | none =>
      if 2 ≤ ctx.terms.length then some (.comparison ⟨ctx.terms, ctx.aggregation⟩) else none

end PromptChart.Prompt
