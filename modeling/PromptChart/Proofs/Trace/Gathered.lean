import PromptChart.Proofs.Chart.Axes
import PromptChart.Proofs.Trace.Drawn
import PromptChart.Proofs.Trace.Quoted

namespace PromptChart.Trace

open Text (distinct)

def lookedUpIn (steps : List Json) : List String :=
  steps.flatMap fun step => lookedUp (stepText step)

def marked? (step : Json) : Option Aggregation := aggregation? (Text.lower (stepText step))

def lastMarked? (steps : List Json) : Option Aggregation := steps.reverse.findSome? marked?

/-- A chart has got some terms with their clauses, and an aggregation if there is one. -/
structure Adds (c : Catalog) (new : List String) (mark : Option Aggregation)
    (config found : ChartConfig) : Prop where
  terms : found.terms = new.foldl addNew config.terms
  filters : found.filters = (new.map (termClause c.textField)).foldl addNew config.filters
  aggregation : found.aggregation = mark.elim config.aggregation Aggregation.keyword

variable {c : Catalog} {trace visualization : Json} {prompt : String} {steps r s : List Json}
  {start config found later : ChartConfig} {new more : List String}
  {mark next : Option Aggregation}

theorem Adds.trans (h : Adds c new mark config found) (h' : Adds c more next found later) :
    Adds c (new ++ more) (next.or mark) config later where
  terms := by rw [h'.terms, h.terms, List.foldl_append]
  filters := by rw [h'.filters, h.filters, List.map_append, List.foldl_append]
  aggregation := by
    rw [h'.aggregation, h.aggregation]
    cases next <;> rfl

theorem foldl_addTerm (c : Catalog) (terms : List String) (config : ChartConfig) :
    terms.foldl (addTerm c) config =
      { config with
        terms := terms.foldl addNew config.terms
        filters := (terms.map (termClause c.textField)).foldl addNew config.filters } := by
  induction terms generalizing config with
  | nil => rfl
  | cons term terms ih => exact ih (addTerm c config term)

theorem addStep_adds (c : Catalog) (config : ChartConfig) (step : Json) :
    Adds c (lookedUp (stepText step)) (marked? step) config (addStep c config step) := by
  simp only [addStep, foldl_addTerm, marked?]
  cases aggregation? (Text.lower (stepText step)) with
  | none => cases config.xAxis.isEmpty <;> exact ⟨rfl, rfl, rfl⟩
  | some a => cases config.xAxis.isEmpty <;> exact ⟨rfl, rfl, rfl⟩

theorem lastMarked?_singleton (step : Json) : lastMarked? [step] = marked? step := by
  rw [lastMarked?, List.reverse_singleton, List.findSome?_singleton]

theorem lastMarked?_append (r s : List Json) :
    lastMarked? (r ++ s) = (lastMarked? s).or (lastMarked? r) := by
  rw [lastMarked?, List.reverse_append, List.findSome?_append]
  rfl

theorem lastMarked?_eq_none (h : ∀ step ∈ steps, marked? step = none) :
    lastMarked? steps = none :=
  List.findSome?_eq_none_iff.2 fun step hstep => h step (List.mem_reverse.1 hstep)

theorem foldl_addStep_adds (c : Catalog) (config : ChartConfig) (steps : List Json) :
    Adds c (lookedUpIn steps) (lastMarked? steps) config (steps.foldl (addStep c) config) := by
  induction steps generalizing config with
  | nil => exact ⟨rfl, rfl, rfl⟩
  | cons step steps ih =>
    have hlast : lastMarked? (step :: steps) = (lastMarked? steps).or (marked? step) := by
      rw [← List.singleton_append, lastMarked?_append, lastMarked?_singleton]
    rw [List.foldl_cons, lookedUpIn, List.flatMap_cons, hlast]
    exact (addStep_adds c config step).trans (ih (addStep c config step))

theorem promptText?_text (prompt : String) : promptText? (.text prompt) = some prompt := by
  rw [promptText?, Json.present?, Json.isVacant]
  cases hempty : prompt.isEmpty with
  | true => rw [String.isEmpty_iff.1 hempty]; rfl
  | false => rfl

theorem blank_of_drawn (h : drawn visualization = .ok start) :
    start.terms = [] ∧ start.filters = [] ∧ start.aggregation = "" := by
  obtain ⟨members, -, h⟩ := bind_eq_ok.1 h
  obtain ⟨settings, -, h⟩ := bind_eq_ok.1 h
  cases h
  exact ⟨rfl, rfl, rfl⟩

/-- What is known of a chart once the steps have been gone through. -/
def gathered (c : Catalog) (start : ChartConfig) (prompt : String) (steps : List Json) :
    ChartConfig :=
  let found := steps.foldl (addStep c) { start with terms := promptTerms c prompt }
  { found with grouping := if found.terms.isEmpty then "" else termGrouping found.terms }

theorem read_eq_gathered (h : drawn visualization = .ok start)
    (hsteps : trace.elementsOrNone = .ok steps) (prompt : String) :
    read c trace visualization (.text prompt) = .ok (gathered c start prompt steps) := by
  rw [read, h, ok_bind, promptText?_text, hsteps]
  rfl

theorem gathered_adds (h : drawn visualization = .ok start) (prompt : String)
    (steps : List Json) :
    Adds c (lookedUpIn steps) (lastMarked? steps) { terms := promptTerms c prompt }
      (gathered c start prompt steps) := by
  obtain ⟨-, hfilters, haggregation⟩ := blank_of_drawn h
  have hadds := foldl_addStep_adds c { start with terms := promptTerms c prompt } steps
  refine ⟨hadds.terms, ?_, ?_⟩
  · rw [gathered, hadds.filters, hfilters]
  · rw [gathered, hadds.aggregation, haggregation]

theorem gathered_singleton (h : drawn visualization = .ok start) (prompt : String)
    (step : Json) :
    Adds c (lookedUp (stepText step)) (marked? step) { terms := promptTerms c prompt }
      (gathered c start prompt [step]) := by
  have hadds := gathered_adds (c := c) h prompt [step]
  rwa [lookedUpIn, List.flatMap_singleton, lastMarked?_singleton] at hadds

/-- What a shorter trace has told is kept: terms and filters come behind those that are there,
and an x axis stays. -/
structure Extends (short long : ChartConfig) : Prop where
  terms : short.terms <+: long.terms
  filters : short.filters <+: long.filters
  xAxis : short.xAxis ≠ "" → long.xAxis = short.xAxis

/-- The aggregation is that of the last step that mentions one, and the filters are clauses of
the terms, each once. -/
structure IsToldBy (c : Catalog) (steps : List Json) (config : ChartConfig) : Prop where
  marked : ∀ before step after a, steps = before ++ step :: after → marked? step = some a →
    (∀ later ∈ after, marked? later = none) → config.aggregation = a.keyword
  unmarked : (∀ step ∈ steps, marked? step = none) → config.aggregation = ""
  clause : ∀ filter ∈ config.filters,
      ∃ term ∈ config.terms, filter = termClause c.textField term
  nodup : config.filters.Nodup

theorem prefix_foldl_addNew (items new : List String) : items <+: new.foldl addNew items := by
  rw [foldl_addNew]
  exact List.prefix_append _ _

theorem mem_foldl_addNew {item : String} {items new : List String} :
    item ∈ new.foldl addNew items ↔ item ∈ items ∨ item ∈ new := by
  rw [foldl_addNew, List.mem_append, List.mem_filter, Text.mem_distinct, decide_eq_true_eq]
  by_cases hitem : item ∈ items <;> simp [hitem]

theorem gathered_isToldBy (h : drawn visualization = .ok start) (prompt : String)
    (steps : List Json) :
    IsToldBy c steps (gathered c start prompt steps) := by
  obtain ⟨hterms, hfilters, haggregation⟩ := gathered_adds (c := c) h prompt steps
  refine ⟨?_, fun hnone => ?_, ?_, ?_⟩
  · rintro before step after a rfl hmark hnone
    have hstep : lastMarked? (step :: after) = some a := by
      rw [← List.singleton_append, lastMarked?_append, lastMarked?_eq_none hnone,
        Option.none_or, lastMarked?_singleton, hmark]
    rw [haggregation, lastMarked?_append, hstep]
    rfl
  · rw [haggregation, lastMarked?_eq_none hnone]
    rfl
  · intro filter hfilter
    rw [hfilters, mem_foldl_addNew] at hfilter
    obtain ⟨term, hterm, rfl⟩ := List.mem_map.1 (hfilter.resolve_left List.not_mem_nil)
    refine ⟨term, ?_, rfl⟩
    rw [hterms]
    exact mem_foldl_addNew.2 (.inr hterm)
  · rw [hfilters, nodup_foldl_addNew_iff]
    exact List.nodup_nil

theorem gathered_extends (c : Catalog) (start : ChartConfig) (prompt : String)
    (r s : List Json) :
    Extends (gathered c start prompt r) (gathered c start prompt (r ++ s)) := by
  simp only [gathered, List.foldl_append]
  generalize r.foldl (addStep c) { start with terms := promptTerms c prompt } = found
  obtain ⟨hterms, hfilters, -⟩ := foldl_addStep_adds c found s
  refine ⟨?_, ?_, fun hne => ?_⟩
  · rw [hterms]
    exact prefix_foldl_addNew _ _
  · rw [hfilters]
    exact prefix_foldl_addNew _ _
  · obtain ⟨hkept | ⟨hnone, -⟩, -⟩ := foldl_addStep_axes c s found
    · exact hkept
    · exact absurd hnone hne

theorem elementsOrNone_array (steps : List Json) :
    (Json.array steps).elementsOrNone = .ok steps := by
  cases steps <;> rfl

/-- A longer trace only adds to what a shorter one tells, and what it tells is said by its own
steps. -/
theorem longer_trace_extends (c : Catalog) (prompt : String) (h : IsDrawable visualization)
    (r s : List Json) :
    ∃ short long, read c (.array r) visualization (.text prompt) = .ok short ∧
      read c (.array (r ++ s)) visualization (.text prompt) = .ok long ∧
      Extends short long ∧ IsToldBy c (r ++ s) long := by
  obtain ⟨start, hstart⟩ := exists_drawn_iff.2 h
  exact ⟨_, _, read_eq_gathered hstart (elementsOrNone_array r) prompt,
    read_eq_gathered hstart (elementsOrNone_array (r ++ s)) prompt,
    gathered_extends c start prompt r s, gathered_isToldBy hstart prompt (r ++ s)⟩

def saidStep (content : String) : Json := .object [("content", .text content)]

def bars : Json := .object [("type", .text "bar"), ("config", .object [])]

theorem drawn_bars : drawn bars = .ok {} := rfl

theorem isDrawable_bars : IsDrawable bars := exists_drawn_iff.1 ⟨_, drawn_bars⟩

theorem longer_trace_extends_drawers :
    IsDrawable bars ∧ ∃ short long,
      read .freight
        (.array [saidStep "avg(cost) where description ILIKE '%Drawer%', group_by: carrier"])
        bars (.text "cost for \"steel\" drawer") = .ok short ∧
      read .freight
        (.array [saidStep "avg(cost) where description ILIKE '%Drawer%', group_by: carrier",
          saidStep "then sum(cost) where description ILIKE '%tool box%', group_by: mode"])
        bars (.text "cost for \"steel\" drawer") = .ok long ∧
      Extends short long ∧ long.aggregation = "SUM" ∧ long.filters.Nodup := by
  obtain ⟨short, long, hshort, hlong, hextends, htold⟩ :=
    longer_trace_extends .freight "cost for \"steel\" drawer" isDrawable_bars
      [saidStep "avg(cost) where description ILIKE '%Drawer%', group_by: carrier"]
      [saidStep "then sum(cost) where description ILIKE '%tool box%', group_by: mode"]
  refine ⟨isDrawable_bars, short, long, hshort, hlong, hextends, ?_, htold.nodup⟩
  exact htold.marked [_] _ [] .sum rfl (by decide) (List.forall_mem_nil _)

/-- The terms of a chart are listed once exactly if the prompt has nothing between quotes twice,
or the trace is one that cannot be gone through. -/
theorem terms_nodup_iff (prompt : String)
    (h : read c trace visualization (.text prompt) = .ok config) :
    config.terms.Nodup ↔ (trace.isBareScalar = false → (quotedIn prompt).Nodup) := by
  obtain ⟨start, hstart, -⟩ := bind_eq_ok.1 h
  cases hscalar : trace.isBareScalar with
  | true =>
    rw [read_of_not_elements (Json.elementsOrNone_of_isBareScalar hscalar), hstart] at h
    cases h
    rw [(blank_of_drawn hstart).1]
    exact iff_of_true List.nodup_nil nofun
  | false =>
    obtain ⟨steps, hsteps⟩ := Json.exists_elementsOrNone_iff.2 hscalar
    rw [read_eq_gathered hstart hsteps] at h
    cases h
    rw [(gathered_adds hstart prompt steps).terms, nodup_foldl_addNew_iff, promptTerms,
      nodup_foldl_addNew_iff, quotedTerm_findAll]
    exact ⟨fun hnodup _ => hnodup, fun hnodup => hnodup rfl⟩

theorem terms_nodup_drawers :
    ∃ config,
      read .freight
        (.array [saidStep "ILIKE '%steel%' or ILIKE '%rail%'", saidStep "ILIKE '%rail%'"]) bars
        (.text "\"steel\" drawer, \"Drawer\"") = .ok config ∧ config.terms.Nodup := by
  obtain ⟨config, hconfig⟩ := exists_read_of_drawn .freight
    (.array [saidStep "ILIKE '%steel%' or ILIKE '%rail%'", saidStep "ILIKE '%rail%'"])
    (.text "\"steel\" drawer, \"Drawer\"") drawn_bars
  exact ⟨config, hconfig,
    (terms_nodup_iff "\"steel\" drawer, \"Drawer\"" hconfig).2 fun _ => by decide⟩

/-- What a prompt has between quotes twice is listed twice. -/
theorem not_forall_terms_nodup :
    ¬ ∀ (trace visualization : Json) (prompt : String) (config : ChartConfig),
      read .freight trace visualization (.text prompt) = .ok config → config.terms.Nodup := by
  intro h
  have hdrawn := read_eq_gathered (c := .freight) drawn_bars (elementsOrNone_array [])
    "\"steel\" rail or \"steel\" drawer"
  exact absurd (h _ _ _ _ hdrawn) (by decide +kernel)

end PromptChart.Trace
