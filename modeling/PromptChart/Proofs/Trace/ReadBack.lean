import PromptChart.Chart.Own
import PromptChart.Proofs.Trace.Clause
import PromptChart.Proofs.Trace.Gathered

namespace PromptChart.Trace

open Regex (Scans)
open Text (IsTrimmed distinct isGap_space join stripped)

/-- A term that its clause can hold: not empty, without the signs that would end it, and without
white space around it. -/
structure IsHeld (term : String) : Prop where
  ne_empty : term ≠ ""
  unbroken : ∀ a ∈ term.toList, isBreak a = false
  trimmed : IsTrimmed term.toList

instance : DecidablePred IsHeld := fun term =>
  decidable_of_iff (term ≠ "" ∧ (∀ a ∈ term.toList, isBreak a = false) ∧ IsTrimmed term.toList)
    ⟨fun h => ⟨h.1, h.2.1, h.2.2⟩, fun h => ⟨h.ne_empty, h.unbroken, h.trimmed⟩⟩

variable {c : Catalog} {visualization : Json} {start : ChartConfig} {field term : String}
  {terms : List String}

namespace IsHeld

/-- What is looked up for a term, behind the name of the field. -/
def clause (h : IsHeld term) : Clause where
  word := "ILIKE".toList
  gap := [' ']
  body := term.toList
  keyword := List.forall₂_same.2 fun a _ => Text.sameLetter_self a
  isGap := isGap_space
  ne_nil := mt String.toList_eq_nil_iff.1 h.ne_empty
  unbroken := h.unbroken

theorem stripped_eq (h : IsHeld term) : stripped term = term := by
  rw [stripped, h.trimmed.trim_eq, String.ofList_toList]

theorem toList_termClause (h : IsHeld term) (field : String) :
    (termClause field term).toList = (field.toList ++ [' ']) ++ h.clause.text := by
  simp [termClause, clause, Clause.text, Clause.head]

end IsHeld

theorem scans_join (hfield : ∀ a ∈ field.toList, isBreak a = false)
    (hterms : ∀ term ∈ terms, IsHeld term) :
    Scans Clause.text (join " OR " (terms.map (termClause field))).toList
      (terms.pmap (fun _ h => IsHeld.clause h) hterms) := by
  have hfront : ∀ a ∈ field.toList ++ [' '], isBreak a = false :=
    List.forall_mem_append.2 ⟨hfield, by decide⟩
  induction terms with
  | nil => exact .nil
  | cons term rest ih =>
    obtain ⟨hterm, hrest⟩ := List.forall_mem_cons.1 hterms
    have hlast := ih hrest
    cases rest with
    | nil =>
      rw [List.map_singleton, join, hterm.toList_termClause,
        ← List.append_nil hterm.clause.text]
      exact Clause.scans_unbroken_append hfront hterm.clause .nil
    | cons next rest =>
      rw [List.map_cons, List.map_cons, join, String.toList_append, String.toList_append,
        hterm.toList_termClause, List.append_assoc, List.append_assoc]
      exact Clause.scans_unbroken_append hfront hterm.clause
        (Clause.scans_append (by decide) hlast)
      · simp

theorem lookedUp_join (hfield : ∀ a ∈ field.toList, isBreak a = false)
    (hterms : ∀ term ∈ terms, IsHeld term) :
    lookedUp (join " OR " (terms.map (termClause field))) = terms := by
  have hbodies :
      (terms.pmap (fun _ h => IsHeld.clause h) hterms).map
        (fun k => stripped (String.ofList k.body)) =
      terms := by
    rw [List.map_pmap, List.pmap_eq_self]
    intro term hterm
    rw [IsHeld.clause, String.ofList_toList, (hterms term hterm).stripped_eq]
  rw [lookedUp_of_scans (scans_join hfield hterms), hbodies, List.filter_eq_self]
  intro term hterm
  simpa using (hterms term hterm).ne_empty

/-- What a step gathers that tells clauses: behind the terms of the prompt those of the clauses,
and the clauses. -/
theorem gathered_joined (hfield : ∀ a ∈ c.textField.toList, isBreak a = false)
    (hterms : ∀ term ∈ terms, IsHeld term) (h : drawn visualization = .ok start)
    (prompt : String) :
    let step := saidStep (join " OR " (terms.map (termClause c.textField)))
    (gathered c start prompt [step]).terms = terms.foldl addNew (promptTerms c prompt) ∧
      (gathered c start prompt [step]).filters =
        distinct (terms.map (termClause c.textField)) := by
  intro step
  have hlooked : lookedUp (stepText step) = terms := lookedUp_join hfield hterms
  obtain ⟨hfound, hfilters, -⟩ := gathered_singleton (c := c) h prompt step
  rw [hlooked] at hfound hfilters
  exact ⟨hfound, hfilters.trans (foldl_addNew_nil _)⟩

theorem promptTerms_freight_empty : promptTerms .freight "" = [] := by decide +kernel

/-- The filters that a comparison reports, joined into one step of a trace, are read back as
they are, and its terms with them, each at the place where it comes first. -/
theorem read_clauses (x : Comparison) (metric : String) (hterms : ∀ term ∈ x.terms, IsHeld term)
    (h : IsDrawable visualization) :
    ∃ found,
      read .freight (.array [saidStep (join " OR " (x.config .freight metric).filters)])
        visualization (.text "") = .ok found ∧
      found.filters = distinct (x.config .freight metric).filters ∧
      found.terms = distinct x.terms := by
  obtain ⟨start, hstart⟩ := exists_drawn_iff.2 h
  obtain ⟨hfound, hfilters⟩ := gathered_joined (c := .freight) (by decide) hterms hstart ""
  rw [promptTerms_freight_empty, foldl_addNew_nil] at hfound
  exact ⟨_, read_eq_gathered hstart (elementsOrNone_array _) "", hfilters, hfound⟩

/-- Terms that look like clauses themselves, and one of them twice. -/
def clauseLike : Comparison :=
  ⟨["OR description ILIKE", "36\" (steel)\nrail", "ilike", "36\" (steel)\nrail"], .sum⟩

theorem read_clauses_clauseLike :
    (∀ term ∈ clauseLike.terms, IsHeld term) ∧ IsDrawable bars ∧
      ∃ found, read .freight
        (.array [saidStep (join " OR " (clauseLike.config .freight "retail").filters)]) bars
          (.text "") = .ok found ∧
        found.filters = ["description ILIKE '%OR description ILIKE%'",
          "description ILIKE '%36\" (steel)\nrail%'", "description ILIKE '%ilike%'"] ∧
        found.terms = ["OR description ILIKE", "36\" (steel)\nrail", "ilike"] := by
  have hterms : ∀ term ∈ clauseLike.terms, IsHeld term := by decide
  obtain ⟨found, hread, hfilters, hfound⟩ := read_clauses clauseLike "retail" hterms
    isDrawable_bars
  exact ⟨hterms, isDrawable_bars, found, hread, hfilters.trans (by decide),
    hfound.trans (by decide)⟩

end PromptChart.Trace
