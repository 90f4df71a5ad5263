import Mathlib.Data.List.Nodup
import PromptChart.Catalog.Freight
import PromptChart.Proofs.Prompt.Dimensions
import PromptChart.Proofs.Prompt.Templates
import PromptChart.Proofs.Regex.Takes
import PromptChart.Proofs.Text.Lowered

namespace PromptChart

namespace Regex

def Match.groupPosition? (m : Match) (index : Nat) : Option Nat :=
  (m.captures.find? (·.index = index)).map (·.start.before.length)

def Match.between (m : Match) (i j : Nat) : List Char :=
  match m.captures.find? (·.index = i), m.captures.find? (·.index = j) with
  | some first, some second => first.stop.textTo second.start
  | _, _ => []

end Regex

namespace Prompt

open Text (lower stripped IsGap IsTrimmed IsLowered SameLetters)
open Regex (Cursor caseless inOrder space)

def joint (m : Regex.Match) : String := stripped (String.ofList (m.between 2 3))

def spaced (words : List String) : Regex := inOrder [space, anyOf words, space]

/-- Where the slots of a template start and end. -/
structure Stand (first second : List String) (c₁ d₁ c₂ d₂ c₃ d₃ : Cursor) : Prop where
  metric : (token 1).Takes c₁ d₁
  connector : (spaced first).Takes d₁ c₂
  primary : (token 2).Takes c₂ d₂
  joint : (spaced second).Takes d₂ c₃
  secondary : (token 3).Takes c₃ d₃

/-- The general template is found in a text, no later than where the first slot of another one
starts. -/
def IsCovered (text : String) (m : Regex.Match) : Prop :=
  ∃ start ∈ m.groupPosition? 1,
    ∃ found, metricByPair.search text = some found ∧ found.position ≤ start

variable {ctx : Context} {r : Rule} {b : Breakdown} {first second words : List String}
  {front : List Regex} {m : Regex.Match} {text : String} {c₁ d₁ c₂ d₂ c₃ d₃ : Cursor}

theorem takes_spaced (hne : words ≠ []) {c d : Cursor} :
    (spaced words).Takes c d ↔
      ∃ g x g', IsGap g ∧ (∃ word ∈ words, SameLetters word.toList x) ∧ IsGap g' ∧
        c.Goes (g ++ (x ++ g')) d := by
  simp only [spaced, Regex.takes_inOrder_cons, Regex.takes_inOrder_nil, Cursor.goes_nil_iff,
    exists_eq_right]
  constructor
  · rintro ⟨c', hg, d', hx, hg'⟩
    obtain ⟨g, hgap, hg⟩ := Regex.takes_space.1 hg
    obtain ⟨word, hword, x, hsame, hx⟩ := (takes_anyOf hne).1 hx
    obtain ⟨g', hgap', hg'⟩ := Regex.takes_space.1 hg'
    exact ⟨g, x, g', hgap, ⟨word, hword, hsame⟩, hgap', hg.trans (hx.trans hg')⟩
  · rintro ⟨g, x, g', hgap, ⟨word, hword, hsame⟩, hgap', hgoes⟩
    obtain ⟨c', hg, hgoes⟩ := Cursor.goes_append_iff.1 hgoes
    obtain ⟨d', hx, hg'⟩ := Cursor.goes_append_iff.1 hgoes
    exact ⟨c', Regex.takes_space.2 ⟨g, hgap, hg⟩, d',
      (takes_anyOf hne).2 ⟨word, hword, x, hsame, hx⟩, Regex.takes_space.2 ⟨g', hgap', hg'⟩⟩

theorem takes_spaced_of_subset {others : List String} (hsubset : words ⊆ others)
    (hne : words ≠ []) {c d : Cursor} (h : (spaced words).Takes c d) :
    (spaced others).Takes c d := by
  obtain ⟨g, x, g', hgap, ⟨word, hword, hsame⟩, hrest⟩ := (takes_spaced hne).1 h
  exact (takes_spaced (List.ne_nil_of_mem (hsubset hword))).2 ⟨g, x, g', hgap,
    ⟨word, hsubset hword, hsame⟩, hrest⟩

theorem slots_eq (first second : List String) :
    slots first second = token 1 :: ([space, anyOf first, space] ++
      token 2 :: ([space, anyOf second, space] ++ [token 3])) :=
  rfl

theorem takes_slots (h : Stand first second c₁ d₁ c₂ d₂ c₃ d₃) :
    (inOrder (slots first second)).Takes c₁ d₃ := by
  rw [slots_eq]
  exact Regex.takes_inOrder_cons.2 ⟨d₁, h.metric, Regex.takes_inOrder_append.2 ⟨c₂, h.connector,
    Regex.takes_inOrder_cons.2 ⟨d₂, h.primary,
      Regex.takes_inOrder_append.2 ⟨c₃, h.joint, h.secondary⟩⟩⟩⟩

theorem isGroupless_spaced (words : List String) : (spaced words).isGroupless = true := by
  apply Regex.isGroupless_inOrder
  simp only [List.forall_mem_cons, isGroupless_anyOf, true_and]
  exact ⟨rfl, rfl, nofun⟩

/-- A template that is found has its slots somewhere in the text, and has captured them. -/
theorem exists_stand (hfront : ∀ r ∈ front, r.isGroupless = true)
    (h : (inOrder (front ++ slots first second)).search text = some m) :
    ∃ x c₁ d₁ c₂ d₂ c₃ d₃, Cursor.Goes ⟨[], text.toList⟩ x c₁ ∧
      Stand first second c₁ d₁ c₂ d₂ c₃ d₃ ∧
      m.captures = [⟨3, c₃, d₃⟩, ⟨2, c₂, d₂⟩, ⟨1, c₁, d₁⟩] := by
  rw [slots_eq] at h
  obtain ⟨x, c, e, hx, hprefers, rfl⟩ := Regex.exists_of_searchFrom h
  obtain ⟨s₁, hs₁, hprefers⟩ := hprefers.exists_of_inOrder_append
  obtain ⟨t₁, ht₁, hprefers⟩ := hprefers.exists_of_inOrder_cons
  obtain ⟨s₂, hs₂, hprefers⟩ := hprefers.exists_of_inOrder_append
  obtain ⟨t₂, ht₂, hprefers⟩ := hprefers.exists_of_inOrder_cons
  obtain ⟨s₃, hs₃, hprefers⟩ := hprefers.exists_of_inOrder_append
  obtain ⟨y, hy⟩ := (Regex.takes_of_mem_ends hs₁).exists_goes
  refine ⟨x ++ y, s₁.cursor, t₁.cursor, s₂.cursor, t₂.cursor, s₃.cursor, e.cursor, hx.trans hy,
    ?_, ?_⟩
  · exact ⟨Regex.takes_of_mem_ends ht₁, Regex.takes_of_mem_ends hs₂,
      Regex.takes_of_mem_ends ht₂, Regex.takes_of_mem_ends hs₃,
      Regex.takes_of_mem_ends hprefers.mem_ends⟩
  · rw [Regex.captures_of_mem_ends_group rfl hprefers.mem_ends,
      Regex.captures_of_mem_ends (isGroupless_spaced second) hs₃,
      Regex.captures_of_mem_ends_group rfl ht₂,
      Regex.captures_of_mem_ends (isGroupless_spaced first) hs₂,
      Regex.captures_of_mem_ends_group rfl ht₁,
      Regex.captures_of_mem_ends (Regex.isGroupless_inOrder hfront) hs₁]

theorem exists_joint (h : Stand first second c₁ d₁ c₂ d₂ c₃ d₃)
    (hcaptures : m.captures = [⟨3, c₃, d₃⟩, ⟨2, c₂, d₂⟩, ⟨1, c₁, d₁⟩]) (hne : second ≠ [])
    (htrimmed : ∀ word ∈ second, IsTrimmed word.toList) :
    ∃ g g', IsGap g ∧ IsGap g' ∧ d₂.Goes (g ++ ((joint m).toList ++ g')) c₃ ∧
      ∃ word ∈ second, SameLetters word.toList (joint m).toList := by
  obtain ⟨g, x, g', hgap, ⟨word, hword, hsame⟩, hgap', hgoes⟩ := (takes_spaced hne).1 h.joint
  have hbetween : m.between 2 3 = g ++ (x ++ g') := by
    simp only [Regex.Match.between, hcaptures, List.find?_cons, decide_true]
    exact hgoes.textTo
  have hjoint : (joint m).toList = x := by
    rw [joint, stripped, String.toList_ofList, String.toList_ofList, hbetween,
      (hsame.isTrimmed (htrimmed word hword)).trim_wrapped hgap hgap']
  rw [hjoint]
  exact ⟨g, g', hgap, hgap', hgoes, word, hword, hsame⟩

/-- The general template fits wherever another one has its slots, if it knows the joint. -/
theorem exists_metricByPair (hfront : ∀ r ∈ front, r.isGroupless = true)
    (hfirst : first ⊆ connectors) (hne : first ≠ []) (hne' : second ≠ [])
    (htrimmed : ∀ word ∈ second, IsTrimmed word.toList)
    (h : (inOrder (front ++ slots first second)).search text = some m) :
    (joint m).toList <:+: text.toList ∧
      ∃ word ∈ second, SameLetters word.toList (joint m).toList ∧
      (word ∈ joints → IsCovered text m) := by
  obtain ⟨x, c₁, d₁, c₂, d₂, c₃, d₃, hgoes, hstand, hcaptures⟩ := exists_stand hfront h
  obtain ⟨g, g', hgap, hgap', hbetween, word, hword, hsame⟩ :=
    exists_joint hstand hcaptures hne' htrimmed
  constructor
  · obtain ⟨y₁, hy₁⟩ := hstand.metric.exists_goes
    obtain ⟨y₂, hy₂⟩ := hstand.connector.exists_goes
    obtain ⟨y₃, hy₃⟩ := hstand.primary.exists_goes
    have htext := (hgoes.trans (hy₁.trans (hy₂.trans (hy₃.trans hbetween)))).after
    refine ⟨x ++ (y₁ ++ (y₂ ++ (y₃ ++ g))), g' ++ c₃.after, ?_⟩
    rw [show text.toList = _ from htext]
    simp only [List.append_assoc]
  refine ⟨word, hword, hsame, fun hknown => ?_⟩
  have hconnectors : connectors ⊆ ["per", "by", "for"] := by decide
  have hconnector := takes_spaced_of_subset (fun _ hword => hconnectors (hfirst hword)) hne
    hstand.connector
  have hjoint : (spaced joints).Takes d₂ c₃ :=
    (takes_spaced (List.cons_ne_nil _ _)).2 ⟨g, _, g', hgap, ⟨word, hknown, hsame⟩, hgap',
      hbetween⟩
  have htakes : metricByPair.Takes c₁ d₃ :=
    takes_slots ⟨hstand.metric, hconnector, hstand.primary, hjoint, hstand.secondary⟩
  refine ⟨c₁.before.length, ?_, Regex.exists_searchFrom hgoes htakes⟩
  simp only [Regex.Match.groupPosition?, hcaptures, List.find?_cons]
  rfl

theorem eq_of_template_name {t t' : String × Regex} (ht : t ∈ templates) (ht' : t' ∈ templates)
    (h : t.1 = t'.1) :
    t = t' := by
  have hnodup : (templates.map (·.1)).Nodup := by decide
  exact List.inj_on_of_nodup_map hnodup ht ht' h

theorem search_of_firstAccepted {t : String × Regex} (ht : t ∈ templates)
    (h : firstAccepted ctx = some (r, b)) (hname : r.name = t.1) :
    ∃ m, t.2.search ctx.lowered = some m := by
  obtain ⟨hr, m, hfind, -⟩ := exists_of_firstAccepted h
  have hlast : ∀ t ∈ templates, t.1 ≠ "product_by_dimension" ∧ t.1 ≠ "by_a_and_b" := by decide
  obtain ⟨t', ht', rfl⟩ | rfl | rfl := rules_cases hr
  · obtain rfl := eq_of_template_name ht' ht hname
    exact ⟨m, hfind⟩
  · exact absurd hname.symm (hlast t ht).1
  · exact absurd hname.symm (hlast t ht).2

/-- A rule behind the first two is only asked if the general template has nothing to read. -/
theorem metricByPair_rejects (h : firstAccepted ctx = some (r, b))
    (hname : r.name ≠ "aggregate_verb" ∧ r.name ≠ "metric_by_pair") :
    (metricByPair.search ctx.lowered).bind (readSlots ctx) = none := by
  rw [firstAccepted, rules, List.findSome?_cons, List.findSome?_cons, apply_ofPattern,
    apply_ofPattern] at h
  cases hverb : (aggregateVerb.search ctx.lowered).bind (readSlots ctx) with
  | some _ =>
    rw [hverb] at h
    obtain ⟨rfl, -⟩ := Prod.mk.inj (Option.some.inj h)
    exact absurd rfl hname.1
  | none =>
    cases hpair : (metricByPair.search ctx.lowered).bind (readSlots ctx) with
    | none => rfl
    | some _ =>
      rw [hverb, hpair] at h
      obtain ⟨rfl, -⟩ := Prod.mk.inj (Option.some.inj h)
      exact absurd rfl hname.2

theorem isCovered_of_breakdownOf (h : breakdownOf.search text = some m) : IsCovered text m := by
  have hfront : ∀ r ∈ [caseless "breakdown", space, caseless "of", space],
      r.isGroupless = true := by
    simp only [List.forall_mem_cons, Regex.isGroupless_caseless, true_and]
    exact ⟨rfl, rfl, nofun⟩
  have hjoints : ["and", "&", "by"] ⊆ joints := by decide
  obtain ⟨-, word, hword, -, hfound⟩ := exists_metricByPair hfront (by decide) (by decide)
    (by decide) (by decide) h
  exact hfound (hjoints hword)

theorem isCovered_of_aggregateVerb (htext : ∀ a ∈ text.toList, IsLowered a)
    (h : aggregateVerb.search text = some m) (hjoint : joint m ≠ "for each") :
    IsCovered text m := by
  have hfront : ∀ r ∈ [anyOf verbs, space], r.isGroupless = true := by
    simp only [List.forall_mem_cons, isGroupless_anyOf, true_and]
    exact ⟨rfl, nofun⟩
  have hwords : ∀ word ∈ ["by", "and", "per", "grouped by", "for each", "&"],
      word ∈ joints ∨ word = "for each" := by
    decide
  obtain ⟨hinside, word, hword, hsame, hfound⟩ :=
    exists_metricByPair hfront (by decide) (by decide) (by decide) (by decide) h
  rcases hwords word hword with hknown | rfl
  · exact hfound hknown
  · have hshapes : ∀ a ∈ "for each".toList, Text.IsOnlyShape a := by decide +kernel
    have heq := Text.eq_of_sameLetters_of_isLowered hshapes
      (fun a ha => htext a (hinside.subset ha)) hsame
    exact absurd (String.toList_inj.1 heq.symm) hjoint

theorem rejected_of_breakdownOf (h : firstAccepted ctx = some (r, b))
    (hname : r.name = "breakdown_of") :
    ∃ found, metricByPair.search ctx.lowered = some found ∧ readSlots ctx found = none := by
  have hmem : ("breakdown_of", breakdownOf) ∈ templates := .tail _ (.tail _ (.head _))
  obtain ⟨m, hm⟩ := search_of_firstAccepted hmem h hname
  obtain ⟨p, -, found, hfound, -⟩ := isCovered_of_breakdownOf hm
  have hrejects := metricByPair_rejects h (by rw [hname]; decide)
  rw [hfound] at hrejects
  exact ⟨found, hfound, hrejects⟩

/-- Where the template of a breakdown is found, or the one with a verb and a joint other than
`for each`, the general one is found as well, no later than the first slot. So the template of a
breakdown only accepts where the general one has found something and rejected it. -/
theorem metricByPair_overlaps (c : Catalog) (prompt : String) :
    let text := stripped (lower prompt)
    (∀ m, breakdownOf.search text = some m → IsCovered text m) ∧
    (∀ m, aggregateVerb.search text = some m → joint m ≠ "for each" → IsCovered text m) ∧
    (ruleName? c prompt = some "breakdown_of" →
      ∃ found, metricByPair.search text = some found ∧
        readSlots (Context.of c text) found = none) := by
  have htext := Text.isLowered_of_mem_stripped prompt
  refine ⟨fun m => isCovered_of_breakdownOf, fun m => isCovered_of_aggregateVerb htext,
    fun h => ?_⟩
  rw [ruleName?, Option.map_eq_some_iff] at h
  obtain ⟨⟨r, b⟩, haccepted, hname⟩ := h
  have hlowered : (Context.of c (stripped (lower prompt))).lowered = stripped (lower prompt) :=
    rfl
  have hrejected := rejected_of_breakdownOf haccepted hname
  rw [hlowered] at hrejected
  exact hrejected

/-- The general template takes `miles for foo and baz` by accident and rejects it; the breakdown
stands behind. -/
theorem metricByPair_overlaps_rejected_match :
    let prompt := "show miles for foo and baz breakdown of retail by carrier and state"
    (∃ m, breakdownOf.search prompt = some m ∧ IsCovered prompt m) ∧
    (∃ m, aggregateVerb.search prompt = some m ∧ joint m ≠ "for each" ∧ IsCovered prompt m) ∧
    ruleName? .freight prompt = some "breakdown_of" ∧
      ∃ found, metricByPair.search prompt = some found ∧
        readSlots (Context.of .freight prompt) found = none := by
  intro prompt
  have hlowered : stripped (lower prompt) = prompt := by decide +kernel
  have hname : ruleName? .freight prompt = some "breakdown_of" := by decide +kernel
  have hbreakdown : (breakdownOf.search prompt).isSome = true := by decide +kernel
  have hverb : ∃ m ∈ aggregateVerb.search prompt, joint m ≠ "for each" := by decide +kernel
  have hoverlaps := metricByPair_overlaps .freight prompt
  simp only [hlowered] at hoverlaps
  obtain ⟨hfirst, hsecond, hrejected⟩ := hoverlaps
  obtain ⟨m, hm⟩ := Option.isSome_iff_exists.1 hbreakdown
  obtain ⟨m', hm', hjoint⟩ := hverb
  exact ⟨⟨m, hm, hfirst m hm⟩, ⟨m', hm', hjoint, hsecond m' hm' hjoint⟩, hname, hrejected hname⟩

end Prompt

end PromptChart
