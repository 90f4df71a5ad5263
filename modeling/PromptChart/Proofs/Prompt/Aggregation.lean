import PromptChart.Proofs.Regex.Takes
import PromptChart.Proofs.Text.Runs
import PromptChart.Prompt.Keywords

namespace PromptChart.Prompt

open Text (IsGap IsWordRun isBlank isWord lower runs IsCut)
open Regex (Cursor Takes exactly inOrder opt)

def hasWord (runs : List (List Char)) (words : List String) : Bool :=
  words.any fun w => runs.contains w.toList

def hasPair (first second : String) : List (List Char) → Bool
  | a :: gap :: b :: rest =>
    (a == first.toList && gap.all isBlank && b == second.toList) ||
      hasPair first second (gap :: b :: rest)
  | _ => false

variable {r : Regex} {rs : List Regex} {w : String} {text : String} {first second : String}
  {m : List (List Char)}

theorem hasWord_iff {words : List String} (l : List (List Char)) :
    hasWord l words = true ↔ ∃ w ∈ words, w.toList ∈ l := by
  simp only [hasWord, List.any_eq_true, List.contains_iff_mem]

theorem hasPair_iff (l : List (List Char)) :
    hasPair first second l = true ↔
      ∃ g, (∀ c ∈ g, isBlank c = true) ∧ [first.toList, g, second.toList] <:+: l := by
  induction l with
  | nil => simp [hasPair]
  | cons a rest ih =>
    simp only [List.infix_cons_iff, and_or_left, exists_or, ← ih]
    match rest with
    | [] => simp [hasPair]
    | [gap] => simp [hasPair]
    | gap :: b :: rest =>
      simp only [hasPair, Bool.or_eq_true, Bool.and_eq_true, beq_iff_eq, List.all_eq_true,
        List.cons_prefix_cons, List.nil_prefix, and_true]
      refine or_congr_left ?_
      constructor
      · rintro ⟨⟨rfl, hgap⟩, rfl⟩
        exact ⟨gap, hgap, rfl, rfl, rfl⟩
      · rintro ⟨g, hgap, rfl, rfl, rfl⟩
        exact ⟨⟨rfl, hgap⟩, rfl⟩

/-- Is an expression found between two word boundaries of the text? -/
def StandsIn (r : Regex) (text : String) : Prop :=
  ∃ x c d, Cursor.Goes ⟨[], text.toList⟩ x c ∧
    c.atBoundary = true ∧ r.Takes c d ∧ d.atBoundary = true

theorem isIn_phrase_iff (hrs : rs ≠ []) :
    (aggregationPhrases.phrase rs).isIn text = true ↔ ∃ r ∈ rs, StandsIn r text := by
  rw [Regex.isIn_iff]
  simp only [aggregationPhrases.phrase, Regex.takes_inOrder_cons, Regex.takes_inOrder_nil,
    Regex.takes_firstOf hrs, Takes, Cursor.goes_nil_iff]
  constructor
  · rintro ⟨x, c, d, hgoes, _, ⟨hc, rfl⟩, d', ⟨r, hr, htakes⟩, _, ⟨hd, rfl⟩, rfl⟩
    exact ⟨r, hr, x, _, _, hgoes, hc, htakes, hd⟩
  · rintro ⟨r, hr, x, c, d, hgoes, hc, htakes, hd⟩
    exact ⟨x, c, d, hgoes, c, ⟨hc, rfl⟩, d, ⟨r, hr, htakes⟩, d, ⟨hd, rfl⟩, rfl⟩

theorem exists_boundaries_iff (text : String) (hm : runs m.flatten = m)
    (hstart : ∀ a ∈ m.flatten.head?, isWord a = true)
    (hstop : ∀ a ∈ m.flatten.getLast?, isWord a = true) (hne : m.flatten ≠ []) :
    (∃ x c d, Cursor.Goes ⟨[], text.toList⟩ x c ∧
      c.atBoundary = true ∧ c.Goes m.flatten d ∧ d.atBoundary = true) ↔
      m <:+: runs text.toList := by
  obtain ⟨a, ha⟩ := Option.ne_none_iff_exists'.1 (mt List.head?_eq_none_iff.1 hne)
  obtain ⟨b, hb⟩ := Option.ne_none_iff_exists'.1 (mt List.getLast?_eq_none_iff.1 hne)
  have hleft (x y : List Char) : Cursor.atBoundary ⟨x.reverse, m.flatten ++ y⟩ = true ↔
      IsCut x (m.flatten ++ y) :=
    Text.atBoundary_iff_of_head (by rw [List.head?_append_of_ne_nil _ hne, ha]; rfl)
      (hstart a ha)
  have hright (x y : List Char) : Cursor.atBoundary ⟨(x ++ m.flatten).reverse, y⟩ = true ↔
      IsCut (x ++ m.flatten) y :=
    Text.atBoundary_iff_of_last (by rw [List.getLast?_append_of_ne_nil _ hne, hb]; rfl)
      (hstop b hb)
  rw [Text.infix_runs_iff hm]
  constructor
  · rintro ⟨x, ⟨start, rest⟩, ⟨stop, y⟩, ⟨hstart, htext⟩, hc, ⟨hstop, hrest⟩, hd⟩
    simp only [List.append_nil] at hstart htext hstop hrest
    subst hstart hrest hstop
    rw [← List.reverse_append] at hd
    exact ⟨x, y, htext.symm, (hleft x y).1 hc, (hright x y).1 hd⟩
  · rintro ⟨x, y, htext, hc, hd⟩
    refine ⟨x, ⟨x.reverse, m.flatten ++ y⟩, ⟨(x ++ m.flatten).reverse, y⟩,
      ⟨by simp, htext.symm⟩, (hleft x y).2 hc, ⟨List.reverse_append, rfl⟩, (hright x y).2 hd⟩

theorem standsIn_exactly_iff (hw : IsWordRun w.toList) :
    StandsIn (exactly w) text ↔ w.toList ∈ runs text.toList := by
  have hm : runs [w.toList].flatten = [w.toList] := by
    rw [List.flatten_singleton, Text.runs_of_forall hw.ne_nil hw.word]
  have hboundaries := exists_boundaries_iff text hm
  rw [List.flatten_singleton, List.singleton_infix_iff] at hboundaries
  simp only [StandsIn, Regex.takes_exactly]
  exact hboundaries (fun a ha => hw.word a (List.mem_of_mem_head? ha))
    (fun a ha => hw.word a (List.mem_of_mem_getLast? ha)) hw.ne_nil

theorem standsIn_alt_iff {r' : Regex} :
    StandsIn (.alt r r') text ↔ StandsIn r text ∨ StandsIn r' text := by
  simp only [StandsIn, Takes, and_or_left, or_and_right, exists_or]

theorem standsIn_plural_iff (hw : IsWordRun w.toList) :
    StandsIn (.seq (exactly w) (opt (exactly "s"))) text ↔
      w.toList ∈ runs text.toList ∨ (w ++ "s").toList ∈ runs text.toList := by
  have hplural : IsWordRun (w ++ "s").toList := by
    rw [String.toList_append]
    refine ⟨List.append_ne_nil_of_left_ne_nil hw.ne_nil _, fun c hc => ?_⟩
    rcases List.mem_append.1 hc with hc | hc
    · exact hw.word c hc
    · obtain rfl := List.mem_singleton.1 hc
      decide
  rw [← standsIn_exactly_iff hw, ← standsIn_exactly_iff hplural, or_comm, ← standsIn_alt_iff]
  simp only [StandsIn, Takes, opt, Regex.takes_exactly, String.toList_append,
    Cursor.goes_append_iff, Cursor.goes_nil_iff, and_or_left, exists_or, exists_eq_right]

theorem standsIn_pair_iff (first second : String) (hfirst : IsWordRun first.toList)
    (hsecond : IsWordRun second.toList) :
    StandsIn (inOrder [exactly first, .space, exactly second]) text ↔
      hasPair first second (runs text.toList) = true := by
  have hgap {g : List Char} (hg : IsGap g) :
      (∃ x c d, Cursor.Goes ⟨[], text.toList⟩ x c ∧ c.atBoundary = true ∧
        c.Goes [first.toList, g, second.toList].flatten d ∧ d.atBoundary = true) ↔
        [first.toList, g, second.toList] <:+: runs text.toList := by
    have hflatten :
        [first.toList, g, second.toList].flatten = first.toList ++ (g ++ second.toList) := by
      simp
    apply exists_boundaries_iff
    · exact Text.runs_pair hfirst hg hsecond
    · rw [hflatten, List.head?_append_of_ne_nil _ hfirst.ne_nil]
      exact fun a ha => hfirst.word a (List.mem_of_mem_head? ha)
    · rw [hflatten, ← List.append_assoc, List.getLast?_append_of_ne_nil _ hsecond.ne_nil]
      exact fun a ha => hsecond.word a (List.mem_of_mem_getLast? ha)
    · rw [hflatten]
      exact List.append_ne_nil_of_left_ne_nil hfirst.ne_nil _
  rw [hasPair_iff]
  constructor
  · simp only [StandsIn, Regex.takes_inOrder_cons, Regex.takes_inOrder_nil, Regex.takes_exactly,
      Regex.takes_space, Cursor.goes_nil_iff]
    rintro ⟨x, c, d, hgoes, hc, ⟨m, hm, m', ⟨g, hg, hm'⟩, _, hsecond', rfl⟩, hd⟩
    refine ⟨g, hg.blank, (hgap hg).1 ⟨x, c, _, hgoes, hc, ?_, hd⟩⟩
    simpa using hm.trans (hm'.trans hsecond')
  · rintro ⟨g, hblank, hinfix⟩
    have hmem : g ∈ runs text.toList := hinfix.subset (.tail _ (.head _))
    have hg : IsGap g := ⟨fun hnil => Text.nil_not_mem_runs _ (hnil ▸ hmem), hblank⟩
    obtain ⟨x, c, d, hgoes, hc, hcd, hd⟩ := (hgap hg).2 hinfix
    refine ⟨x, c, d, hgoes, hc, ?_, hd⟩
    simp only [List.flatten_cons, List.flatten_nil, List.append_nil,
      Cursor.goes_append_iff] at hcd
    obtain ⟨m, hm, m', hm', hsecond'⟩ := hcd
    simp only [Regex.takes_inOrder_cons, Regex.takes_inOrder_nil, Regex.takes_exactly,
      Regex.takes_space, Cursor.goes_nil_iff]
    exact ⟨m, hm, m', ⟨g, hg, hm'⟩, d, hsecond', rfl⟩

theorem isIn_exactly_iff (text : String) (words : List String) (hne : words ≠ [])
    (hw : ∀ w ∈ words, IsWordRun w.toList) :
    (aggregationPhrases.phrase (words.map exactly)).isIn text =
      hasWord (runs text.toList) words := by
  rw [Bool.eq_iff_iff, isIn_phrase_iff (by simpa using hne), hasWord_iff]
  simp only [List.mem_map, exists_exists_and_eq_and]
  exact exists_congr fun w => and_congr_right fun hmem => standsIn_exactly_iff (hw w hmem)

theorem isIn_sum :
    (aggregationPhrases.phrase [.seq (exactly "total") (opt (exactly "s")), exactly "sum"]).isIn
      text = hasWord (runs text.toList) ["total", "totals", "sum"] := by
  rw [Bool.eq_iff_iff, isIn_phrase_iff (List.cons_ne_nil _ _), hasWord_iff]
  simp only [List.mem_cons, List.not_mem_nil, or_false, exists_eq_or_imp, exists_eq_left,
    standsIn_plural_iff (w := "total") (by decide),
    standsIn_exactly_iff (w := "sum") (by decide), or_assoc]
  rfl

theorem isIn_count :
    (aggregationPhrases.phrase [.seq (exactly "count") (opt (exactly "s")),
      inOrder [exactly "how", .space, exactly "many"],
      inOrder [exactly "number", .space, exactly "of"]]).isIn text =
      (hasWord (runs text.toList) ["count", "counts"] ||
        hasPair "how" "many" (runs text.toList) ||
        hasPair "number" "of" (runs text.toList)) := by
  rw [Bool.eq_iff_iff, isIn_phrase_iff (List.cons_ne_nil _ _), Bool.or_eq_true, Bool.or_eq_true,
    hasWord_iff]
  simp only [List.mem_cons, List.not_mem_nil, or_false, exists_eq_or_imp, exists_eq_left,
    standsIn_plural_iff (w := "count") (by decide), or_assoc,
    standsIn_pair_iff "how" "many" (by decide) (by decide),
    standsIn_pair_iff "number" "of" (by decide) (by decide)]
  rfl

/-- The first kind of which a keyword is a whole word of the prompt, the average if there is
none. -/
theorem aggregation_eq (prompt : String) :
    aggregation prompt =
      if hasWord (runs (lower prompt).toList) ["total", "totals", "sum"] then .sum
      else if hasWord (runs (lower prompt).toList) ["count", "counts"] ||
          hasPair "how" "many" (runs (lower prompt).toList) ||
          hasPair "number" "of" (runs (lower prompt).toList) then .count
      else if hasWord (runs (lower prompt).toList) ["min", "minimum", "lowest"] then .min
      else if hasWord (runs (lower prompt).toList) ["max", "maximum", "highest"] then .max
      else .avg := by
  have hmin := isIn_exactly_iff (lower prompt) ["min", "minimum", "lowest"] (by decide)
    (by decide)
  have hmax := isIn_exactly_iff (lower prompt) ["max", "maximum", "highest"] (by decide)
    (by decide)
  simp only [List.map_cons, List.map_nil] at hmin hmax
  simp only [aggregation, aggregationPhrases, List.find?_cons, List.find?_nil, isIn_sum,
    isIn_count, hmin, hmax]
  cases hasWord (runs (lower prompt).toList) ["total", "totals", "sum"] with
  | true => rfl
  | false =>
    cases hasWord (runs (lower prompt).toList) ["count", "counts"] ||
        hasPair "how" "many" (runs (lower prompt).toList) ||
        hasPair "number" "of" (runs (lower prompt).toList) with
    | true => rfl
    | false =>
      cases hasWord (runs (lower prompt).toList) ["min", "minimum", "lowest"] with
      | true => rfl
      | false =>
        cases hasWord (runs (lower prompt).toList) ["max", "maximum", "highest"] <;> rfl

end PromptChart.Prompt
