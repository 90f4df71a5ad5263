import PromptChart.Proofs.Text.Lowered
import PromptChart.Proofs.Trace.Gathered
import PromptChart.Proofs.Trace.Queried

namespace PromptChart.Trace

open Json (escaped escapeSigns isVerbatim writtenIn)
open Text (contains distinct lower lowerChar)

def markerSigns : List Char := "avg(eragesumcount".toList

/-- Some escape ends in the first sign of a marker, and the text behind it goes on with the
marker in lower case. -/
def Arises (marker cs : List Char) : Prop :=
  ∃ a after sign, a :: after <:+ cs ∧ isVerbatim a = false ∧ (escaped a).getLast? = some sign ∧
    marker <+: sign :: after.map lowerChar

variable {a first second : Char} {cs m rest x y : List Char}

theorem isVerbatim_of_lowerChar (h : lowerChar a ∈ markerSigns) : isVerbatim a = true := by
  have hsigns : ∀ d ∈ markerSigns, 0 < d.toNat ∧ d.toNat < 128 ∧ d ≠ 'i' ∧ d ≠ 'k' := by decide
  obtain ⟨hpos, hbound, hi, hk⟩ := hsigns _ h
  exact Text.forall_ascii (p := fun a => lowerChar a ∈ markerSigns → isVerbatim a = true)
    (by decide) (Text.toNat_lt_of_lowerChar ⟨hpos, hbound⟩ hi hk) h

theorem lowered_cases (a : Char) :
    isVerbatim a = true ∧ (escaped a).map lowerChar = [lowerChar a] ∨
      isVerbatim a = false ∧
        ∃ signs, (escaped a).map lowerChar = escaped a ∧ escaped a = '\\' :: signs ∧
        ∀ d ∈ signs, d ∈ escapeSigns := by
  cases ha : isVerbatim a with
  | true => exact .inl ⟨rfl, by rw [Json.escaped_of_isVerbatim ha]; rfl⟩
  | false =>
    have hlowered : ∀ d ∈ '\\' :: escapeSigns, lowerChar d = d := by decide
    obtain ⟨signs, hsigns, -, hmem⟩ :=
      (Json.escaped_cases a).resolve_left (of_decide_eq_false ha)
    have hfixed : ∀ d ∈ escaped a, lowerChar d = id d := by
      rw [hsigns]
      exact List.forall_mem_cons.2 ⟨hlowered _ (.head _),
        fun d hd => hlowered d (.tail _ (hmem d hd))⟩
    exact .inr ⟨rfl, signs, (List.map_congr_left hfixed).trans (List.map_id _), hsigns, hmem⟩

theorem prefix_writtenIn_iff (hm : ∀ d ∈ m, d ∈ markerSigns) :
    m <+: (writtenIn cs).map lowerChar ↔ m <+: cs.map lowerChar := by
  induction m generalizing cs with
  | nil => exact iff_of_true List.nil_prefix List.nil_prefix
  | cons d m ih =>
    obtain ⟨hd, hm⟩ := List.forall_mem_cons.1 hm
    cases cs with
    | nil => rfl
    | cons a cs =>
      rw [Json.writtenIn_cons, List.map_append, List.map_cons]
      rcases lowered_cases a with ⟨-, hwritten⟩ | ⟨hescaped, signs, hwritten, hsigns, -⟩
      · rw [hwritten, List.singleton_append, List.cons_prefix_cons, List.cons_prefix_cons,
          ih hm]
      · rw [hwritten, hsigns, List.cons_append, List.cons_prefix_cons, List.cons_prefix_cons]
        refine iff_of_false ?_ ?_
        · rintro ⟨rfl, -⟩
          exact absurd hd (by decide)
        · rintro ⟨rfl, -⟩
          exact absurd (isVerbatim_of_lowerChar hd) (ne_true_of_eq_false hescaped)

/-- A stretch whose first two characters do not stand in `x` both starts with the last of `x` or
behind it. -/
theorem infix_append_iff_of_pair (hpair : first ∉ x ∨ second ∉ x) :
    first :: second :: rest <:+: x ++ y ↔
      x.getLast? = some first ∧ second :: rest <+: y ∨ first :: second :: rest <:+: y := by
  induction x with
  | nil => simp
  | cons a x ih =>
    rw [List.cons_append, List.infix_cons_iff, List.cons_prefix_cons,
      ih (hpair.imp (mt (.tail a)) (mt (.tail a)))]
    cases x with
    | nil => simp [eq_comm]
    | cons b x =>
      have hnot : ¬ (first = a ∧ second :: rest <+: b :: x ++ y) := by
        rw [List.cons_append, List.cons_prefix_cons]
        rintro ⟨rfl, rfl, -⟩
        exact hpair.elim (· (.head _)) (· (.tail _ (.head _)))
      rw [or_iff_right hnot, List.getLast?_cons_cons]

theorem arises_cons_iff : Arises m (a :: cs) ↔
    (isVerbatim a = false ∧
      ∃ sign, (escaped a).getLast? = some sign ∧ m <+: sign :: cs.map lowerChar) ∨
      Arises m cs := by
  simp only [Arises, List.suffix_cons_iff, List.cons.injEq, or_and_right, exists_or, and_assoc]
  simp

theorem infix_writtenIn_iff (hm : ∀ d ∈ first :: second :: rest, d ∈ markerSigns)
    (hpair : first ∉ escapeSigns ∨ second ∉ escapeSigns) :
    first :: second :: rest <:+: (writtenIn cs).map lowerChar ↔
      first :: second :: rest <:+: cs.map lowerChar ∨ Arises (first :: second :: rest) cs := by
  induction cs with
  | nil => simp [writtenIn, Arises]
  | cons a cs ih =>
    have hrest := (List.forall_mem_cons.1 hm).2
    rw [Json.writtenIn_cons, List.map_append, List.map_cons, arises_cons_iff]
    rcases lowered_cases a with ⟨hverbatim, hwritten⟩ | ⟨hescaped, signs, hwritten, hsigns,
      hmem⟩
    · have hnot : ¬ isVerbatim a = false := ne_false_of_eq_true hverbatim
      rw [hwritten, List.singleton_append, List.infix_cons_iff, List.cons_prefix_cons,
        prefix_writtenIn_iff hrest, ← List.cons_prefix_cons, ih, ← or_assoc,
        ← List.infix_cons_iff, or_congr_right (or_iff_right (mt And.left hnot))]
    · have hne : ¬ first :: second :: rest <+: lowerChar a :: cs.map lowerChar := by
        rw [List.cons_prefix_cons]
        rintro ⟨rfl, -⟩
        exact absurd (isVerbatim_of_lowerChar (hm _ (.head _))) (ne_true_of_eq_false hescaped)
      have hsign {d : Char} (hd : d ∉ escapeSigns) : d ∉ escaped a := by
        rw [hsigns]
        exact List.not_mem_cons_of_ne_of_not_mem (fun h => hd (h ▸ by decide)) (mt (hmem d) hd)
      have hlast : (∃ sign, (escaped a).getLast? = some sign ∧
          first :: second :: rest <+: sign :: cs.map lowerChar) ↔
          (escaped a).getLast? = some first ∧ second :: rest <+: cs.map lowerChar := by
        simp only [List.cons_prefix_cons]
        constructor
        · rintro ⟨_, hlast, rfl, hprefix⟩
          exact ⟨hlast, hprefix⟩
        · rintro ⟨hlast, hprefix⟩
          exact ⟨first, hlast, rfl, hprefix⟩
      rw [hwritten, infix_append_iff_of_pair (hpair.imp hsign hsign), ih,
        prefix_writtenIn_iff hrest, List.infix_cons_iff, or_iff_right hne,
        and_iff_right hescaped, hlast, or_left_comm]

/-- A marker of which the first two letters do not both stand in escapes, and which the text
around a query does not have. -/
structure IsMarker (marker : String) (first second : Char) (rest : List Char) : Prop where
  toList_eq : marker.toList = first :: second :: rest
  signs : ∀ d ∈ marker.toList, d ∈ markerSigns
  pair : first ∉ escapeSigns ∨ second ∉ escapeSigns
  free : ¬ marker.toList <:+: "\x7b\"sql\": ".toList

variable {marker sql : String}

theorem IsMarker.contains_lower_iff (h : IsMarker marker first second rest) (text : String) :
    contains (lower text) marker = true ↔ marker.toList <:+: text.toList.map lowerChar := by
  have hsteady : ∀ d ∈ markerSigns, Text.IsSteady d := by decide
  rw [contains, Text.occursIn_iff, Text.toList_lower,
    Text.infix_lowerFrom_iff ?_ fun d hd => hsteady d (h.signs d hd)]
  rw [h.toList_eq]
  exact List.cons_ne_nil _ _

theorem infix_append_cons_iff (hne : m ≠ []) (ha : a ∉ m) :
    m <:+: x ++ a :: y ↔ m <:+: x ∨ m <:+: y := by
  have hskip : m <:+: a :: y ↔ m <:+: y :=
    Text.infix_append_iff_of_not_mem (x := [a]) hne (List.forall_mem_singleton.2 ha)
  rw [List.infix_append_iff, hskip]
  constructor
  · rintro (hx | hy | ⟨u, v, rfl, hu, hv⟩)
    · exact .inl hx
    · exact .inr hy
    · cases v with
      | nil =>
        rw [List.append_nil]
        exact .inl hu.isInfix
      | cons b v =>
        obtain ⟨rfl, -⟩ := List.cons_prefix_cons.1 hv
        exact absurd (List.mem_append_right u (.head v)) ha
  · rintro (hx | hy)
    · exact .inl hx
    · exact .inr (.inl hy)

theorem IsMarker.contains_queryStep_iff (h : IsMarker marker first second rest) (sql : String) :
    contains (lower (stepText (queryStep sql))) marker = true ↔
      contains (lower sql) marker = true ∨ Arises marker.toList sql.toList := by
  have hne : marker.toList ≠ [] := h.toList_eq ▸ List.cons_ne_nil _ _
  have hquote : '"' ∉ marker.toList := fun hmem => absurd (h.signs _ hmem) (by decide)
  have hclose : ¬ marker.toList <:+: ['\x7d'] := by
    intro hinfix
    have hlength := hinfix.length_le
    rw [h.toList_eq] at hlength
    simp at hlength
  have htext : (stepText (queryStep sql)).toList.map lowerChar =
      "\x7b\"sql\": ".toList ++
        '"' :: ((writtenIn sql.toList).map lowerChar ++ '"' :: ['\x7d']) := by
    have hfront : "\x7b\"sql\": \"".toList.map lowerChar = "\x7b\"sql\": ".toList ++ ['"'] := by
      decide
    have hback : "\"\x7d".toList.map lowerChar = ['"', '\x7d'] := by decide
    rw [toList_stepText_queryStep, List.map_append, List.map_append, hfront, hback,
      List.append_assoc]
    rfl
  rw [h.contains_lower_iff, h.contains_lower_iff, htext, infix_append_cons_iff hne hquote,
    or_iff_right h.free, infix_append_cons_iff hne hquote, or_iff_left hclose, h.toList_eq]
  exact infix_writtenIn_iff (h.toList_eq ▸ h.signs) h.pair

theorem IsMarker.contains_queryStep_eq (h : IsMarker marker first second rest)
    (hnone : ¬ Arises marker.toList sql.toList) :
    contains (lower (stepText (queryStep sql))) marker = contains (lower sql) marker :=
  Bool.eq_iff_iff.2 ((h.contains_queryStep_iff sql).trans (or_iff_left hnone))

theorem mem_escapeSigns_of_arises (h : Arises (first :: rest) cs) : first ∈ escapeSigns := by
  obtain ⟨a, after, sign, -, hescaped, hlast, hprefix⟩ := h
  obtain ⟨rfl, -⟩ := List.cons_prefix_cons.1 hprefix
  rcases lowered_cases a with ⟨hverbatim, -⟩ | ⟨-, signs, -, hsigns, hmem⟩
  · exact absurd hverbatim (ne_true_of_eq_false hescaped)
  · have hmem' := List.mem_of_mem_getLast? hlast
    rw [hsigns] at hmem'
    rcases List.mem_cons.1 hmem' with rfl | hmem'
    · decide
    · exact hmem _ hmem'

/-- A step that asks a query mentions the aggregation of the query unless escapes make up a
marker of one that comes first. -/
theorem aggregation?_queryStep_iff (sql : String) :
    aggregation? (lower (stepText (queryStep sql))) = aggregation? (lower sql) ↔
      (Arises "avg(".toList sql.toList ∨ Arises "average".toList sql.toList →
        aggregation? (lower sql) = some .avg) ∧
        (Arises "count(".toList sql.toList → aggregation? (lower sql) ≠ none) := by
  have havg : IsMarker "avg(" 'a' 'v' "g(".toList := ⟨rfl, by decide, by decide, by decide⟩
  have haverage : IsMarker "average" 'a' 'v' "erage".toList :=
    ⟨rfl, by decide, by decide, by decide⟩
  have hsum : IsMarker "sum(" 's' 'u' "m(".toList := ⟨rfl, by decide, by decide, by decide⟩
  have hcount : IsMarker "count(" 'c' 'o' "unt(".toList :=
    ⟨rfl, by decide, by decide, by decide⟩
  have hnone : ¬ Arises "sum(".toList sql.toList :=
    fun h => absurd (mem_escapeSigns_of_arises h) (by decide)
  by_cases haverages : Arises "avg(".toList sql.toList ∨ Arises "average".toList sql.toList
  · have hfirst : aggregation? (lower (stepText (queryStep sql))) = some .avg := by
      rw [aggregation?, if_pos]
      rw [Bool.or_eq_true, havg.contains_queryStep_iff, haverage.contains_queryStep_iff]
      exact haverages.imp .inr .inr
    rw [hfirst, imp_iff_right haverages, eq_comm]
    exact ⟨fun h => ⟨h, fun _ => h ▸ Option.some_ne_none _⟩, And.left⟩
  · rw [not_or] at haverages
    rw [aggregation?, havg.contains_queryStep_eq haverages.1,
      haverage.contains_queryStep_eq haverages.2, hsum.contains_queryStep_eq hnone]
    by_cases hcounts : Arises "count(".toList sql.toList
    · have hlast : contains (lower (stepText (queryStep sql))) "count(" = true :=
        (hcount.contains_queryStep_iff sql).2 (.inr hcounts)
      rw [if_pos hlast, aggregation?, and_iff_right fun h => absurd h (not_or.2 haverages),
        imp_iff_right hcounts]
      split
      · simp
      · split
        · simp
        · split <;> simp
    · rw [hcount.contains_queryStep_eq hcounts]
      exact iff_of_true rfl ⟨fun h => absurd h (not_or.2 haverages), fun h => absurd h hcounts⟩

/-- A text that tells the same as it is and as JSON writes it. -/
structure ReadsAlike (text : String) : Prop where
  terms : distinct (lookedUpWritten text) = distinct (lookedUp text)
  average : Arises "avg(".toList text.toList ∨ Arises "average".toList text.toList →
    aggregation? (lower text) = some .avg
  count : Arises "count(".toList text.toList → aggregation? (lower text) ≠ none

/-- Two charts have the same terms, filters and aggregation. -/
structure SaysSame (said asked : ChartConfig) : Prop where
  terms : asked.terms = said.terms
  filters : asked.filters = said.filters
  aggregation : asked.aggregation = said.aggregation

variable {c : Catalog} {visualization : Json} {start : ChartConfig} {prompt text : String}

theorem termClause_injective (field : String) : (termClause field).Injective := by
  intro s t h
  rw [termClause, termClause] at h
  exact (String.append_right_inj _).1 ((String.append_left_inj _).1 h)

theorem keyword_injective :
    (fun mark : Option Aggregation => mark.elim "" Aggregation.keyword).Injective := by
  intro a b h
  rcases a with _ | a <;> rcases b with _ | b
  · rfl
  · cases b <;> exact absurd h (by decide)
  · cases a <;> exact absurd h (by decide)
  · cases a <;> cases b <;> first | rfl | exact absurd h (by decide)

theorem saysSame_iff {said asked : ChartConfig} {old new more : List String}
    {mark next : Option Aggregation} (hsaid : Adds c new mark { terms := old } said)
    (hasked : Adds c more next { terms := old } asked) :
    SaysSame said asked ↔ distinct more = distinct new ∧ next = mark := by
  have hfilters : asked.filters = said.filters ↔ distinct more = distinct new := by
    rw [hsaid.filters, hasked.filters, foldl_addNew_nil, foldl_addNew_nil,
      Text.distinct_map (termClause_injective c.textField),
      Text.distinct_map (termClause_injective c.textField)]
    exact (List.map_injective_iff.2 (termClause_injective c.textField)).eq_iff
  have haggregation : asked.aggregation = said.aggregation ↔ next = mark := by
    rw [hsaid.aggregation, hasked.aggregation]
    exact keyword_injective.eq_iff
  constructor
  · exact fun h => ⟨hfilters.1 h.filters, haggregation.1 h.aggregation⟩
  · rintro ⟨hterms, hmark⟩
    refine ⟨?_, hfilters.2 hterms, haggregation.2 hmark⟩
    rw [hsaid.terms, hasked.terms, foldl_addNew, foldl_addNew, hterms]

/-- A text that a step says tells the same as one that a step asks as a query exactly if it
reads alike. -/
theorem saidStep_queryStep_iff (c : Catalog) (prompt text : String)
    (h : IsDrawable visualization) :
    ∃ said asked, read c (.array [saidStep text]) visualization (.text prompt) = .ok said ∧
      read c (.array [queryStep text]) visualization (.text prompt) = .ok asked ∧
      (SaysSame said asked ↔ ReadsAlike text) := by
  obtain ⟨start, hstart⟩ := exists_drawn_iff.2 h
  refine ⟨_, _, read_eq_gathered hstart (elementsOrNone_array _) prompt,
    read_eq_gathered hstart (elementsOrNone_array _) prompt, ?_⟩
  rw [saysSame_iff (gathered_singleton hstart prompt (saidStep text))
    (gathered_singleton hstart prompt (queryStep text)), lookedUp_queryStep, marked?, marked?]
  have hsaid : stepText (saidStep text) = text := rfl
  rw [hsaid, aggregation?_queryStep_iff]
  exact ⟨fun h => ⟨h.1, h.2.1, h.2.2⟩, fun h => ⟨h.terms, h.average, h.count⟩⟩

/-- A text in which JSON escapes nothing tells the same in either kind of step, whatever its
clauses and markers are. -/
theorem readsAlike_of_isVerbatim (h : ∀ a ∈ text.toList, isVerbatim a = true) :
    ReadsAlike text := by
  have hnone {marker : List Char} : ¬ Arises marker text.toList := by
    rintro ⟨a, after, sign, hsuffix, hescaped, -⟩
    exact absurd (h a (hsuffix.subset (.head after))) (ne_true_of_eq_false hescaped)
  refine ⟨?_, fun hmarker => absurd hmarker (not_or.2 ⟨hnone, hnone⟩),
    fun hmarker => absurd hmarker hnone⟩
  obtain ⟨ks, hks⟩ := Regex.exists_scans Clause.text_ne_nil text.toList
  have hverbatim : ∀ k ∈ ks, ∀ a ∈ k.text, isVerbatim a = true :=
    fun k hk a ha => h a ((hks.isInfix k hk).subset ha)
  have hkept : ks.filter Clause.isKept = ks := by
    rw [List.filter_eq_self]
    exact fun k hk =>
      List.all_eq_true.2 fun a ha => hverbatim k hk a (List.mem_append_left _ ha)
  have hterm :
      ∀ k ∈ ks,
        Text.stripped (String.ofList k.written.body) =
          Text.stripped (String.ofList k.body) := by
    intro k hk
    have hbody : k.written.body = k.body := by
      refine Json.writtenIn_of_isVerbatim fun a ha => hverbatim k hk a ?_
      simp [Clause.text, ha]
    rw [hbody]
  have hterms : (ks.map Clause.written).map (fun k => Text.stripped (String.ofList k.body)) =
      ks.map fun k => Text.stripped (String.ofList k.body) := by
    rw [List.map_map]
    exact List.map_congr_left hterm
  rw [lookedUpWritten_of_scans hks, lookedUp_of_scans hks, hkept, hterms]

def carrierQuery : String :=
  "SELECT \"carrier\",\n\tAVG(retail) WHERE item ILIKE '%Drawer%' -- caf\u00e9"

theorem saidStep_queryStep_drawers :
    IsDrawable bars ∧
      ∃ said asked, read .freight (.array [saidStep carrierQuery]) bars (.text "") = .ok said ∧
      read .freight (.array [queryStep carrierQuery]) bars (.text "") = .ok asked ∧
      SaysSame said asked := by
  obtain ⟨said, asked, hsaid, hasked, hiff⟩ := saidStep_queryStep_iff .freight "" carrierQuery
    isDrawable_bars
  exact ⟨isDrawable_bars, said, asked, hsaid, hasked,
    hiff.2 ⟨by decide, fun _ => by decide, fun _ => by decide⟩⟩

/-- A term with a double quote has a backslash too once it is written. -/
theorem not_forall_saysSame :
    ¬ ∀ (visualization : Json) (prompt text : String) (said asked : ChartConfig),
      read .freight (.array [saidStep text]) visualization (.text prompt) = .ok said →
      read .freight (.array [queryStep text]) visualization (.text prompt) = .ok asked →
      SaysSame said asked := by
  intro h
  have hread (step : Json) := read_eq_gathered (c := .freight) drawn_bars
    (elementsOrNone_array [step]) ""
  have htold (step : Json) := gathered_singleton (c := .freight) drawn_bars "" step
  have hsame := h bars "" "description ILIKE '%36\" Drawer%'" _ _ (hread (saidStep _))
    (hread (queryStep _))
  have hterms := ((saysSame_iff (htold (saidStep _)) (htold (queryStep _))).1 hsame).1
  rw [lookedUp_queryStep] at hterms
  exact absurd hterms (by decide)

end PromptChart.Trace
