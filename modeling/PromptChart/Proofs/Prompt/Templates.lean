import PromptChart.Catalog.Freight
import PromptChart.Proofs.Prompt.Rules
import PromptChart.Proofs.Regex.Captures
import PromptChart.Proofs.Text.Plain

namespace PromptChart.Prompt

open Text (IsGap IsSolid IsWordRun IsPlain IsTrimmed SameLetters isBlank isWord isSmall
  isNameChar lower words)
open Regex (Cursor State Takes Prefers caseless inOrder firstOf word)

def connectors : List String := ["by", "per", "for"]

def joints : List String := ["by", "and", "per", "grouped by", "&"]

def verbs : List String := ["average", "avg", "total", "sum", "count", "show", "get"]

/-- Is a word among others, and found there before any of them? -/
structure IsOffered (words : List String) (word : String) : Prop where
  mem : word ∈ words
  head : word.toList.head?.any isBlank = false ∧ word.toList ≠ []
  others : ∀ other ∈ words, other = word ∨ Regex.diverges other.toList word.toList = true

instance (words : List String) (word : String) : Decidable (IsOffered words word) :=
  decidable_of_iff (word ∈ words ∧ (word.toList.head?.any isBlank = false ∧ word.toList ≠ []) ∧
    ∀ other ∈ words, other = word ∨ Regex.diverges other.toList word.toList = true)
    ⟨fun h => ⟨h.1, h.2.1, h.2.2⟩, fun h => ⟨h.1, h.2, h.3⟩⟩

variable {before g g₁ g₂ g₃ g₄ m a b w x y : List Char} {captures : List Regex.Capture}
  {c₁ c₂ verb : String}

theorem prefers_token (index : Nat) (hw : IsWordRun w) (hy : ∀ c ∈ y.head?, isWord c = false) :
    (token index).Prefers ⟨⟨before, w ++ y⟩, captures⟩
      ⟨⟨w.reverse ++ before, y⟩,
        ⟨index, ⟨before, w ++ y⟩, ⟨w.reverse ++ before, y⟩⟩ :: captures⟩ :=
  Prefers.group (Regex.prefers_plus hw.ne_nil hw.word hy)

theorem prefers_anyOf {words : List String} (h : IsOffered words verb) :
    (anyOf words).Prefers ⟨⟨before, verb.toList ++ y⟩, captures⟩
      ⟨⟨verb.toList.reverse ++ before, y⟩, captures⟩ :=
  Regex.prefers_firstOf h.mem h.others

theorem IsOffered.not_isBlank_head {words : List String} (h : IsOffered words verb) :
    ∀ c ∈ (verb.toList ++ y).head?, isBlank c = false := by
  obtain ⟨hhead, hne⟩ := h.head
  intro c hc
  rw [List.head?_append_of_ne_nil _ hne] at hc
  rwa [Option.mem_def.1 hc] at hhead

theorem prefers_slots {first second : List String} (h₁ : IsOffered first c₁)
    (h₂ : IsOffered second c₂) (hm : IsWordRun m) (ha : IsWordRun a) (hb : IsWordRun b)
    (hg₁ : IsGap g₁) (hg₂ : IsGap g₂) (hg₃ : IsGap g₃) (hg₄ : IsGap g₄) :
    ∃ e, (inOrder (slots first second)).Prefers
        ⟨⟨before, m ++ (g₁ ++ (c₁.toList ++ (g₂ ++ (a ++ (g₃ ++ (c₂.toList ++ (g₄ ++ b)))))))⟩,
          []⟩ e ∧
      e.texts = [(3, b), (2, a), (1, m)] := by
  rw [← List.append_nil b]
  refine ⟨_, (prefers_token 1 hm hg₁.not_isWord_head).inOrder_cons
    ((Regex.prefers_space hg₁ h₁.not_isBlank_head).inOrder_cons ((prefers_anyOf h₁).inOrder_cons
    ((Regex.prefers_space hg₂ ha.isSolid.head).inOrder_cons
    ((prefers_token 2 ha hg₃.not_isWord_head).inOrder_cons
    ((Regex.prefers_space hg₃ h₂.not_isBlank_head).inOrder_cons ((prefers_anyOf h₂).inOrder_cons
    ((Regex.prefers_space hg₄ hb.isSolid.head).inOrder_cons
    ((prefers_token 3 hb (by simp)).inOrder_cons (Regex.prefers_empty _))))))))), ?_⟩
  simp [State.texts, Regex.Capture.text, Cursor.textTo]

variable {c : Catalog} {ctx : Context}

structure IsLettered (s : String) : Prop where
  ne_nil : s.toList ≠ []
  small : ∀ c ∈ s.toList, isSmall c = true

/-- Some small letters, digits and underscores. -/
structure IsName (s : String) : Prop where
  ne_nil : s.toList ≠ []
  named : ∀ c ∈ s.toList, isNameChar c = true

theorem IsName.isWordRun {s : String} (h : IsName s) : IsWordRun s.toList :=
  ⟨h.ne_nil, fun c hc => Text.isWord_of_isNameChar (h.named c hc)⟩

theorem IsLettered.isName {s : String} (h : IsLettered s) : IsName s :=
  ⟨h.ne_nil, fun c hc => Text.isNameChar_of_isSmall (h.small c hc)⟩

theorem dimension?_of_lookup {token field : String} (htoken : IsLettered token)
    (h : c.dimensionAliases.lookup token = some field) : c.dimension? token = some field := by
  rw [Catalog.dimension?, Catalog.dimensionIn?, Text.cleanToken_of_isSmall htoken.small, h]

theorem isDimensionAlias_of_lookup {token field : String} (htoken : IsLettered token)
    (h : c.dimensionAliases.lookup token = some field) : c.isDimensionAlias token = true := by
  rw [Catalog.isDimensionAlias, Text.cleanToken_of_isSmall htoken.small, h]
  rfl

theorem readSlots_of_texts {found : Regex.Match}
    {metric first second primary secondary : String} (hfirst : IsLettered first)
    (hsecond : IsLettered second)
    (hprimary : ctx.catalog.dimensionAliases.lookup first = some primary)
    (hsecondary : ctx.catalog.dimensionAliases.lookup second = some secondary)
    (h : found.texts = [(3, second.toList), (2, first.toList), (1, metric.toList)]) :
    readSlots ctx found = some ⟨primary, secondary, ctx.catalog.metric metric, ctx.aggregation,
      ctx.terms⟩ := by
  have hgroup (index : Nat) (token : String) (htoken : found.texts.lookup index =
    some token.toList) :
      found.group index = token := by
    rw [Regex.Match.group_eq, htoken, Option.getD_some, String.ofList_toList]
  rw [readSlots, hgroup 1 metric (by rw [h]; rfl), hgroup 2 first (by rw [h]; rfl),
    hgroup 3 second (by rw [h]; rfl), Context.recognises,
    isDimensionAlias_of_lookup hfirst hprimary]
  simp only [Bool.true_or, ↓reduceIte, Context.breakdown?, dimension?_of_lookup hfirst hprimary,
    dimension?_of_lookup hsecond hsecondary]
  rfl

theorem classify_of_firstAccepted {text : String} {r : Rule} {b : Breakdown}
    (hne : text.toList ≠ []) (hplain : ∀ c ∈ text.toList, IsPlain c ∨ isBlank c = true)
    (htrimmed : IsTrimmed text.toList) (h : firstAccepted (Context.of c text) = some (r, b)) :
    classify c text = some (.breakdown b) := by
  have hlowered : Text.stripped (lower text) = text := by
    rw [Text.stripped, lower, String.toList_ofList, Text.lowerFrom_of_isPlain hplain,
      htrimmed.trim_eq, String.ofList_toList]
  have hempty : text.isEmpty = false := by
    rw [Bool.eq_false_iff, ne_eq, String.isEmpty_iff]
    rintro rfl
    exact hne rfl
  simp only [classify, hlowered, hempty, h]
  rfl

theorem apply_ofPattern (name : String) (pattern : Regex)
    (read : Context → Regex.Match → Option Breakdown) :
    (Rule.ofPattern name pattern read).apply ctx =
      (pattern.search ctx.lowered).bind (read ctx) := rfl

theorem firstAccepted_of_aggregateVerb (ctx : Context) {b : Breakdown}
    (h : (aggregateVerb.search ctx.lowered).bind (readSlots ctx) = some b) :
    ∃ r, firstAccepted ctx = some (r, b) := by
  refine ⟨.ofPattern "aggregate_verb" aggregateVerb readSlots, ?_⟩
  rw [firstAccepted, rules, List.findSome?_cons, apply_ofPattern, h]
  rfl

theorem firstAccepted_of_metricByPair (ctx : Context) {b : Breakdown}
    (hnone : aggregateVerb.search ctx.lowered = none)
    (h : (metricByPair.search ctx.lowered).bind (readSlots ctx) = some b) :
    ∃ r, firstAccepted ctx = some (r, b) := by
  refine ⟨.ofPattern "metric_by_pair" metricByPair readSlots, ?_⟩
  rw [firstAccepted, rules, List.findSome?_cons, apply_ofPattern, hnone, List.findSome?_cons,
    apply_ofPattern, h]
  rfl

/-- A metric, two aliases of dimensions with the fields that they stand for, the words between
them, and the white space between the words. -/
structure Wording (c : Catalog) where
  metric : String
  connector : String
  first : String
  joint : String
  second : String
  gap₁ : List Char
  gap₂ : List Char
  gap₃ : List Char
  gap₄ : List Char
  primary : String
  secondary : String
  isName : IsName metric
  connector_mem : connector ∈ connectors
  isLettered_first : IsLettered first
  lookup_first : c.dimensionAliases.lookup first = some primary
  joint_mem : joint ∈ joints ++ ["for each"]
  isLettered_second : IsLettered second
  lookup_second : c.dimensionAliases.lookup second = some secondary
  isGap₁ : IsGap gap₁
  isGap₂ : IsGap gap₂
  isGap₃ : IsGap gap₃
  isGap₄ : IsGap gap₄

namespace Wording

variable (w : Wording c)

def chars : List Char :=
  w.metric.toList ++ (w.gap₁ ++ (w.connector.toList ++ (w.gap₂ ++ (w.first.toList ++ (w.gap₃ ++
    (w.joint.toList ++ (w.gap₄ ++ w.second.toList)))))))

def text : String := String.ofList w.chars

def textAfter (verb : String) (gap : List Char) : String :=
  String.ofList (verb.toList ++ (gap ++ w.chars))

def breakdown (prompt : String) : Breakdown :=
  ⟨w.primary, w.secondary, c.metric w.metric, aggregation prompt, terms c prompt⟩

theorem plain_chars : ∀ a ∈ w.chars, IsPlain a ∨ isBlank a = true := by
  have hconnectors :
      ∀ connector ∈ connectors, ∀ a ∈ connector.toList, IsPlain a ∨ isBlank a = true := by
    decide +kernel
  have hjoints : ∀ joint ∈ joints ++ ["for each"],
      ∀ a ∈ joint.toList, IsPlain a ∨ isBlank a = true := by
    decide +kernel
  have hname {s : String} (h : IsName s) : ∀ a ∈ s.toList, IsPlain a ∨ isBlank a = true :=
    fun a ha => .inl (Text.isPlain_of_isNameChar (h.named a ha))
  have hgap {g : List Char} (h : IsGap g) : ∀ a ∈ g, IsPlain a ∨ isBlank a = true :=
    fun a ha => .inr (h.blank a ha)
  simp only [chars, List.forall_mem_append]
  exact ⟨hname w.isName, hgap w.isGap₁, hconnectors _ w.connector_mem, hgap w.isGap₂,
    hname w.isLettered_first.isName, hgap w.isGap₃, hjoints _ w.joint_mem, hgap w.isGap₄,
    hname w.isLettered_second.isName⟩

theorem isTrimmed_append {x : List Char} (hx : ∀ a ∈ (x ++ w.chars).head?, isBlank a = false) :
    IsTrimmed (x ++ w.chars) where
  head := hx
  last := by
    intro a ha
    have hlast : (x ++ w.chars).getLast? = w.second.toList.getLast? := by
      simp only [chars, ← List.append_assoc]
      exact List.getLast?_append_of_ne_nil _ w.isLettered_second.ne_nil
    rw [hlast] at ha
    exact w.isLettered_second.isName.isWordRun.isSolid.solid a (List.mem_of_mem_getLast? ha)

theorem words_chars : words w.chars =
    w.metric.toList ::
      w.connector.toList :: w.first.toList :: (words w.joint.toList ++ [w.second.toList]) := by
  have hconnectors : ∀ connector ∈ connectors, IsSolid connector.toList := by decide +kernel
  have hname {s : String} (h : IsName s) : words s.toList = [s.toList] :=
    Text.words_of_isSolid h.isWordRun.isSolid
  rw [chars, Text.words_append_gap w.isGap₁, Text.words_append_gap w.isGap₂,
    Text.words_append_gap w.isGap₃, Text.words_append_gap w.isGap₄, hname w.isName,
    Text.words_of_isSolid (hconnectors _ w.connector_mem), hname w.isLettered_first.isName,
    hname w.isLettered_second.isName]
  rfl

end Wording

theorem eq_of_sameLetters (hx : ∀ c ∈ x, isSmall c = true) (hy : ∀ c ∈ y, isSmall c = true)
    (h : SameLetters x y) : x = y := by
  induction h with
  | nil => rfl
  | cons hab _ ih =>
    obtain ⟨ha, hx⟩ := List.forall_mem_cons.1 hx
    obtain ⟨hb, hy⟩ := List.forall_mem_cons.1 hy
    rw [(Text.sameLetter_iff_of_isSmall ha hb).1 hab, ih hx hy]

theorem takes_token {index : Nat} {c d : Cursor} :
    (token index).Takes c d ↔ ∃ x, IsWordRun x ∧ c.Goes x d :=
  Regex.takes_word

theorem takes_anyOf {words : List String} {c d : Cursor} (hne : words ≠ []) :
    (anyOf words).Takes c d ↔
      ∃ word ∈ words, ∃ x, SameLetters word.toList x ∧ c.Goes x d := by
  rw [anyOf, Regex.takes_firstOf (by simpa using hne)]
  simp only [List.mem_map, exists_exists_and_eq_and, Regex.takes_caseless]

/-- Where the pattern with a verb is found, there are two whole words behind the verb and a
connector between them, and more than one word behind that. -/
theorem exists_words_of_aggregateVerb {text : String} (h : aggregateVerb.isIn text = true) :
    ∃ front u k v joint back, words text.toList = front ++ u :: k :: v :: (joint ++ back) ∧
      front ≠ [] ∧ joint ≠ [] ∧ back ≠ [] ∧
      ∃ connector ∈ connectors, SameLetters connector.toList k := by
  obtain ⟨start, c, d, hstart, htakes⟩ := (Regex.isIn_iff _ _).1 h
  simp only [aggregateVerb, slots, List.cons_append, List.nil_append, Regex.takes_inOrder_cons,
    Regex.takes_inOrder_nil, Cursor.goes_nil_iff] at htakes
  obtain ⟨c₁, hverb, c₂, hg₁, c₃, hu, c₄, hg₂, c₅, hk, c₆, hg₃,
    c₇, hv, c₈, hg₄, c₉, hjoint, c₁₀, hg₅, c₁₁, hw, rfl⟩ := htakes
  obtain ⟨verb, hverbs, front, hfront, hverb⟩ := (takes_anyOf (List.cons_ne_nil _ _)).1 hverb
  obtain ⟨g₁, hgap₁, hg₁⟩ := Regex.takes_space.1 hg₁
  obtain ⟨u, hword₁, hu⟩ := takes_token.1 hu
  obtain ⟨g₂, hgap₂, hg₂⟩ := Regex.takes_space.1 hg₂
  obtain ⟨connector, hconnector, k, hsame, hk⟩ := (takes_anyOf (List.cons_ne_nil _ _)).1 hk
  obtain ⟨g₃, hgap₃, hg₃⟩ := Regex.takes_space.1 hg₃
  obtain ⟨v, hword₂, hv⟩ := takes_token.1 hv
  obtain ⟨g₄, hgap₄, hg₄⟩ := Regex.takes_space.1 hg₄
  obtain ⟨joint, hjoints, j, hj, hjoint⟩ := (takes_anyOf (List.cons_ne_nil _ _)).1 hjoint
  obtain ⟨g₅, hgap₅, hg₅⟩ := Regex.takes_space.1 hg₅
  obtain ⟨w, hword₃, hw⟩ := takes_token.1 hw
  have htext :=
    (hstart.trans (hverb.trans (hg₁.trans (hu.trans (hg₂.trans (hk.trans (hg₃.trans (hv.trans
    (hg₄.trans (hjoint.trans (hg₅.trans hw))))))))))).after
  have hwords :
      text.toList = (start ++ front) ++
        (g₁ ++ (u ++ (g₂ ++ (k ++ (g₃ ++ (v ++ (g₄ ++ (j ++ (g₅ ++
      (w ++ c₁₁.after)))))))))) := by
    simpa only [List.append_assoc] using htext
  have hsolid : ∀ connector ∈ ["by", "per", "for"], IsSolid connector.toList := by
    decide +kernel
  have hvisible : ∀ phrase ∈ ["average", "avg", "total", "sum", "count", "show", "get"] ++
      ["by", "and", "per", "grouped by", "for each", "&"],
      ¬ ∀ a ∈ phrase.toList, isBlank a = true := by decide +kernel
  simp only [not_forall, Bool.not_eq_true, exists_prop] at hvisible
  obtain ⟨a, ha, hsolid_a⟩ :=
    hfront.exists_solid (hvisible verb (List.mem_append_left _ hverbs))
  obtain ⟨b, hb, hsolid_b⟩ := hj.exists_solid (hvisible joint (List.mem_append_right _ hjoints))
  obtain ⟨d, hd⟩ := List.exists_mem_of_ne_nil _ hword₃.ne_nil
  refine ⟨words (start ++ front), u, k, v, words j, words (w ++ c₁₁.after), ?_,
    Text.words_ne_nil hsolid_a (List.mem_append_right _ ha), Text.words_ne_nil hsolid_b hb,
    Text.words_ne_nil (hword₃.isSolid.solid d hd) (List.mem_append_left _ hd), connector,
    hconnector, hsame⟩
  rw [hwords, Text.words_append_gap hgap₁, Text.words_append_gap hgap₂,
    Text.words_append_gap hgap₃, Text.words_append_gap hgap₄, Text.words_append_gap hgap₅,
    Text.words_of_isSolid hword₁.isSolid,
    Text.words_of_isSolid (hsame.isSolid (hsolid connector hconnector)),
    Text.words_of_isSolid hword₂.isSolid]
  rfl

theorem Wording.aggregateVerb_not_in (w : Wording c) (hfirst : w.first ∉ connectors)
    (hjoint : w.joint ∈ joints) :
    aggregateVerb.isIn w.text = false := by
  rw [Bool.eq_false_iff]
  intro hin
  obtain ⟨front, u, k, v, joint, back, hwords, hfront, hjoint', hback, connector, hmem, hk⟩ :=
    exists_words_of_aggregateVerb hin
  obtain ⟨metric, front, rfl⟩ := List.exists_cons_of_ne_nil hfront
  rw [Wording.text, String.toList_ofList, w.words_chars, List.cons_append] at hwords
  obtain ⟨-, hrest⟩ := List.cons.inj hwords
  have hcount : ∀ joint ∈ joints, (words joint.toList).length ≤ 2 := by decide +kernel
  have hlength := congrArg List.length hrest
  have := hcount _ hjoint
  have := List.length_pos_iff.2 hjoint'
  have := List.length_pos_iff.2 hback
  simp only [List.length_append, List.length_cons, List.length_nil] at hlength
  -- there are too few words for more than the metric in front, so the first alias stands where
  -- the connector should
  obtain rfl : front = [] := List.length_eq_zero_iff.1 (by omega)
  obtain ⟨-, hrest⟩ := List.cons.inj hrest
  obtain ⟨rfl, -⟩ := List.cons.inj hrest
  have hsmall : ∀ connector ∈ connectors, ∀ a ∈ connector.toList, isSmall a = true := by decide
  have heq := eq_of_sameLetters (hsmall connector hmem) w.isLettered_first.small hk
  exact hfirst (String.toList_inj.1 heq ▸ hmem)

theorem Wording.prefers_slots (w : Wording c) (before : List Char) {first second : List String}
    (h₁ : IsOffered first w.connector)
    (h₂ : IsOffered second w.joint) :
    ∃ e, (inOrder (slots first second)).Prefers ⟨⟨before, w.chars⟩, []⟩ e ∧
      e.texts = [(3, w.second.toList), (2, w.first.toList), (1, w.metric.toList)] :=
  Prompt.prefers_slots h₁ h₂ w.isName.isWordRun w.isLettered_first.isName.isWordRun
    w.isLettered_second.isName.isWordRun w.isGap₁ w.isGap₂ w.isGap₃ w.isGap₄

theorem Wording.readSlots_eq (w : Wording c) (prompt : String) {found : Regex.Match}
    (h : found.texts = [(3, w.second.toList), (2, w.first.toList), (1, w.metric.toList)]) :
    readSlots (Context.of c prompt) found = some (w.breakdown prompt) :=
  readSlots_of_texts w.isLettered_first w.isLettered_second w.lookup_first w.lookup_second h

theorem Wording.firstAccepted_text (w : Wording c) (hfirst : w.first ∉ connectors)
    (hjoint : w.joint ∈ joints) :
    ∃ r, firstAccepted (Context.of c w.text) = some (r, w.breakdown w.text) := by
  have hconnectors : ∀ connector ∈ connectors, IsOffered ["per", "by", "for"] connector := by
    decide +kernel
  have hjoints : ∀ joint ∈ joints, IsOffered ["by", "and", "per", "grouped by", "&"] joint := by
    decide +kernel
  obtain ⟨e, hprefers, htexts⟩ := w.prefers_slots [] (hconnectors _ w.connector_mem)
    (hjoints _ hjoint)
  obtain ⟨found, hfound, hfoundTexts⟩ := hprefers.search
  have hnone : aggregateVerb.search w.text = none := by
    rw [← Option.isNone_iff_eq_none, ← Option.not_isSome, Bool.not_eq_true']
    exact w.aggregateVerb_not_in hfirst hjoint
  have hread := w.readSlots_eq w.text (hfoundTexts.trans htexts)
  have hmatch : metricByPair.search w.text = some found := hfound
  refine firstAccepted_of_metricByPair (Context.of c w.text) hnone ?_
  rw [← hread]
  exact congrArg (·.bind (readSlots (Context.of c w.text))) hmatch

theorem Wording.firstAccepted_textAfter (w : Wording c) {gap : List Char} (hverb : verb ∈ verbs)
    (hgap : IsGap gap) :
    ∃ r, firstAccepted (Context.of c (w.textAfter verb gap)) =
      some (r, w.breakdown (w.textAfter verb gap)) := by
  have hverbs : ∀ verb ∈ verbs, IsOffered verbs verb := by decide +kernel
  have hconnectors : ∀ connector ∈ connectors, IsOffered ["by", "per", "for"] connector := by
    decide +kernel
  have hjoints : ∀ joint ∈ joints ++ ["for each"],
      IsOffered ["by", "and", "per", "grouped by", "for each", "&"] joint := by decide +kernel
  obtain ⟨e, hslots, htexts⟩ := w.prefers_slots (gap.reverse ++ (verb.toList.reverse ++ []))
    (hconnectors _ w.connector_mem) (hjoints _ w.joint_mem)
  have hprefers := (prefers_anyOf (hverbs verb hverb)).inOrder_cons
    ((Regex.prefers_space hgap w.isName.isWordRun.isSolid.head).inOrder_cons hslots)
  obtain ⟨found, hfound, hfoundTexts⟩ := hprefers.search
  have hread := w.readSlots_eq (w.textAfter verb gap) (hfoundTexts.trans htexts)
  have hmatch : aggregateVerb.search (w.textAfter verb gap) = some found := hfound
  refine firstAccepted_of_aggregateVerb (Context.of c (w.textAfter verb gap)) ?_
  rw [← hread]
  exact congrArg (·.bind (readSlots (Context.of c (w.textAfter verb gap)))) hmatch

/-- Prompts in the words of the templates are read as the breakdown that they name. Without a
verb the first alias must not be a connector, and the two aliases cannot be joined by the words
that only follow a verb. -/
theorem classify_wording (c : Catalog) (w : Wording c) :
    (w.first ∉ connectors → w.joint ∈ joints →
      classify c w.text = some (.breakdown (w.breakdown w.text))) ∧
      ∀ verb ∈ verbs, ∀ gap, IsGap gap →
        classify c (w.textAfter verb gap) =
          some (.breakdown (w.breakdown (w.textAfter verb gap))) := by
  have hmetric : w.chars ≠ [] := List.append_ne_nil_of_left_ne_nil w.isName.ne_nil _
  constructor
  · intro hfirst hjoint
    obtain ⟨r, haccepted⟩ := w.firstAccepted_text hfirst hjoint
    refine classify_of_firstAccepted ?_ ?_ ?_ haccepted
    · rwa [Wording.text, String.toList_ofList]
    · rw [Wording.text, String.toList_ofList]
      exact w.plain_chars
    · rw [Wording.text, String.toList_ofList]
      exact w.isTrimmed_append (x := []) w.isName.isWordRun.isSolid.head
  · intro verb hverb gap hgap
    have hverbs : ∀ verb ∈ verbs, IsWordRun verb.toList ∧ ∀ a ∈ verb.toList, IsPlain a := by
      decide +kernel
    obtain ⟨hword, hplain⟩ := hverbs verb hverb
    obtain ⟨r, haccepted⟩ := w.firstAccepted_textAfter hverb hgap
    refine classify_of_firstAccepted ?_ ?_ ?_ haccepted
    · rw [Wording.textAfter, String.toList_ofList]
      exact List.append_ne_nil_of_left_ne_nil hword.ne_nil _
    · simp only [Wording.textAfter, String.toList_ofList, List.forall_mem_append]
      exact ⟨fun a ha => .inl (hplain a ha), fun a ha => .inr (hgap.blank a ha), w.plain_chars⟩
    · rw [Wording.textAfter, String.toList_ofList, ← List.append_assoc]
      apply w.isTrimmed_append
      rw [List.append_assoc]
      exact hword.isSolid.head

def freightWording : Wording Catalog.freight where
  metric := "count"
  connector := "for"
  first := "carrier"
  joint := "grouped by"
  second := "states"
  gap₁ := [' ']
  gap₂ := ['\t', ' ']
  gap₃ := ['\u00a0']
  gap₄ := ['\n', '\n']
  primary := "carrier_name"
  secondary := "origin_state"
  isName := ⟨by decide, by decide⟩
  connector_mem := by decide
  isLettered_first := ⟨by decide, by decide⟩
  lookup_first := by decide
  joint_mem := by decide
  isLettered_second := ⟨by decide, by decide⟩
  lookup_second := by decide
  isGap₁ := by decide
  isGap₂ := by decide
  isGap₃ := by decide
  isGap₄ := by decide

theorem classify_freightWording :
    classify Catalog.freight "get  count for\t carrier\u00a0grouped by\n\nstates" =
        some (.breakdown ⟨"carrier_name", "origin_state", "load_id", .count, []⟩) ∧
      classify Catalog.freight "count for\t carrier\u00a0grouped by\n\nstates" =
        some (.breakdown ⟨"carrier_name", "origin_state", "load_id", .count, []⟩) := by
  obtain ⟨hbare, hafter⟩ := classify_wording Catalog.freight freightWording
  have hread (prompt : String) (haggregation : aggregation prompt = .count)
      (hterms : terms Catalog.freight prompt = []) :
      freightWording.breakdown prompt = ⟨"carrier_name", "origin_state", "load_id", .count,
        []⟩ := by
    rw [Wording.breakdown, haggregation, hterms,
      show Catalog.freight.metric freightWording.metric = "load_id" by decide]
    rfl
  constructor
  · have h := hafter "get" (by decide) [' ', ' '] (by decide)
    rw [hread _ (by decide +kernel) (by decide +kernel)] at h
    exact h
  · have h := hbare (by decide) (by decide)
    rw [hread _ (by decide +kernel) (by decide +kernel)] at h
    exact h

end PromptChart.Prompt
