import Mathlib.Algebra.Ring.Nat
import PromptChart.Proofs.Entries
import PromptChart.Proofs.Store.Sql.Binding
import PromptChart.Proofs.Store.Selection
import PromptChart.Proofs.Text.Lower

namespace PromptChart

namespace Sql

open Text (lower)

def isSpecial (c : Char) : Bool := c = '%' || c = '_' || c = '\\'

/-- A pattern against a text. A percent sign stands for any characters, an underscore for any
one, and a character behind a backslash for itself, as does any character without a special
meaning. -/
inductive Like : List Char → List Char → Prop
  | done : Like [] []
  | run {p before rest} (next : Like p rest) : Like ('%' :: p) (before ++ rest)
  | any {p c rest} (next : Like p rest) : Like ('_' :: p) (c :: rest)
  | escaped {p c rest} (next : Like p rest) : Like ('\\' :: c :: p) (c :: rest)
  | literal {p c rest} (plain : isSpecial c = false) (next : Like p rest) :
      Like (c :: p) (c :: rest)

/-- A pattern against a text, whatever their case. -/
def Ilike (pattern text : String) : Prop := Like (lower pattern).toList (lower text).toList

def IsLiteral (cs : List Char) : Prop := ∀ c ∈ cs, isSpecial c = false

variable {p u t cs before after : List Char} {c : Char}

theorem like_run_iff : Like ('%' :: p) t ↔ ∃ before rest, t = before ++ rest ∧ Like p rest := by
  constructor
  · intro h
    cases h with
    | run next => exact ⟨_, _, rfl, next⟩
    | literal plain => cases plain
  · rintro ⟨before, rest, rfl, next⟩
    exact .run next

theorem like_literal_iff (hc : isSpecial c = false) :
    Like (c :: p) t ↔ ∃ rest, t = c :: rest ∧ Like p rest := by
  constructor
  · intro h
    cases h with
    | run => cases hc
    | any => cases hc
    | escaped => cases hc
    | literal _ next => exact ⟨_, rfl, next⟩
  · rintro ⟨rest, rfl, next⟩
    exact .literal hc next

theorem like_append_iff (hu : IsLiteral u) :
    Like (u ++ p) t ↔ ∃ rest, t = u ++ rest ∧ Like p rest := by
  induction u generalizing t with
  | nil => simp
  | cons c u ih =>
    obtain ⟨hc, hrest⟩ := List.forall_mem_cons.1 hu
    rw [List.cons_append, like_literal_iff hc]
    constructor
    · rintro ⟨t, rfl, next⟩
      obtain ⟨rest, rfl, hrest⟩ := (ih hrest).1 next
      exact ⟨rest, rfl, hrest⟩
    · rintro ⟨rest, rfl, next⟩
      exact ⟨u ++ rest, rfl, (ih hrest).2 ⟨rest, rfl, next⟩⟩

theorem like_wrapped_iff (hu : IsLiteral u) : Like ('%' :: (u ++ ['%'])) t ↔ u <:+: t := by
  rw [like_run_iff]
  constructor
  · rintro ⟨before, rest, rfl, next⟩
    obtain ⟨after, rfl, -⟩ := (like_append_iff hu).1 next
    exact ⟨before, after, List.append_assoc ..⟩
  · rintro ⟨before, after, rfl⟩
    refine ⟨before, u ++ after, List.append_assoc .., (like_append_iff hu).2 ⟨after, rfl, ?_⟩⟩
    exact like_run_iff.2 ⟨after, [], (List.append_nil after).symm, .done⟩

/-- How much of a sign is special. A backslash counts for more than a percent sign, which it
makes an ordinary one. -/
def signWeight (c : Char) : Nat := if c = '\\' then 2 else if isSpecial c then 1 else 0

def weight (cs : List Char) : Nat := (cs.map signWeight).sum

theorem weight_cons (c : Char) (cs : List Char) :
    weight (c :: cs) = signWeight c + weight cs := by
  rw [weight, List.map_cons, List.sum_cons, weight]

theorem weight_le_of_isInfix (h : u <:+: t) : weight u ≤ weight t := by
  obtain ⟨before, after, rfl⟩ := h
  simp only [weight, List.map_append, List.sum_append]
  omega

/-- A text that matches what a pattern has between its percent signs, with less that is special
than the pattern has, and hardly any other characters. -/
structure Lightens (u t : List Char) : Prop where
  matched : Like (u ++ ['%']) t
  weight_le : weight t ≤ weight u
  weight_lt : ¬ IsLiteral u → weight t < weight u
  chars : ∀ c ∈ t, c ∈ u ∨ c = ' ' ∨ c = '%'

theorem lightens_nil : Lightens [] [] where
  matched := like_run_iff.2 ⟨[], [], rfl, .done⟩
  weight_le := Nat.le_refl _
  weight_lt h := absurd nofun h
  chars := nofun

theorem lightens_backslash : Lightens ['\\'] ['%'] where
  matched := .escaped .done
  weight_le := by decide
  weight_lt _ := by decide
  chars c hc := .inr (.inr (List.mem_singleton.1 hc))

theorem Lightens.literal (h : Lightens u t) (hc : isSpecial c = false) :
    Lightens (c :: u) (c :: t) where
  matched := .literal hc h.matched
  weight_le := by
    rw [weight_cons, weight_cons]
    exact Nat.add_le_add_left h.weight_le _
  weight_lt hspecial := by
    rw [weight_cons, weight_cons]
    refine Nat.add_lt_add_left (h.weight_lt fun hu => hspecial ?_) _
    exact List.forall_mem_cons.2 ⟨hc, hu⟩
  chars d hd := by
    rcases List.mem_cons.1 hd with rfl | hd
    · exact .inl (.head _)
    · exact (h.chars d hd).imp_left (.tail c)

theorem Lightens.run (h : Lightens u t) : Lightens ('%' :: u) t := by
  have hweight : weight t < weight ('%' :: u) := by
    rw [weight_cons]
    exact Nat.lt_of_le_of_lt h.weight_le (Nat.lt_add_of_pos_left (by decide))
  refine ⟨like_run_iff.2 ⟨[], _, rfl, h.matched⟩, hweight.le, fun _ => hweight, fun d hd => ?_⟩
  exact (h.chars d hd).imp_left (.tail _)

theorem Lightens.any (h : Lightens u t) : Lightens ('_' :: u) (' ' :: t) := by
  have hweight : weight (' ' :: t) < weight ('_' :: u) := by
    rw [weight_cons, weight_cons]
    exact Nat.add_lt_add_of_lt_of_le (by decide) h.weight_le
  refine ⟨.any h.matched, hweight.le, fun _ => hweight, fun d hd => ?_⟩
  rcases List.mem_cons.1 hd with rfl | hd
  · exact .inr (.inl rfl)
  · exact (h.chars d hd).imp_left (.tail _)

theorem Lightens.escaped (h : Lightens u t) (c : Char) :
    Lightens ('\\' :: c :: u) (c :: t) := by
  have hweight : weight (c :: t) < weight ('\\' :: c :: u) := by
    rw [weight_cons, weight_cons, weight_cons]
    have hsign : signWeight '\\' = 2 := by decide
    have hle := h.weight_le
    omega
  refine ⟨.escaped h.matched, hweight.le, fun _ => hweight, fun d hd => ?_⟩
  rcases List.mem_cons.1 hd with rfl | hd
  · exact .inl (.tail _ (.head _))
  · exact (h.chars d hd).imp_left fun hmem => .tail _ (.tail _ hmem)

theorem exists_lightens (u : List Char) : ∃ t, Lightens u t := by
  -- A backslash takes two characters at once, so shorter texts of any length are supposed.
  induction hn : u.length using Nat.strongRecOn generalizing u with
  | ind n ih =>
    have hshorter (rest : List Char) (hrest : rest.length < n) : ∃ t, Lightens rest t :=
      ih _ hrest rest rfl
    match u with
    | [] => exact ⟨[], lightens_nil⟩
    | c :: rest =>
      obtain ⟨t, ht⟩ := hshorter rest (by rw [← hn]; exact Nat.lt_succ_self _)
      cases hc : isSpecial c with
      | false => exact ⟨c :: t, ht.literal hc⟩
      | true =>
        simp only [isSpecial, Bool.or_eq_true, decide_eq_true_eq] at hc
        rcases hc with (rfl | rfl) | rfl
        · exact ⟨t, ht.run⟩
        · exact ⟨' ' :: t, ht.any⟩
        · match rest with
          | [] => exact ⟨['%'], lightens_backslash⟩
          | d :: rest =>
            obtain ⟨t, ht⟩ := hshorter rest (by rw [← hn]; simp only [List.length_cons]; omega)
            exact ⟨d :: t, ht.escaped d⟩

theorem isLiteral_iff : IsLiteral cs ↔ '%' ∉ cs ∧ '_' ∉ cs ∧ '\\' ∉ cs := by
  constructor
  · intro h
    exact ⟨fun hmem => absurd (h _ hmem) (by decide), fun hmem => absurd (h _ hmem) (by decide),
      fun hmem => absurd (h _ hmem) (by decide)⟩
  · rintro ⟨hpercent, hunderscore, hbackslash⟩ c hc
    apply Bool.eq_false_iff.2
    intro hspecial
    simp only [isSpecial, Bool.or_eq_true, decide_eq_true_eq] at hspecial
    rcases hspecial with (rfl | rfl) | rfl
    · exact hpercent hc
    · exact hunderscore hc
    · exact hbackslash hc

theorem isLiteral_lower_iff (v : String) : IsLiteral (lower v).toList ↔ IsLiteral v.toList := by
  rw [isLiteral_iff, isLiteral_iff, Text.mem_lower_iff (by decide +kernel),
    Text.mem_lower_iff (by decide +kernel), Text.mem_lower_iff (by decide +kernel)]

/-- Wrapped in percent signs, a text without special signs is looked for as it is, whatever its
case. -/
theorem ilike_wrapped_iff {v : String} (h : IsLiteral v.toList) (x : String) :
    Ilike ("%" ++ v ++ "%") x ↔ Text.contains (lower x) (lower v) = true := by
  rw [Ilike, Text.toList_lower_wrapped, like_wrapped_iff ((isLiteral_lower_iff v).2 h),
    Text.contains, Text.occursIn_iff]

theorem exists_ilike_not_contains {v : String} (h : ¬ IsLiteral v.toList) :
    ∃ x, Ilike ("%" ++ v ++ "%") x ∧ Text.contains (lower x) (lower v) = false := by
  obtain ⟨t, ht⟩ := exists_lightens (lower v).toList
  have hlowered : ∀ c ∈ t, Text.IsLowered c := by
    intro c hc
    rcases ht.chars c hc with hmem | rfl | rfl
    · rw [lower, String.toList_ofList] at hmem
      exact Text.isLowered_of_mem hmem
    · exact ⟨' ', by decide, by decide, by decide⟩
    · exact ⟨'%', by decide, by decide, by decide⟩
  obtain ⟨x, hx⟩ := Text.exists_lower_eq hlowered
  refine ⟨x, ?_, ?_⟩
  · rw [Ilike, Text.toList_lower_wrapped, hx]
    exact like_run_iff.2 ⟨[], _, rfl, ht.matched⟩
  · -- A text with less that is special than another one cannot contain it.
    apply Bool.eq_false_iff.2
    intro hcontains
    rw [Text.contains, hx, Text.occursIn_iff] at hcontains
    have hless := ht.weight_lt fun hu => h ((isLiteral_lower_iff v).1 hu)
    exact absurd (weight_le_of_isInfix hcontains) hless.not_ge

theorem exists_mem_bindings {filters : List Filter} {f : Filter} (hf : f ∈ filters)
    (index : Nat) :
    ∃ n : Nat, ((Condition.ofFilter ("f" ++ toString n) f).1, "f" ++ toString n,
      (Condition.ofFilter ("f" ++ toString n) f).2) ∈ bindings index filters := by
  induction filters generalizing index with
  | nil => cases hf
  | cons g rest ih =>
    rcases List.mem_cons.1 hf with rfl | hrest
    · exact ⟨index, .head _⟩
    · obtain ⟨n, hn⟩ := ih hrest (index + 1)
      exact ⟨n, .tail _ hn⟩

def LooksFor (f : Filter) (v : String) : Prop :=
  (f.operator = .like ∨ f.operator = .ilike) ∧ f.value = .text v

variable {f : Filter} {v : String}

theorem LooksFor.ofFilter (h : LooksFor f v) (parameter : String) :
    Condition.ofFilter parameter f = (.matching f.field parameter,
      .text ("%" ++ v ++ "%")) := by
  obtain ⟨hop, hv⟩ := h
  rw [Condition.ofFilter, hv]
  rcases hop with hop | hop <;> rw [hop] <;> rfl

theorem LooksFor.passes (h : LooksFor f v) {members : List (String × Json)} {x : String}
    (hx : (Json.object members).get f.field = .text x) :
    Memory.passes (.object members) f = .ok (Text.contains (lower x) (lower v)) := by
  obtain ⟨hop, hv⟩ := h
  rw [Memory.passes_object, hx, hv]
  rcases hop with hop | hop <;> rw [hop] <;> rfl

/-- A filter that looks for a text is bound to a pattern in the query. The pattern matches the
same texts as the filter keeps in memory exactly if the text has no percent sign, underscore or
backslash. -/
theorem textFilter_agrees_iff {c : Catalog} {request : Request} {scope : Scope} {q : Query}
    {parameters : List (String × Json)} (h : compile c request scope = .ok (q, parameters))
    (hf : f ∈ scopedFilters c scope request.filters) (hv : LooksFor f v) :
    ∃ parameter pattern, .matching f.field parameter ∈ q.conditions ∧
      Entries.get? parameter parameters = some (.text pattern) ∧
      ((∀ (x : String) (members : List (String × Json)),
        (Json.object members).get f.field = .text x →
          (Ilike pattern x ↔ Memory.passes (.object members) f = .ok true)) ↔
          IsLiteral v.toList) := by
  obtain ⟨-, hresult⟩ := compile_eq_ok.1 h
  obtain ⟨rfl, rfl⟩ := Prod.mk.inj hresult
  obtain ⟨n, hn⟩ := exists_mem_bindings hf 0
  rw [hv.ofFilter] at hn
  have hbound :
      (.matching f.field ("f" ++ toString n), "f" ++ toString n, .text ("%" ++ v ++ "%")) ∈
      boundConditions c request scope := List.mem_append_right _ hn
  have hgiven : ("f" ++ toString n, Json.text ("%" ++ v ++ "%")) ∈
      parametersOf c request scope :=
    List.mem_cons_of_mem _ (List.mem_map.2 ⟨_, hbound, rfl⟩)
  refine ⟨"f" ++ toString n, "%" ++ v ++ "%", List.mem_map.2 ⟨_, hbound, rfl⟩,
    Entries.get?_of_mem (nodup_parameters c request scope) hgiven, ?_⟩
  constructor
  · intro hagree
    by_contra hspecial
    obtain ⟨x, hmatch, hmissing⟩ := exists_ilike_not_contains hspecial
    have hfield : (Json.object [(f.field, .text x)]).get f.field = .text x := by
      simp [Json.get, Json.get?]
    have hpasses := (hagree x _ hfield).1 hmatch
    rw [hv.passes hfield, hmissing] at hpasses
    cases hpasses
  · intro hliteral x members hx
    rw [ilike_wrapped_iff hliteral, hv.passes hx, Except.ok.injEq]

def itemsQuery : Query :=
  ⟨.pair "description" "origin_state", .avg, "retail", "shipment_item",
    [ownerCondition, .matching "description" "f0", .anyOf "origin_state" "f1"]⟩

def itemsParameters (word : String) : List (String × Json) :=
  [("limit", .int 20), ("customer_id", .int 7), ("f0", .text ("%" ++ word ++ "%")),
    ("f1", .array [.text "TX"])]

theorem textFilter_agrees_drawer :
    let f : Filter := ⟨"description", .ilike, .text "drawer", false⟩
    compile .freight (itemsNamed "drawer" ["TX"]) ⟨some 7⟩ =
      .ok (itemsQuery, itemsParameters "drawer") ∧
      f ∈ scopedFilters .freight ⟨some 7⟩ (itemsNamed "drawer" ["TX"]).filters ∧
      LooksFor f "drawer" ∧ IsLiteral "drawer".toList ∧
      ∀ x : String,
        Ilike "%drawer%" x ↔
          Memory.passes (.object [("description", .text x)]) f = .ok true := by
  intro f
  have hcompiled : compile .freight (itemsNamed "drawer" ["TX"]) ⟨some 7⟩ =
      .ok (itemsQuery, itemsParameters "drawer") := by rfl
  have hf : f ∈ scopedFilters .freight ⟨some 7⟩ (itemsNamed "drawer" ["TX"]).filters := .head _
  have hv : LooksFor f "drawer" := ⟨.inr rfl, rfl⟩
  have hliteral : IsLiteral "drawer".toList := by
    rw [isLiteral_iff]
    decide
  obtain ⟨parameter, pattern, hcondition, hgiven, hagree⟩ :=
    textFilter_agrees_iff hcompiled hf hv
  obtain rfl : parameter = "f0" := by simpa [itemsQuery, f, ownerCondition] using hcondition
  obtain rfl : "%drawer%" = pattern := by simpa [itemsParameters, Entries.get?] using hgiven
  exact ⟨hcompiled, hf, hv, hliteral,
    fun x => hagree.2 hliteral x [("description", .text x)] (by rfl)⟩

theorem like_wrapped_percentOff : Ilike "%50%_off%" "50 percent off" := by
  have hpattern : (lower "%50%_off%").toList = ['%', '5', '0', '%', '_', 'o', 'f', 'f',
      '%'] := by decide +kernel
  have htext : (lower "50 percent off").toList =
      '5' :: '0' :: ([' ', 'p', 'e', 'r', 'c', 'e', 'n', 't'] ++ [' ', 'o', 'f', 'f']) := by
    decide +kernel
  rw [Ilike, hpattern, htext]
  refine like_run_iff.2 ⟨[], _, rfl, .literal rfl (.literal rfl (.run (.any ?_)))⟩
  refine .literal rfl (.literal rfl (.literal rfl ?_))
  exact like_run_iff.2 ⟨[], [], rfl, .done⟩

theorem not_forall_textFilter_agrees :
    ¬ ∀ (c : Catalog) (request : Request) (scope : Scope) (q : Query)
      (parameters : List (String × Json)) (f : Filter) (v : String),
      compile c request scope = .ok (q, parameters) →
      f ∈ scopedFilters c scope request.filters → LooksFor f v →
      ∃ parameter pattern, .matching f.field parameter ∈ q.conditions ∧
        Entries.get? parameter parameters = some (.text pattern) ∧
        ∀ (x : String) (members : List (String × Json)),
          (Json.object members).get f.field = .text x →
            (Ilike pattern x ↔ Memory.passes (.object members) f = .ok true) := by
  intro h
  let record : List (String × Json) := [("description", .text "50 percent off")]
  let f : Filter := ⟨"description", .ilike, .text "50%_off", false⟩
  have hcompiled : compile .freight (itemsNamed "50%_off" ["TX"]) ⟨some 7⟩ =
      .ok (itemsQuery, itemsParameters "50%_off") := by rfl
  obtain ⟨parameter, pattern, hcondition, hgiven, hagree⟩ :=
    h .freight _ _ _ _ f "50%_off" hcompiled (.head _) ⟨.inr rfl, rfl⟩
  obtain rfl : parameter = "f0" := by simpa [itemsQuery, f, ownerCondition] using hcondition
  obtain rfl : "%50%_off%" = pattern := by simpa [itemsParameters, Entries.get?] using hgiven
  have hpasses := (hagree "50 percent off" record (by rfl)).1 like_wrapped_percentOff
  exact absurd hpasses (by decide +kernel)

end Sql

end PromptChart
