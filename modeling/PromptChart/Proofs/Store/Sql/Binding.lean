import Mathlib.Data.List.Nodup
import Mathlib.Data.List.TakeWhile
import PromptChart.Catalog.Freight
import PromptChart.Proofs.Store.Sql.Compile
import PromptChart.Proofs.Store.Sql.Text

namespace PromptChart

/-- What a filter puts into the text of a query: everything but its value. -/
def Filter.shape (f : Filter) : String × FilterOperator := (f.field, f.operator)

/-- Two requests that differ at most in the values of their filters and in their limit. -/
structure Request.SameShape (one other : Request) : Prop where
  table : one.table = other.table
  grouping : one.grouping = other.grouping
  metric : one.metric = other.metric
  aggregation : one.aggregation = other.aggregation
  filters : one.filters.map Filter.shape = other.filters.map Filter.shape

namespace Sql

variable {c : Catalog} {request other : Request} {scope otherScope : Scope}

theorem quote_not_mem_of_isIdentifier {name : String} (h : isIdentifier name = true) :
    '"' ∉ name.toList := by
  unfold isIdentifier at h
  split at h
  next hname =>
    rw [hname]
    exact List.not_mem_nil
  next first rest hname =>
    simp only [Bool.and_eq_true, Bool.or_eq_true, decide_eq_true_eq] at h
    obtain ⟨hfirst, htail⟩ := h
    rw [hname, List.mem_cons, not_or]
    refine ⟨?_, ?_⟩
    · rintro rfl
      exact absurd hfirst (by decide)
    · intro hrest
      rw [← List.takeWhile_append_dropWhile (p := fun c =>
        ('a' ≤ c && c ≤ 'z' || decide (c = '_')) || '0' ≤ c && c ≤ '9') (l := rest),
        List.mem_append] at hrest
      obtain htake | hdrop := hrest
      · exact absurd (List.mem_takeWhile_imp htake) (by decide)
      · obtain he | he := htail
        · rw [he] at hdrop
          cases hdrop
        · rw [he] at hdrop
          exact absurd hdrop (by decide)

theorem isWordChar_of_mem_numbered {n : Nat} {ch : Char} (h : ch ∈ ("f" ++ toString n).toList) :
    Token.isWordChar ch = true := by
  have h : ch = 'f' ∨ ch ∈ Nat.toDigits 10 n := by simpa using h
  obtain rfl | hdigit := h
  · decide
  · have hdigit : ch.isDigit = true := Nat.isDigit_of_mem_toDigits (by decide)
      (by decide) hdigit
    simp [Token.isWordChar, Char.isAlphanum, hdigit]

theorem column_ofFilter (p : String) (f : Filter) :
    (Condition.ofFilter p f).1.column = f.field := by
  unfold Condition.ofFilter
  split
  · rfl
  · split <;> rfl

theorem parameter_ofFilter (p : String) (f : Filter) :
    (Condition.ofFilter p f).1.parameter = p := by
  unfold Condition.ofFilter
  split
  · rfl
  · split <;> rfl

theorem operator_ofFilter {p operator : String} {f : Filter}
    (h : operator ∈ (Condition.ofFilter p f).1.operator?) :
    sign? f.operator = some operator := by
  unfold Condition.ofFilter at h
  split at h
  next sign hsign =>
    cases h
    exact hsign
  · split at h <;> cases h

theorem isPlain_ofFilter {f : Filter} (h : isIdentifier f.field = true) (n : Nat) :
    (Condition.ofFilter ("f" ++ toString n) f).1.IsPlain where
  column := by
    rw [column_ofFilter]
    exact quote_not_mem_of_isIdentifier h
  operator operator hoperator := ⟨f.operator, operator_ofFilter hoperator⟩
  parameter_ne := by
    rw [parameter_ofFilter]
    intro he
    simpa using congrArg String.toList he
  parameter ch hch := by
    rw [parameter_ofFilter] at hch
    exact isWordChar_of_mem_numbered hch

theorem isPlain_ownerCondition : ownerCondition.IsPlain where
  column := by decide
  operator operator hoperator := ⟨.eq, hoperator⟩
  parameter_ne := by decide
  parameter := List.all_eq_true.1 rfl

theorem mem_bindings {index : Nat} {filters : List Filter} {b : Condition × String × Json}
    (h : b ∈ bindings index filters) :
    ∃ f ∈ filters,
      ∃ n : Nat, b.1 = (Condition.ofFilter ("f" ++ toString n) f).1 ∧
        b.2.1 = "f" ++ toString n := by
  induction filters generalizing index with
  | nil => cases h
  | cons f rest ih =>
    cases h with
    | head => exact ⟨f, .head _, index, rfl, rfl⟩
    | tail _ h =>
      obtain ⟨g, hg, n, hn⟩ := ih h
      exact ⟨g, .tail f hg, n, hn⟩

theorem bindings_parameters (index : Nat) (filters : List Filter) :
    (bindings index filters).map (·.2.1) =
      (List.range' index filters.length).map fun n => "f" ++ toString n := by
  induction filters generalizing index with
  | nil => rfl
  | cons f rest ih =>
    rw [bindings, List.map_cons, ih, List.length_cons, List.range'_succ, List.map_cons]

/-- A condition of a compiled request can be read, under its own parameter, and is on a column
of the catalog or on the customer. -/
structure IsSound (c : Catalog) (b : Condition × String × Json) : Prop where
  plain : b.1.IsPlain
  parameter : b.1.parameter = b.2.1
  column : b.1.column ∈ c.columnIds ∨ b.1.column = "customer_id"

theorem IsCompilable.sound (h : IsCompilable c request scope) {b : Condition × String × Json}
    (hb : b ∈ boundConditions c request scope) : IsSound c b := by
  obtain howner | hfilter := List.mem_append.1 hb
  · split at howner
    · cases howner
    · obtain rfl := List.mem_singleton.1 howner
      exact ⟨isPlain_ownerCondition, rfl, .inr rfl⟩
  · obtain ⟨f, hf, n, hcondition, hparameter⟩ := mem_bindings hfilter
    obtain ⟨hidentifier, hcolumn⟩ := h.filters f hf
    refine ⟨?_, ?_, .inl ?_⟩
    · rw [hcondition]
      exact isPlain_ofFilter hidentifier n
    · rw [hcondition, hparameter, parameter_ofFilter]
    · rw [hcondition, column_ofFilter]
      exact hcolumn

theorem IsCompilable.isPlain (h : IsCompilable c request scope) :
    (queryOf c request scope).IsPlain where
  fields field hfield := quote_not_mem_of_isIdentifier (h.fields field hfield).1
  metric := quote_not_mem_of_isIdentifier h.metric.1
  table := quote_not_mem_of_isIdentifier h.table
  conditions x hx := by
    obtain ⟨b, hb, rfl⟩ := List.mem_map.1 hx
    exact (h.sound hb).plain

theorem IsCompilable.names (h : IsCompilable c request scope) {name : String}
    (hname : .name name ∈ (queryOf c request scope).tokens) :
    name = request.table ∨ name ∈ c.columnIds ∨ name = "customer_id" := by
  have hmem : name ∈ (queryOf c request scope).tokens.filterMap Token.name? :=
    List.mem_filterMap.2 ⟨_, hname, rfl⟩
  rw [Query.names_tokens h.isPlain] at hmem
  simp only [List.mem_append, List.mem_cons, List.not_mem_nil, or_false] at hmem
  obtain ((hfield | rfl | rfl) | hcondition) | hfield := hmem
  · exact .inr (.inl (h.fields name hfield).2)
  · exact .inr (.inl h.metric.2)
  · exact .inl rfl
  · obtain ⟨x, hx, rfl⟩ := List.mem_map.1 hcondition
    obtain ⟨b, hb, rfl⟩ := List.mem_map.1 hx
    exact .inr (h.sound hb).column
  · exact .inr (.inl (h.fields name hfield).2)

theorem IsCompilable.parameters (h : IsCompilable c request scope) (name : String) :
    .parameter name ∈ (queryOf c request scope).tokens ↔
      name ∈ (parametersOf c request scope).map (·.1) := by
  have hmem : .parameter name ∈ (queryOf c request scope).tokens ↔
      name ∈ (queryOf c request scope).tokens.filterMap Token.parameter? := by
    rw [List.mem_filterMap]
    constructor
    · intro hname
      exact ⟨_, hname, rfl⟩
    · rintro ⟨t, ht, he⟩
      cases t <;> cases he
      exact ht
  have hconditions : (queryOf c request scope).conditions.map (·.parameter) =
      (boundConditions c request scope).map (·.2.1) := by
    rw [queryOf, List.map_map]
    apply List.map_congr_left
    intro b hb
    exact (h.sound hb).parameter
  rw [hmem, Query.parameters_tokens h.isPlain, hconditions, parametersOf, List.map_cons,
    List.map_map, List.mem_append, List.mem_singleton, List.mem_cons, or_comm]
  rfl

theorem nodup_parameters (c : Catalog) (request : Request) (scope : Scope) :
    ((parametersOf c request scope).map (·.1)).Nodup := by
  let numbered (n : Nat) : String := "f" ++ toString n
  have hinjective : numbered.Injective := by
    intro n m he
    have hdigits : Nat.toDigits 10 n = Nat.toDigits 10 m := by
      simpa [numbered] using congrArg String.toList he
    calc n = Nat.ofDigitChars 10 (Nat.toDigits 10 n) 0 := Nat.ofDigitChars_ten_toDigits.symm
      _ = Nat.ofDigitChars 10 (Nat.toDigits 10 m) 0 := by rw [hdigits]
      _ = m := Nat.ofDigitChars_ten_toDigits
  have hlimit (n : Nat) : "limit" ≠ numbered n := fun he => by
    simpa [numbered] using congrArg String.toList he
  have howner (n : Nat) : "customer_id" ≠ numbered n := fun he => by
    simpa [numbered] using congrArg String.toList he
  have hnumbered (k : Nat) : ((List.range' 0 k).map numbered).Nodup :=
    (List.nodup_range').map hinjective
  have hnames : (parametersOf c request scope).map (·.1) = "limit" ::
      ((if scope.isAdmin then [] else ["customer_id"]) ++
        (List.range' 0 (scopedFilters c scope request.filters).length).map numbered) := by
    rw [parametersOf, List.map_cons, List.map_map, boundConditions, List.map_append]
    congr 2
    · split <;> rfl
    · exact bindings_parameters 0 _
  rw [hnames]
  split
  · simp [hnumbered, hlimit, eq_comm]
  · simp [hnumbered, hlimit, howner, eq_comm]

theorem ofFilter_congr {f g : Filter} (h : f.shape = g.shape) (p : String) :
    (Condition.ofFilter p f).1 = (Condition.ofFilter p g).1 := by
  obtain ⟨hfield, hoperator⟩ := Prod.mk.inj h
  unfold Condition.ofFilter
  rw [hfield, hoperator]
  cases g.operator <;> rfl

theorem bindings_congr {filters others : List Filter}
    (h : filters.map Filter.shape = others.map Filter.shape) (index : Nat) :
    (bindings index filters).map (·.1) = (bindings index others).map (·.1) := by
  induction filters generalizing others index with
  | nil =>
    obtain rfl := List.map_eq_nil_iff.1 h.symm
    rfl
  | cons f rest ih =>
    cases others with
    | nil => cases h
    | cons g rest' =>
      obtain ⟨hshape, hrest⟩ := List.cons.inj h
      simp only [bindings, List.map_cons, ofFilter_congr hshape, ih hrest]

theorem scopedFilters_shape (c : Catalog) {filters others : List Filter}
    (hscope : scope.isAdmin = otherScope.isAdmin)
    (h : filters.map Filter.shape = others.map Filter.shape) :
    (scopedFilters c scope filters).map Filter.shape =
      (scopedFilters c otherScope others).map Filter.shape := by
  let kept (shape : String × FilterOperator) : Bool :=
    !c.restrictedFields.contains (Text.lower shape.1)
  have hkept (fs : List Filter) :
      (fs.filter fun f => !c.restrictedFields.contains (Text.lower f.field)).map Filter.shape =
        (fs.map Filter.shape).filter kept := by
    rw [List.filter_map]
    rfl
  unfold scopedFilters
  rw [hscope]
  split
  · exact h
  · rw [hkept, hkept, h]

theorem queryOf_congr (c : Catalog) (hscope : scope.isAdmin = otherScope.isAdmin)
    (h : request.SameShape other) : queryOf c request scope = queryOf c other otherScope := by
  have hconditions : (boundConditions c request scope).map (·.1) =
      (boundConditions c other otherScope).map (·.1) := by
    rw [boundConditions, boundConditions, List.map_append, List.map_append, hscope,
      bindings_congr (scopedFilters_shape c hscope h.filters)]
    split <;> rfl
  simp only [queryOf, h.grouping, h.aggregation, h.metric, h.table, hconditions]

theorem IsCompilable.congr (hscope : scope.isAdmin = otherScope.isAdmin)
    (h : request.SameShape other) (hc : IsCompilable c request scope) :
    IsCompilable c other otherScope where
  table_mem := h.table ▸ hc.table_mem
  table := h.table ▸ hc.table
  fields := h.grouping ▸ hc.fields
  metric := h.metric ▸ hc.metric
  filters f hf := by
    have hshape : f.shape ∈ (scopedFilters c scope request.filters).map Filter.shape := by
      rw [scopedFilters_shape c hscope h.filters]
      exact List.mem_map_of_mem hf
    obtain ⟨g, hg, he⟩ := List.mem_map.1 hshape
    rw [← (Prod.mk.inj he).1]
    exact hc.filters g hg

theorem IsCompilable.owner (h : IsCompilable c request scope) (hscope : scope.isAdmin = false) :
    ∃ customer, scope.customer = some customer ∧
      (parametersOf c request scope).lookup "customer_id" = some (.int customer) ∧
      ∃ conditions, Token.conjuncts (queryOf c request scope).tokens =
        (ownerCondition :: conditions).map (·.tokens) := by
  obtain ⟨customer, hcustomer⟩ : ∃ customer, scope.customer = some customer := by
    cases hs : scope.customer with
    | none => simp [Scope.isAdmin, hs] at hscope
    | some customer => exact ⟨customer, rfl⟩
  have hbound : boundConditions c request scope =
      (ownerCondition, "customer_id", .int customer) ::
        bindings 0 (scopedFilters c scope request.filters) := by
    simp [boundConditions, hscope, hcustomer]
  have hconditions : (queryOf c request scope).conditions =
      ownerCondition :: (bindings 0 (scopedFilters c scope request.filters)).map (·.1) := by
    rw [queryOf, hbound, List.map_cons]
  refine ⟨customer, hcustomer, ?_,
    (bindings 0 (scopedFilters c scope request.filters)).map (·.1), ?_⟩
  · rw [parametersOf, hbound]
    rfl
  · rw [Query.conjuncts_tokens h.isPlain (by simp [hconditions]), hconditions]

/-- What a compiled query's text is open to: no value, no parameter that is not given, no name
that is not the request's table, a column or the customer's, and for a customer no other rows
than the customer's. -/
theorem compile_bound {query : Query} {parameters : List (String × Json)}
    (h : compile c request scope = .ok (query, parameters)) :
    (∀ other otherScope, request.SameShape other → scope.isAdmin = otherScope.isAdmin →
      (compile c other otherScope).map (·.1.text) = .ok query.text) ∧
    ((∀ name, .parameter name ∈ query.tokens ↔ name ∈ parameters.map (·.1)) ∧
      (parameters.map (·.1)).Nodup) ∧
    (∀ name, .name name ∈ query.tokens →
      name = request.table ∨ name ∈ c.columnIds ∨ name = "customer_id") ∧
    (scope.isAdmin = false → ∃ customer, scope.customer = some customer ∧
      parameters.lookup "customer_id" = some (.int customer) ∧
      [.name "customer_id", .mark '=', .parameter "customer_id"] ∈
        Token.conjuncts query.tokens ∧
      ∀ conjunct ∈ Token.conjuncts query.tokens, ∃ x : Condition, conjunct = x.tokens) := by
  obtain ⟨hc, he⟩ := compile_eq_ok.1 h
  obtain ⟨rfl, rfl⟩ := Prod.mk.inj he
  refine ⟨?_, ⟨hc.parameters, nodup_parameters c request scope⟩, fun name => hc.names, ?_⟩
  · intro other otherScope hshape hscope
    rw [compile_eq_ok.2 ⟨hc.congr hscope hshape, rfl⟩, queryOf_congr c hscope hshape]
    rfl
  · intro hscope
    obtain ⟨customer, hcustomer, hlookup, conditions, hconjuncts⟩ := hc.owner hscope
    refine ⟨customer, hcustomer, hlookup, ?_, ?_⟩
    · rw [hconjuncts]
      exact .head _
    · intro conjunct hconjunct
      rw [hconjuncts] at hconjunct
      obtain ⟨x, -, rfl⟩ := List.mem_map.1 hconjunct
      exact ⟨x, rfl⟩

/-- Line items with a price, of some states and with a word in their text; `cost` is no field
that a customer can filter on. -/
def itemsNamed (word : String) (states : List String) : Request where
  table := "shipment_item"
  grouping := .pair "description" "origin_state"
  metric := "retail"
  aggregation := .avg
  filters :=
    [⟨"description", .ilike, .text word, false⟩, ⟨"cost", .gt, .int 1, false⟩,
     ⟨"origin_state", .within, .array (states.map .text), false⟩]
  limit := 20
  limit_pos := by decide

theorem compile_bound_itemsNamed :
    let query : Query :=
      ⟨.pair "description" "origin_state", .avg, "retail", "shipment_item",
        [ownerCondition, .matching "description" "f0", .anyOf "origin_state" "f1"]⟩
    let parameters : List (String × Json) :=
      [("limit", .int 20), ("customer_id", .int 7), ("f0", .text "%drawer%"),
       ("f1", .array [.text "TX", .text "CA"])]
    compile .freight (itemsNamed "drawer" ["TX", "CA"]) ⟨some 7⟩ = .ok (query, parameters) ∧
      (itemsNamed "drawer" ["TX", "CA"]).SameShape
        (itemsNamed "'; DROP TABLE shipment; --" []) ∧
      (compile .freight (itemsNamed "'; DROP TABLE shipment; --" []) ⟨some 8⟩).map (·.1.text) =
        .ok query.text ∧
      (∀ name, .parameter name ∈ query.tokens ↔ name ∈ ["limit", "customer_id", "f0", "f1"]) ∧
      [.name "customer_id", .mark '=', .parameter "customer_id"] ∈
        Token.conjuncts query.tokens := by
  intro query parameters
  have h : compile .freight (itemsNamed "drawer" ["TX", "CA"]) ⟨some 7⟩ =
      .ok (query, parameters) := by rfl
  have hshape :
      (itemsNamed "drawer" ["TX", "CA"]).SameShape
        (itemsNamed "'; DROP TABLE shipment; --" []) :=
    ⟨rfl, rfl, rfl, rfl, rfl⟩
  obtain ⟨hsame, ⟨hparameters, -⟩, -, howner⟩ := compile_bound h
  obtain ⟨customer, -, -, hconjunct, -⟩ := howner rfl
  exact ⟨h, hshape, hsame _ ⟨some 8⟩ hshape rfl, hparameters, hconjunct⟩

end Sql

end PromptChart
