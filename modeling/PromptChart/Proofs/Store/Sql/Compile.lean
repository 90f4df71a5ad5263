import PromptChart.Proofs.Outcome
import PromptChart.Store.Sql.Query

namespace PromptChart.Sql

variable {c : Catalog} {request : Request} {scope : Scope} {table : String}
  {allowed : List String}

/-- A name that may stand in the query: an identifier that is allowed. -/
def IsUsable (allowed : List String) (name : String) : Prop :=
  isIdentifier name = true ∧ name ∈ allowed

theorem identifier_eq_ok {name result : String} :
    identifier table allowed name = .ok result ↔ IsUsable allowed name ∧ result = name := by
  unfold identifier IsUsable
  split
  next h =>
    simp only [Bool.and_eq_true, List.contains_iff_mem] at h
    simp [h, eq_comm]
  next h =>
    simp only [Bool.and_eq_true, List.contains_iff_mem] at h
    simp [h]

/-- Conditions with their parameters and what these stand for, one for every filter, numbered
from `index`. -/
def bindings (index : Nat) : List Filter → List (Condition × String × Json)
  | [] => []
  | f :: rest =>
    let parameter := "f" ++ toString index
    ((Condition.ofFilter parameter f).1, parameter, (Condition.ofFilter parameter f).2) ::
      bindings (index + 1) rest

theorem conditions_eq_ok {index : Nat} {filters : List Filter}
    {bs : List (Condition × String × Json)} :
    conditions table allowed index filters = .ok bs ↔
      (∀ f ∈ filters, IsUsable allowed f.field) ∧ bs = bindings index filters := by
  induction filters generalizing index bs with
  | nil => simp [conditions, bindings, eq_comm]
  | cons f rest ih =>
    simp only [conditions, bind_eq_ok, identifier_eq_ok, ih, pure_eq_ok, Except.ok.injEq,
      bindings, List.forall_mem_cons]
    constructor
    · rintro ⟨_, ⟨hf, rfl⟩, _, ⟨hrest, rfl⟩, rfl⟩
      exact ⟨⟨hf, hrest⟩, rfl⟩
    · rintro ⟨⟨hf, hrest⟩, rfl⟩
      exact ⟨_, ⟨hf, rfl⟩, _, ⟨hrest, rfl⟩, rfl⟩

def ownerCondition : Condition := .compare "customer_id" "=" "customer_id"

def boundConditions (c : Catalog) (request : Request) (scope : Scope) :
    List (Condition × String × Json) :=
  (if scope.isAdmin then []
    else [(ownerCondition, "customer_id", .int (scope.customer.getD 0))]) ++
    bindings 0 (scopedFilters c scope request.filters)

/-- The query of a request, whether or not its names may stand in it. -/
def queryOf (c : Catalog) (request : Request) (scope : Scope) : Query where
  grouping := request.grouping
  aggregation := request.aggregation
  metric := request.metric
  table := request.table
  conditions := (boundConditions c request scope).map (·.1)

def parametersOf (c : Catalog) (request : Request) (scope : Scope) : List (String × Json) :=
  ("limit", .int request.limit) :: (boundConditions c request scope).map (·.2)

/-- All names of a request may stand in its query. -/
structure IsCompilable (c : Catalog) (request : Request) (scope : Scope) : Prop where
  table_mem : request.table ∈ c.tables.map (·.2)
  table : isIdentifier request.table = true
  fields : ∀ field ∈ request.grouping.fields, IsUsable c.columnIds field
  metric : IsUsable c.columnIds request.metric
  filters : ∀ f ∈ scopedFilters c scope request.filters, IsUsable c.columnIds f.field

theorem compile_eq_ok {result : Query × List (String × Json)} :
    compile c request scope = .ok result ↔
      IsCompilable c request scope ∧
        result = (queryOf c request scope, parametersOf c request scope) := by
  have hfields :
      (∀ field ∈ request.grouping.fields, ∃ name, IsUsable c.columnIds field ∧ name = field) ↔
      ∀ field ∈ request.grouping.fields, IsUsable c.columnIds field := by
    simp only [exists_and_left, exists_eq, and_true]
  unfold compile
  by_cases htable : request.table ∈ c.tables.map (·.2)
  · have hcontains : (c.tables.map (·.2)).contains request.table = true :=
      List.contains_iff_mem.2 htable
    simp only [hcontains, Bool.not_true, Bool.false_eq_true, ↓reduceIte, bind_eq_ok, pure_eq_ok,
      forIn_eq_ok, hfields, identifier_eq_ok, conditions_eq_ok, Except.ok.injEq]
    constructor
    · rintro ⟨_, ⟨htext, -⟩, _, hfields, _, ⟨hmetric, -⟩, _, ⟨hfilters, rfl⟩, rfl⟩
      exact ⟨⟨htable, htext.1, hfields, hmetric, hfilters⟩, rfl⟩
    · rintro ⟨h, rfl⟩
      exact ⟨_, ⟨⟨h.table, .head _⟩, rfl⟩, ⟨⟩, h.fields, _, ⟨h.metric, rfl⟩, _,
        ⟨h.filters, rfl⟩, rfl⟩
  · have hcontains : (c.tables.map (·.2)).contains request.table = false := by
      simpa using htable
    simp only [hcontains, Bool.not_false, ↓reduceIte]
    constructor
    · intro h
      cases h
    · rintro ⟨h, -⟩
      exact absurd h.table_mem htable

end PromptChart.Sql
