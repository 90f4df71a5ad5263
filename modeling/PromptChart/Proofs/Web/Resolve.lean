import PromptChart.Proofs.Analyst.Grouping
import PromptChart.Proofs.Analyst.Requests
import PromptChart.Proofs.Validation.Checked
import PromptChart.Web.Service

namespace PromptChart

/-- In the freight catalog a dimension is admin-only exactly if its token is no alias and means
such a column. -/
theorem Catalog.exists_adminOnly_dimension_iff (token : String) :
    (∃ field ∈ Catalog.freight.dimension? token, field ∈ Catalog.freight.adminOnlyIds) ↔
      Catalog.freight.isDimensionAlias token = false ∧
        ∃ field ∈ Catalog.freight.adminOnlyIds,
          Column.match? Catalog.freight.columns token = some field := by
  constructor
  · rintro ⟨field, hfield, hadmin⟩
    obtain ⟨halias, hmatch⟩ := match?_of_adminOnly hfield hadmin
    exact ⟨halias, field, hadmin, hmatch⟩
  · rintro ⟨halias, field, hadmin, hmatch⟩
    rw [isDimensionAlias, Option.isSome_eq_false_iff, Option.isNone_iff_eq_none] at halias
    refine ⟨field, ?_, hadmin⟩
    rw [dimension?, dimensionIn?, halias]
    exact hmatch

namespace Web

def fieldCall (query : List (String × String)) (body : Option Json) : Call :=
  ⟨"GET", "/fields/resolve", query, body⟩

def TokenForm.field? (c : Catalog) (form : TokenForm) : Option String :=
  match form.kind with
  | .metric => some (c.scopedMetric form.scope.isAdmin (c.metric form.token))
  | .dimension => c.dimension? form.token

variable {a : Analyst} {query : List (String × String)} {body : Option Json} {form : TokenForm}

theorem answer_fieldCall (h : (fieldCall query body).parameters TokenForm.check = .valid form) :
    answer a (fieldCall query body) =
      .ok (.ok (.field form.token form.kind.name (form.field? a.catalog))) := by
  have hserved : answer a (fieldCall query body) = resolve a (fieldCall query body) := rfl
  rw [hserved, resolve, h]
  cases hkind : form.kind <;> simp only [fitting, TokenForm.field?, hkind]

theorem TokenForm.exists_adminOnly_field_iff (hscope : form.scope.isAdmin = false) :
    (∃ field ∈ form.field? .freight, field ∈ Catalog.freight.adminOnlyIds) ↔
      form.kind = .dimension ∧ Catalog.freight.isDimensionAlias form.token = false ∧
        ∃ field ∈ Catalog.freight.adminOnlyIds,
          Column.match? Catalog.freight.columns form.token = some field := by
  unfold field?
  cases form.kind with
  | dimension => simp only [Catalog.exists_adminOnly_dimension_iff, true_and]
  | metric =>
    have hmetric := Catalog.scopedMetric_not_adminOnly (c := .freight) (by decide)
      (Catalog.freight.metric form.token)
    rw [hscope]
    simp only [reduceCtorEq, false_and, iff_false]
    rintro ⟨field, hfield, hadmin⟩
    exact hmetric (Option.mem_some_iff.1 hfield ▸ hadmin)

theorem parameters_fieldCall (token : String) (kind : FieldKind) {written : String}
    {customer : Int} (h : Checked.whole (.text written) = .valid customer)
    (body : Option Json) :
    (fieldCall [("token", token), ("kind", kind.name), ("customer_id", written)]
      body).parameters TokenForm.check = .valid ⟨token, kind, ⟨some customer⟩⟩ := by
  let given :=
    Json.object [("token", .text token), ("kind", .text kind.name),
      ("customer_id", .text written)]
  have hgiven :
      (fieldCall [("token", token), ("kind", kind.name), ("customer_id", written)]
        body).parameters
      TokenForm.check = Checked.under "query" (TokenForm.check given) := rfl
  have htoken : Checked.required "token" Checked.text given = .valid token := rfl
  have hkind :
      Checked.optional "kind" (Checked.word .notWord FieldKind.names) .dimension given =
        .valid kind := by
    cases kind <;> rfl
  have hcustomer : Checked.optional "customer_id" (Checked.nullable Checked.whole) none given =
      .valid (some customer) := by
    have hwritten :
        Checked.nullable Checked.whole (.text written) =
          (Checked.whole (.text written)).map some := rfl
    have hvalue : given.get? "customer_id" = some (.text written) := rfl
    rw [Checked.optional, hvalue]
    simp only [hwritten, h]
    rfl
  rw [hgiven, Checked.under_eq_valid, TokenForm.check, htoken, hkind, Web.customer, hcustomer]
  rfl

/-- A customer who asks for the field of a token is always answered, and with the id of an
admin-only column exactly if the token is to stand for a dimension, is no alias, and means such
a column among all columns. -/
theorem answer_adminOnly_iff (settings : Settings) (store : Store) (reasoner : Reasoner)
    (query : List (String × String)) (body : Option Json) {form : TokenForm}
    (h : (fieldCall query body).parameters TokenForm.check = .valid form)
    (hscope : form.scope.isAdmin = false) :
    ∃ id, answer ⟨.freight, settings, store, reasoner⟩ (fieldCall query body) =
        .ok (.ok (.field form.token form.kind.name id)) ∧
      ((∃ field ∈ id, field ∈ Catalog.freight.adminOnlyIds) ↔
        form.kind = .dimension ∧ Catalog.freight.isDimensionAlias form.token = false ∧
          ∃ field ∈ Catalog.freight.adminOnlyIds,
            Column.match? Catalog.freight.columns form.token = some field) :=
  ⟨_, answer_fieldCall h, TokenForm.exists_adminOnly_field_iff hscope⟩

theorem answer_adminOnly_linehaul :
    let a : Analyst := ⟨.freight, .usual, fun _ _ => .ok [],
      fun _ => .ok Reasoning.mockResponse⟩
    let query := [("token", "The LINEHAUL cost"), ("kind", "dimension"), ("customer_id", "+7")]
    let form : TokenForm := ⟨"The LINEHAUL cost", .dimension, ⟨some 7⟩⟩
    (fieldCall query none).parameters TokenForm.check = .valid form ∧
      form.scope.isAdmin = false ∧
      ∃ id, answer a (fieldCall query none) = .ok (.ok (.field form.token "dimension" id)) ∧
        ∃ field ∈ id, field ∈ Catalog.freight.adminOnlyIds := by
  intro a query form
  have hform : (fieldCall query none).parameters TokenForm.check = .valid form :=
    parameters_fieldCall "The LINEHAUL cost" .dimension rfl none
  obtain ⟨id, hanswer, hiff⟩ := answer_adminOnly_iff a.settings a.store a.reasoner query
    none hform rfl
  exact ⟨hform, rfl, id, hanswer,
    hiff.2 ⟨rfl, by decide +kernel, "linehaul", by decide +kernel, by decide +kernel⟩⟩

/-- A customer who asks for the dimension named margin gets the id of the margin. -/
theorem not_forall_answer_open :
    ¬ ∀ (settings : Settings) (store : Store) (reasoner : Reasoner)
      (query : List (String × String)) (form : TokenForm) (id : String),
      (fieldCall query none).parameters TokenForm.check = .valid form →
      form.scope.isAdmin = false →
      answer ⟨.freight, settings, store, reasoner⟩ (fieldCall query none) =
        .ok (.ok (.field form.token form.kind.name (some id))) →
        id ∉ Catalog.freight.adminOnlyIds := by
  intro h
  have hcustomer : Checked.whole (.text "7") = .valid 7 := rfl
  have hform := parameters_fieldCall "margin" .dimension hcustomer none
  have hfield : Catalog.freight.dimension? "margin" = some "margin" := by decide +kernel
  refine h .usual (fun _ _ => .ok []) (fun _ => .ok Reasoning.mockResponse) _ _ "margin" hform
    rfl ?_ (by decide +kernel)
  rw [answer_fieldCall hform, TokenForm.field?, hfield]

end Web

end PromptChart
