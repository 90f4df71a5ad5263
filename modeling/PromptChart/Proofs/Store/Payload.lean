import PromptChart.Proofs.Chart.Visualized
import PromptChart.Proofs.Execute.Failure
import PromptChart.Proofs.Execute.FanOut
import PromptChart.Proofs.Execute.Skipped
import PromptChart.Store.Payload

namespace PromptChart

/-- Is a failure one of a query on a table? -/
def Failure.IsQueryOn (table : String) (f : Failure) : Prop := ∃ detail, f = .query table detail

namespace Payload

/-- A payload that stands for a value, under so many layers of JSON text at most. -/
inductive Wraps (j : Json) : Nat → Json → Prop
  | itself {layers} : Wraps j layers j
  | text {layers s inner} (h : Json.read s = .ok inner) (rest : Wraps j layers inner) :
    Wraps j (layers + 1) (.text s)

/-- A payload that stands for an object without an error, but with a number or a truth value in
place of rows. -/
def IsBare (payload : Json) : Prop :=
  ∃ members, Wraps (.object members) 2 payload ∧
    ((Json.object members).get "error").isVacant = true ∧
    ((Json.object members).get "data").isBareScalar = true

def store (reply : Request → Scope → Json) : Store :=
  fun r scope => rows r.table (reply r scope)

variable {table : String} {payload j : Json} {layers : Nat} {members : List (String × Json)}

theorem unwrap_object (table : String) (layers : Nat) (members : List (String × Json)) :
    unwrap table layers (.object members) = .ok (.object members) := by
  cases layers <;> rfl

theorem wraps_of_unwrap (h : unwrap table layers payload = .ok j) : Wraps j layers payload := by
  induction layers generalizing payload with
  | zero =>
    cases h
    exact .itself
  | succ layers ih =>
    cases payload with
    | text s =>
      cases hread : Json.read s with
      | ok inner =>
        rw [unwrap, hread] at h
        exact .text hread (ih h)
      | error e =>
        rw [unwrap, hread] at h
        cases h
    | _ =>
      cases h
      exact .itself

theorem unwrap_of_wraps (h : Wraps (.object members) layers payload) :
    unwrap table layers payload = .ok (.object members) := by
  induction h with
  | itself => exact unwrap_object table _ members
  | text h _ ih => simp only [unwrap, h, ih]

theorem failsOnly_unwrap (table : String) (layers : Nat) (payload : Json) :
    FailsOnly (·.IsQueryOn table) (unwrap table layers payload) := by
  induction layers generalizing payload with
  | zero => exact failsOnly_ok payload
  | succ layers ih =>
    cases payload with
    | text s =>
      simp only [unwrap]
      cases Json.read s with
      | ok inner => exact ih inner
      | error e => exact failsOnly_error ⟨_, rfl⟩
    | _ => exact failsOnly_ok _

theorem failsOnly_checkRows (table : String) (raw : List Json) :
    FailsOnly (·.IsQueryOn table) (checkRows table raw) := by
  apply failsOnly_mapM
  intro j _
  cases PartialRow.check j with
  | valid row => exact failsOnly_ok row
  | invalid issues => exact failsOnly_error ⟨_, rfl⟩

theorem rawRows_object (members : List (String × Json)) : rawRows table (.object members) =
    match ((Json.object members).get "error").present? with
    | some e => .error (.query table e.plain)
    | none => ((Json.object members).get "data").elementsOrNone := by
  simp only [rawRows, Json.elementsOrNone]
  cases ((Json.object members).get "error").present? with
  | some e => rfl
  | none => cases ((Json.object members).get "data").present? <;> rfl

/-- Raw rows are missing otherwise than in a query that fails only where an object has something
else in their place. -/
theorem failsOnly_rawRows
    (h : ∀ members, j = .object members → ((Json.object members).get "error").isVacant = true →
    ((Json.object members).get "data").isBareScalar = false) :
    FailsOnly (·.IsQueryOn table) (rawRows table j) := by
  cases j with
  | null => exact failsOnly_ok []
  | array items => exact failsOnly_ok items
  | object members =>
    rw [rawRows_object, Json.present?]
    cases herror : ((Json.object members).get "error").isVacant with
    | false => exact failsOnly_error ⟨_, rfl⟩
    | true =>
      obtain ⟨items, hitems⟩ := Json.exists_elementsOrNone_iff.2 (h members rfl herror)
      rw [hitems]
      exact failsOnly_ok items
  | _ => exact failsOnly_error ⟨_, rfl⟩

theorem failsOnly_rows (h : ¬ IsBare payload) :
    FailsOnly (·.IsQueryOn table) (rows table payload) := by
  refine (failsOnly_unwrap table 2 payload).bind fun j hj => ?_
  refine FailsOnly.bind ?_ fun raw _ => failsOnly_checkRows table raw
  apply failsOnly_rawRows
  rintro members rfl herror
  apply Bool.eq_false_iff.2
  intro hdata
  exact h ⟨members, wraps_of_unwrap hj, herror, hdata⟩

theorem rows_of_isBare (h : IsBare payload) (table : String) :
    rows table payload = .error .wrongKind := by
  obtain ⟨members, hwraps, herror, hdata⟩ := h
  have hraw : rawRows table (.object members) = .error .wrongKind := by
    rw [rawRows_object, Json.present?, herror]
    exact Json.elementsOrNone_of_isBareScalar hdata
  rw [rows, unwrap_of_wraps hwraps, ok_bind, hraw]
  rfl

/-- A payload is read, or fails as a query on its table, exactly if it is not a bare one. -/
theorem failsOnly_rows_iff (table : String) (payload : Json) :
    FailsOnly (·.IsQueryOn table) (rows table payload) ↔ ¬ IsBare payload := by
  constructor
  · intro h hbare
    obtain ⟨detail, hquery⟩ := h _ (rows_of_isBare hbare table)
    cases hquery
  · exact failsOnly_rows

variable {reply : Request → Scope → Json} {scope : Scope} {es : Entries String Request}

theorem collect_eq_wrongKind_iff :
    collect (fun _ r => store reply r scope) es = .error .wrongKind ↔
      ∃ trip ∈ es, IsBare (reply trip.2 scope) := by
  induction es with
  | nil => simp [collect]
  | cons trip rest ih =>
    rw [List.exists_mem_cons_iff, ← ih]
    by_cases hbare : IsBare (reply trip.2 scope)
    · simp only [collect, store, rows_of_isBare hbare, hbare, true_or]
    · cases hrows : store reply trip.2 scope with
      | ok batch =>
        simp only [collect, hrows, hbare, false_or]
        cases collect (fun _ r => store reply r scope) rest <;> simp
      | error f =>
        obtain ⟨detail, rfl⟩ := failsOnly_rows hbare f hrows
        simp only [collect, hrows, hbare, false_or]

end Payload

namespace Comparison

variable {c : Catalog} {s : Settings} {range : Option DateRange} {scope : Scope}
  {metric : String} {x : Comparison} {reply : Request → Scope → Json}
  {es : Entries String Request} {failed : List String}

theorem run_eq_wrongKind_iff (hes : x.requests c s range metric = .ok es) :
    (x.run c s (Payload.store reply) scope range metric).result = .error .wrongKind ↔
      ∃ trip ∈ es, Payload.IsBare (reply trip.2 scope) := by
  rw [← Payload.collect_eq_wrongKind_iff]
  simp only [run, hes]
  cases collect (fun _ r => Payload.store reply r scope) es with
  | error f => simp
  | ok batches =>
    simp only [ok_bind, reduceCtorEq, iff_false]
    intro hpoints
    obtain h | h := x.failsOnly_points batches _ hpoints <;> cases h

theorem losesOnly_payloads (hes : x.requests c s range metric = .ok es)
    (h : ∀ term ∈ failed, ∃ r, (term, r) ∈ es ∧ ¬ Payload.IsBare (reply r scope) ∧
      ∀ rows, Payload.rows r.table (reply r scope) ≠ .ok rows) :
    LosesOnly (x.requestFor c s range metric) scope (Payload.store reply) (Payload.store reply)
      x.terms failed := by
  constructor
  · intro term hterm
    obtain ⟨r, hmem, hbare, hrows⟩ := h term hterm
    obtain ⟨hterms, hrequest⟩ := Plan.mem_forTerms hes hmem
    cases hreply : Payload.rows r.table (reply r scope) with
    | ok rows => exact absurd hreply (hrows rows)
    | error f =>
      obtain ⟨detail, rfl⟩ := Payload.failsOnly_rows hbare f hreply
      exact ⟨hterms, r, r.table, detail, hrequest, hreply⟩
  · intros
    rfl

end Comparison

/-- Unless a payload is a bare one, it is read or fails as a query on its table, and where it
cannot be read it costs a comparison its own term and nothing else. A bare one takes the whole
comparison with it. -/
theorem Payload.failures_contained_iff (table : String) (payload : Json) :
    (FailsOnly (·.IsQueryOn table) (rows table payload) ↔ ¬ IsBare payload) ∧
    ∀ (c : Catalog) (s : Settings) (scope : Scope) (range : Option DateRange) (metric : String)
      (x : Comparison) (reply : Request → Scope → Json) (es : Entries String Request),
      x.requests c s range metric = .ok es →
        ((x.run c s (store reply) scope range metric).result = .error .wrongKind ↔
          ∃ trip ∈ es, IsBare (reply trip.2 scope)) ∧
        ∀ failed, (∀ term ∈ failed, ∃ r, (term, r) ∈ es ∧ ¬ IsBare (reply r scope) ∧
            ∀ batch, rows r.table (reply r scope) ≠ .ok batch) →
          (x.run c s (store reply) scope range metric).result =
            ((x.without failed).run c s (store reply) scope range metric).result := by
  refine ⟨failsOnly_rows_iff table payload, ?_⟩
  intro c s scope range metric x reply es hes
  refine ⟨Comparison.run_eq_wrongKind_iff hes, ?_⟩
  intro failed hfailed
  exact Comparison.run_without (Comparison.losesOnly_payloads hes hfailed)

def Payload.cutOffReply : Request → Scope → Json := fun r _ =>
  if r.filters.any fun f => f.value.plain == "Hinge" then .text "["
  else .array [.object [("label", .text "Drawer Unit"), ("value", .int 5)]]

theorem Payload.failures_contained_of_cutOff :
    let x : Comparison := ⟨["Hinge", "Drawer"], .sum⟩
    let es := [("Hinge", FanOut.retailOf "Hinge"), ("Drawer", FanOut.retailOf "Drawer")]
    x.requests .freight .usual none "retail" = .ok es ∧
      (∀ term ∈ ["Hinge"], ∃ r, (term, r) ∈ es ∧ ¬ IsBare (cutOffReply r .admin) ∧
        ∀ batch, rows r.table (cutOffReply r .admin) ≠ .ok batch) ∧
      (x.run .freight .usual (store cutOffReply) .admin none "retail").result =
        ((x.without ["Hinge"]).run .freight .usual (store cutOffReply) .admin
          none "retail").result ∧
      (x.run .freight .usual (store cutOffReply) .admin none "retail").result =
        .ok [⟨"Drawer", 5⟩] := by
  intro x es
  obtain ⟨hcontained, hrun⟩ := failures_contained_iff "shipment_item" (.text "[")
  have hes : x.requests .freight .usual none "retail" = .ok es := rfl
  have hquery : rows "shipment_item" (.text "[") =
      .error (.query "shipment_item"
        "invalid JSON payload: Expecting value: line 1 column 2 (char 1)") := by
    decide +kernel
  have hfailed : ∀ term ∈ ["Hinge"], ∃ r, (term, r) ∈ es ∧ ¬ IsBare (cutOffReply r .admin) ∧
      ∀ batch, rows r.table (cutOffReply r .admin) ≠ .ok batch := by
    intro term hterm
    obtain rfl := List.mem_singleton.1 hterm
    refine ⟨FanOut.retailOf "Hinge", .head _, hcontained.1 ?_, fun batch hrows => ?_⟩
    · rw [hquery]
      exact failsOnly_error ⟨_, rfl⟩
    · cases hquery.symm.trans hrows
  obtain ⟨-, hsame⟩ := hrun .freight .usual .admin none "retail" x cutOffReply es hes
  exact ⟨hes, hfailed, hsame ["Hinge"] hfailed, by decide +kernel⟩

/-- A number in place of the rows is no failure of a query. -/
theorem Payload.not_forall_failures_contained :
    ¬ ∀ table payload, FailsOnly (·.IsQueryOn table) (rows table payload) := by
  intro h
  obtain ⟨detail, hquery⟩ := h "shipment" (.object [("data", .int 5)]) .wrongKind rfl
  cases hquery

end PromptChart
