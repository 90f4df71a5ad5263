import PromptChart.Analyst
import PromptChart.Store.Memory

namespace PromptChart

namespace Memory

def isForeign (customer : Int) : Json → Bool
  | .object members => !((members.lookup "customer_id").getD .null).sameScalar (.int customer)
  | _ => false

def ownRecords (customer : Int) (records : List Json) : List Json :=
  records.filter (!isForeign customer ·)

/-- Two sets of tables in which a customer has the same tables and the same records. -/
def SameForCustomer (customer : Int) (one other : Tables) : Prop :=
  ∀ name, (one.get? name).map (ownRecords customer) =
    (other.get? name).map (ownRecords customer)

variable {customer : Int} {filters : List Filter} {record : Json} {rest : List Json}

theorem isAdmin_customer (hc : customer ≠ 0) : Scope.isAdmin ⟨some customer⟩ = false := by
  simpa [Scope.isAdmin] using hc

theorem visible_of_isForeign (hc : customer ≠ 0) (hr : isForeign customer record = true) :
    visible ⟨some customer⟩ record = .ok false := by
  cases record with
  | object members =>
    have howner :
        ((members.lookup "customer_id").getD .null).sameScalar (.int customer) = false := by
      simpa only [isForeign, Bool.not_eq_true'] using hr
    simp only [visible, isAdmin_customer hc, field, bind, Except.bind, pure, Except.pure,
      Bool.false_eq_true, ↓reduceIte, howner]
  | _ => cases hr

theorem select_cons_of_hidden {scope : Scope} (h : visible scope record = .ok false) :
    select scope filters (record :: rest) = select scope filters rest := by
  simp only [select, h, bind, Except.bind, Bool.false_eq_true, ↓reduceIte]

theorem select_cons_congr {scope : Scope} {rest' : List Json}
    (h : select scope filters rest = select scope filters rest') :
    select scope filters (record :: rest) = select scope filters (record :: rest') := by
  simp only [select, h]

theorem select_ownRecords (hc : customer ≠ 0) (records : List Json) :
    select ⟨some customer⟩ filters (ownRecords customer records) =
      select ⟨some customer⟩ filters records := by
  induction records with
  | nil => rfl
  | cons record rest ih =>
    by_cases hr : isForeign customer record = true
    · rw [select_cons_of_hidden (visible_of_isForeign hc hr), ← ih]
      simp only [ownRecords, List.filter_cons, hr, Bool.not_true, Bool.false_eq_true,
        ↓reduceIte]
    · have hown :
          ownRecords customer (record :: rest) = record :: ownRecords customer rest := by
        simp only [ownRecords, List.filter_cons, hr, Bool.not_false, ↓reduceIte]
      rw [hown]
      exact select_cons_congr ih

variable {ν : Type} [Arithmetic ν]

theorem allRows_ownRecords (hc : customer ≠ 0) (c : Catalog) (records : List Json)
    (request : Request) :
    (allRows c (ownRecords customer records) request ⟨some customer⟩ :
        Except Failure (List (PartialRow ν))) =
      allRows c records request ⟨some customer⟩ := by
  simp only [allRows, select_ownRecords hc]

theorem store_eq_ownRecords (hc : customer ≠ 0) (c : Catalog) (tables : Tables)
    (request : Request) :
    (store c tables request ⟨some customer⟩ : Except Failure (List (PartialRow ν))) =
      match (tables.get? request.table).map (ownRecords customer) with
      | none => .error (.query request.table "unknown table")
      | some records => do
        return (← allRows c records request ⟨some customer⟩).take request.limit := by
  cases h : tables.get? request.table with
  | none => simp only [store, h, Option.map_none]
  | some records => simp only [store, h, Option.map_some, allRows_ownRecords hc]

theorem SameForCustomer.store {one other : Tables} (h : SameForCustomer customer one other)
    (hc : customer ≠ 0) (c : Catalog) (request : Request) :
    (Memory.store c one request ⟨some customer⟩ : Except Failure (List (PartialRow ν))) =
      Memory.store c other request ⟨some customer⟩ := by
  rw [store_eq_ownRecords hc, store_eq_ownRecords hc, h]

end Memory

variable {ν : Type} [Arithmetic ν] {c : Catalog} {s : Settings} {scope : Scope}
  {range : Option DateRange}

theorem Comparison.run_congr {one other : Store ν} (x : Comparison) (metric : String)
    (h : ∀ request, one request scope = other request scope) :
    x.run c s one scope range metric = x.run c s other scope range metric := by
  cases hr : x.requests c s range metric with
  | error f => simp only [Comparison.run, hr]
  | ok requests => simp only [Comparison.run, hr, h]

theorem Breakdown.answer_congr {one other : Store} (b : Breakdown) (plan : Plan)
    (h : ∀ request, one request scope = other request scope) :
    b.answer one scope plan = b.answer other scope plan := by
  cases plan with
  | perTerm requests => simp only [Breakdown.answer, h]
  | single request => simp only [Breakdown.answer, h]

theorem Breakdown.run_congr {one other : Store} (b : Breakdown)
    (h : ∀ request, one request scope = other request scope) :
    b.run c s one scope range = b.run c s other scope range := by
  cases hp : b.plan c s range with
  | error f => simp only [Breakdown.run, hp]
  | ok plan => simp only [Breakdown.run, hp, b.answer_congr plan h]

namespace Analyst

def onStore (a : Analyst) (store : Store) : Analyst := { a with store }

theorem ask_onStore_congr (a : Analyst) {one other : Store}
    (h : ∀ request, one request scope = other request scope) (user : Option String)
    (prompt : String) :
    (a.onStore one).ask scope range user prompt =
      (a.onStore other).ask scope range user prompt := by
  have hfollow (intent : Intent) :
      (a.onStore one).follow scope range intent =
        (a.onStore other).follow scope range intent := by
    cases intent with
    | comparison x => simp only [follow, compare, onStore, x.run_congr _ h]
    | breakdown b => simp only [follow, breakDown, onStore, rescope, Breakdown.run_congr _ h]
  cases hc : Prompt.classify a.catalog prompt with
  | none => simp only [ask, onStore, hc]; rfl
  | some intent =>
    have hf := hfollow intent
    simp only [onStore] at hf
    simp only [ask, onStore, hc, hf]

/-- The two-run property: stores in which a customer has the same records cannot be told apart
by what the customer's prompts lead to. -/
theorem ask_eq_of_sameForCustomer (a : Analyst) (c : Catalog) (customer : Int)
    (one other : Tables) (hc : customer ≠ 0) (h : Memory.SameForCustomer customer one other)
    (range : Option DateRange) (user : Option String) (prompt : String) :
    (a.onStore (Memory.store c one)).ask ⟨some customer⟩ range user prompt =
      (a.onStore (Memory.store c other)).ask ⟨some customer⟩ range user prompt := by
  apply ask_onStore_congr
  exact h.store hc c

theorem ask_eq_beside_malformed :
    let kept := Json.object [("customer_id", .int 7), ("carrier_name", .text "Saia"),
      ("retail", .int 120)]
    let worded := Json.object [("customer_id", .int 8), ("retail", .text "n/a")]
    let listed := Json.object [("customer_id", .array []), ("retail", .int 5)]
    let one : Tables := [("shipment", [kept, worded])]
    let other : Tables := [("shipment", [listed, kept, .object []])]
    let a : Analyst := ⟨.freight, .usual, Memory.store .freight [],
      fun _ => .ok Reasoning.mockResponse⟩
    let prompt := "total retail by carrier and state"
    (7 : Int) ≠ 0 ∧ Memory.SameForCustomer 7 one other ∧
      (a.onStore (Memory.store .freight one)).ask ⟨some 7⟩ none none prompt =
        (a.onStore (Memory.store .freight other)).ask ⟨some 7⟩ none none prompt := by
  intro kept worded listed one other a prompt
  have hc : (7 : Int) ≠ 0 := by decide
  have hkept : Memory.isForeign 7 kept = false := by decide +kernel
  have hworded : Memory.isForeign 7 worded = true := by decide +kernel
  have hlisted : Memory.isForeign 7 listed = true := by decide +kernel
  have hempty : Memory.isForeign 7 (.object []) = true := by decide +kernel
  have h : Memory.SameForCustomer 7 one other := by
    intro name
    by_cases hn : "shipment" = name
    · simp only [one, other, Entries.get?, hn, ↓reduceIte, Option.map_some, Memory.ownRecords,
        List.filter_cons, List.filter_nil, hkept, hworded, hlisted, hempty, Bool.not_false,
        Bool.not_true, Bool.false_eq_true]
    · simp only [one, other, Entries.get?, hn, ↓reduceIte]
  exact ⟨hc, h, ask_eq_of_sameForCustomer a .freight 7 one other hc h none none _⟩

end Analyst

end PromptChart
