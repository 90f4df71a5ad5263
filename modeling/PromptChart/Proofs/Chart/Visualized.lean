import PromptChart.Chart.Service
import PromptChart.Proofs.Outcome
import PromptChart.Proofs.Validation.Checked
import PromptChart.Reasoning.Basic

namespace PromptChart

/-- A truth value or a number that does not count as nothing. -/
def Json.isBareScalar : Json → Bool
  | .bool b => b
  | .int n => n != 0
  | .float x => !x.isZero
  | _ => false

theorem Json.exists_elementsOrNone_iff {j : Json} :
    (∃ items, j.elementsOrNone = .ok items) ↔ j.isBareScalar = false := by
  unfold elementsOrNone present?
  cases j with
  | null => simp [isVacant, isBareScalar]
  | bool b => cases b <;> simp [isVacant, isBareScalar, elements]
  | int n => by_cases hn : n = 0 <;> simp [isVacant, isBareScalar, elements, hn]
  | float x => cases hx : x.isZero <;> simp [isVacant, isBareScalar, elements, hx]
  | text s => cases hs : s.isEmpty <;> simp [isVacant, isBareScalar, elements, hs]
  | array items => cases items <;> simp [isVacant, isBareScalar, elements]
  | object members => cases members <;> simp [isVacant, isBareScalar, elements]

theorem Json.elementsOrNone_of_isBareScalar {j : Json} (h : j.isBareScalar = true) :
    j.elementsOrNone = .error .wrongKind := by
  cases j with
  | bool b => cases b with
    | true => rfl
    | false => cases h
  | int n =>
    have hn : (n == 0) = false := by simpa [isBareScalar] using h
    simp only [elementsOrNone, present?, isVacant, hn, Bool.false_eq_true, ↓reduceIte, elements]
  | float x =>
    have hx : x.isZero = false := by simpa [isBareScalar] using h
    simp only [elementsOrNone, present?, isVacant, hx, Bool.false_eq_true, ↓reduceIte, elements]
  | _ => cases h

theorem Json.membersOrNone_object (members : List (String × Json)) :
    (Json.object members).membersOrNone = .ok members := by
  cases members <;> rfl

/-- Can the data of a visualization be gone through? -/
def Visualization.IsReadable (v : Visualization) : Prop :=
  ((Json.object v.data).get "data").isBareScalar = false

theorem Trace.exists_read (c : Catalog) (trace prompt : Json) (v : Visualization) :
    ∃ read, Trace.read c trace v.toJson prompt = .ok read := by
  obtain ⟨config, hconfig⟩ : ∃ config, Trace.drawn v.toJson = .ok config := by
    simp only [Trace.drawn, Visualization.toJson, Json.membersOrNone_object, ok_bind]
    exact ⟨_, rfl⟩
  rw [Trace.read, hconfig, ok_bind]
  split
  · exact ⟨_, rfl⟩
  · exact ⟨_, rfl⟩

namespace Visualized

variable {c : Catalog} {visualization trace prompt : Json} {scope : Scope} {made : Chart}

theorem chart_eq_ok : chart c visualization trace prompt scope = .ok made ↔
    ∃ data read kind steps,
      rows visualization = .ok data ∧ Trace.read c trace visualization prompt = .ok read ∧
      type visualization = .ok kind ∧ Checked.list Checked.step trace = .valid steps ∧
      (let config := settle c scope.isAdmin read
        let points := points (if scope.isAdmin then data else forCustomer c data)
        { source := .service, type := kind, config,
          description := config.describe points.length, points,
          reasoning := steps }) = made := by
  simp only [chart, bind_eq_ok, pure_eq_ok, Except.ok.injEq, Checked.toExcept_eq_ok,
    Checked.under_eq_valid]
  constructor
  · rintro ⟨data, hdata, read, hread, kind, hkind, steps, hsteps, rfl⟩
    exact ⟨data, read, kind, steps, hdata, hread, hkind, hsteps, rfl⟩
  · rintro ⟨data, read, kind, steps, hdata, hread, hkind, hsteps, rfl⟩
    exact ⟨data, hdata, read, hread, kind, hkind, steps, hsteps, rfl⟩

theorem exists_rows_iff {v : Visualization} :
    (∃ data, rows v.toJson = .ok data) ↔ v.IsReadable := by
  have hrows : rows v.toJson =
      (((Json.object v.data).get "data").elementsOrNone >>=
        fun items => .ok (items.filter isObject)) := by
    have hmember : v.toJson.memberOf "data" = .ok (.object v.data) := rfl
    rw [rows, hmember, ok_bind, Json.membersOrNone_object]
    rfl
  rw [hrows, Visualization.IsReadable, ← Json.exists_elementsOrNone_iff]
  simp only [bind_eq_ok, Except.ok.injEq]
  constructor
  · rintro ⟨data, items, hitems, -⟩
    exact ⟨items, hitems⟩
  · rintro ⟨items, hitems⟩
    exact ⟨_, items, hitems, rfl⟩

theorem exists_type (v : Visualization) : ∃ kind, type v.toJson = .ok kind := by
  have htype : v.toJson.get "type" = .text v.type := rfl
  rw [type, htype, Json.present?]
  cases hempty : (Json.text v.type).isVacant with
  | true => exact ⟨_, rfl⟩
  | false => exact ⟨_, rfl⟩

theorem list_step {steps : List Json} (h : ∀ step ∈ steps, isObject step = true) :
    Checked.list Checked.step (.array steps) = .valid steps := by
  refine Checked.list_eq_valid.2 ⟨steps, rfl, List.forall₂_same.2 fun step hstep => ?_⟩
  cases step with
  | object members => rfl
  | _ => cases h _ hstep

/-- A chart of a visualization that the service has sent, with a trace whose steps are objects,
is made exactly if the data can be gone through. -/
theorem exists_chart_iff {v : Visualization} {steps : List Json}
    (h : ∀ step ∈ steps, isObject step = true) :
    (∃ made, chart c v.toJson (.array steps) prompt scope = .ok made) ↔ v.IsReadable := by
  simp only [chart_eq_ok, ← exists_rows_iff]
  constructor
  · rintro ⟨made, data, read, kind, steps, hdata, -⟩
    exact ⟨data, hdata⟩
  · rintro ⟨data, hdata⟩
    obtain ⟨read, hread⟩ := Trace.exists_read c (.array steps) prompt v
    obtain ⟨kind, hkind⟩ := exists_type v
    exact ⟨_, data, read, kind, steps, hdata, hread, hkind, list_step h, rfl⟩

end Visualized

end PromptChart
