import PromptChart.Catalog.Freight
import PromptChart.Proofs.Outcome
import PromptChart.Trace.Reader

namespace PromptChart

/-- An object, or a value that holds nothing. -/
def Json.IsMembered (j : Json) : Prop := j.isVacant = true ∨ ∃ members, j = .object members

theorem Json.exists_membersOrNone_iff {j : Json} :
    (∃ members, j.membersOrNone = .ok members) ↔ j.IsMembered := by
  unfold membersOrNone present? IsMembered
  cases hvacant : j.isVacant with
  | true => simp
  | false => cases j <;> simp

theorem Json.failsOnly_membersOrNone (j : Json) :
    FailsOnly (· = .noMember) j.membersOrNone := by
  intro f hf
  unfold membersOrNone at hf
  split at hf
  · cases hf
  · cases hf
  · cases hf
    rfl

theorem Json.get_object_of_membersOrNone {j : Json} {members : List (String × Json)}
    (h : j.membersOrNone = .ok members) (key : String) :
    (Json.object members).get key = j.get key := by
  unfold membersOrNone present? at h
  cases hvacant : j.isVacant with
  | true =>
    rw [hvacant] at h
    cases h
    cases j with
    | object members =>
      obtain rfl := List.isEmpty_iff.1 hvacant
      rfl
    | _ => rfl
  | false =>
    rw [hvacant] at h
    cases j with
    | object members =>
      cases h
      rfl
    | _ => cases h

namespace Trace

/-- A visualization that can be asked for its title and, through its config, for its axes. -/
structure IsDrawable (visualization : Json) : Prop where
  members : visualization.IsMembered
  config : (visualization.get "config").IsMembered

variable {c : Catalog} {trace visualization prompt : Json}

theorem exists_drawn_iff :
    (∃ config, drawn visualization = .ok config) ↔ IsDrawable visualization := by
  constructor
  · rintro ⟨config, h⟩
    obtain ⟨members, hmembers, h⟩ := bind_eq_ok.1 h
    obtain ⟨settings, hsettings, -⟩ := bind_eq_ok.1 h
    rw [Json.get_object_of_membersOrNone hmembers] at hsettings
    exact ⟨Json.exists_membersOrNone_iff.1 ⟨members, hmembers⟩,
      Json.exists_membersOrNone_iff.1 ⟨settings, hsettings⟩⟩
  · rintro ⟨hmembers, hsettings⟩
    obtain ⟨members, hmembers⟩ := Json.exists_membersOrNone_iff.2 hmembers
    obtain ⟨settings, hsettings⟩ := Json.exists_membersOrNone_iff.2 hsettings
    rw [← Json.get_object_of_membersOrNone hmembers] at hsettings
    exact ⟨_, bind_eq_ok.2 ⟨members, hmembers, bind_eq_ok.2 ⟨settings, hsettings, rfl⟩⟩⟩

theorem failsOnly_drawn (visualization : Json) :
    FailsOnly (· = .noMember) (drawn visualization) :=
  (Json.failsOnly_membersOrNone _).bind
    fun _ _ => (Json.failsOnly_membersOrNone _).bind fun _ _ => failsOnly_ok _

theorem exists_read_of_drawn (c : Catalog) (trace prompt : Json) {config : ChartConfig}
    (h : drawn visualization = .ok config) :
    ∃ found, read c trace visualization prompt = .ok found := by
  rw [read, h, ok_bind]
  split
  · exact ⟨_, rfl⟩
  · exact ⟨_, rfl⟩

theorem read_of_not_elements {f : Failure} (h : trace.elementsOrNone = .error f) :
    read c trace visualization prompt = drawn visualization := by
  rw [read, h]
  cases drawn visualization with
  | error g => rfl
  | ok config => cases promptText? prompt <;> rfl

/-- Whether a trace is read hangs on the visualization alone: it and its config have to be
objects or hold nothing. Where one of them is something else, it is for a member that this does
not have. -/
theorem read_returns_iff (c : Catalog) (trace visualization prompt : Json) :
    ((∃ config, read c trace visualization prompt = .ok config) ↔ IsDrawable visualization) ∧
      FailsOnly (· = .noMember) (read c trace visualization prompt) := by
  have hreturns : (∃ config, read c trace visualization prompt = .ok config) ↔
      ∃ config, drawn visualization = .ok config := by
    constructor
    · rintro ⟨found, hfound⟩
      obtain ⟨config, hconfig, -⟩ := bind_eq_ok.1 hfound
      exact ⟨config, hconfig⟩
    · rintro ⟨config, hconfig⟩
      exact exists_read_of_drawn c trace prompt hconfig
  refine ⟨hreturns.trans exists_drawn_iff,
    (failsOnly_drawn visualization).bind fun config hconfig => ?_⟩
  split
  · exact failsOnly_ok _
  · exact failsOnly_ok _

/-- A config that is a text keeps a trace from being read. -/
theorem not_forall_read_returns :
    ¬ ∀ (trace visualization : Json) (prompt : String),
      ∃ config, read .freight trace visualization (.text prompt) = .ok config := by
  intro h
  obtain ⟨config, hconfig⟩ := h (.array [])
    (.object [("title", .text "Retail by carrier"), ("config", .text "carrier")])
    "retail by carrier"
  cases hconfig

end Trace

end PromptChart
