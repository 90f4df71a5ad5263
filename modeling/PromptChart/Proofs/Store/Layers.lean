import PromptChart.Proofs.Json.RoundTrip
import PromptChart.Proofs.Outcome
import PromptChart.Store.Payload

namespace PromptChart.Payload

def layered (payload : Json) : Nat → Json
  | 0 => payload
  | layers + 1 => .text (layered payload layers).write

variable {payload : Json} {table : String} {layers n : Nat}

theorem isKeyed_layered (h : payload.isKeyed = true) (n : Nat) :
    (layered payload n).isKeyed = true := by
  cases n with
  | zero => exact h
  | succ n => rfl

theorem unwrap_text (h : payload.isKeyed = true) (table : String) (layers : Nat) :
    unwrap table (layers + 1) (.text payload.write) = unwrap table layers payload := by
  simp only [unwrap, Json.read_write h]

theorem unwrap_layered (h : payload.isKeyed = true) (table : String) (layers n : Nat) :
    unwrap table (layers + n) (layered payload n) = unwrap table layers payload := by
  induction n with
  | zero => rfl
  | succ n ih => rw [layered, ← Nat.add_assoc, unwrap_text (isKeyed_layered h n), ih]

theorem unwrap_of_ne_text (h : ∀ s, payload ≠ .text s) (table : String) (layers : Nat) :
    unwrap table layers payload = .ok payload := by
  cases layers with
  | zero => rfl
  | succ layers =>
    cases payload with
    | text s => exact absurd rfl (h s)
    | _ => rfl

theorem rows_layered (h : payload.isKeyed = true) (hpayload : ∀ s, payload ≠ .text s)
    (table : String) (hn : n ≤ 2) :
    rows table (layered payload n) = rows table payload := by
  obtain ⟨layers, hlayers⟩ := Nat.exists_eq_add_of_le' hn
  rw [rows, rows, hlayers, unwrap_layered h, unwrap_of_ne_text hpayload,
    unwrap_of_ne_text hpayload]

theorem rows_layered_add_three (payload : Json) (table : String) (n : Nat) :
    rows table (layered payload (n + 3)) =
      .error (.query table "unexpected payload type str") := by
  have hkeyed : (layered payload (n + 1)).isKeyed = true := rfl
  have hunwrap : unwrap table 2 (layered payload (n + 3)) = .ok (layered payload (n + 1)) :=
    unwrap_layered hkeyed table 0 2
  rw [rows, hunwrap]
  rfl

/-- A payload that is no text has the same rows, or fails alike, on its own and under one or two
layers of JSON text. Under three or more layers every payload is rejected: two are taken off,
and a text is left. -/
theorem rows_layers (table : String) :
    (∀ payload : Json, payload.isKeyed = true → (∀ s, payload ≠ .text s) →
      ∀ n ≤ 2, rows table (layered payload n) = rows table payload) ∧
    ∀ (payload : Json) (n : Nat), rows table (layered payload (n + 3)) =
      .error (.query table "unexpected payload type str") :=
  ⟨fun _ hkeyed hpayload _ hn => rows_layered hkeyed hpayload table hn,
    fun payload n => rows_layered_add_three payload table n⟩

def drawerReply : Json :=
  .object [("data",
    .array [.object [("primary_group", .text "6\" Drawer \u2713"),
      ("value", .float (.ofRatio false 3 2)),
    ("count", .int 2)]])]

theorem rows_layers_drawer :
    drawerReply.isKeyed = true ∧ (∀ s, drawerReply ≠ .text s) ∧
      rows "shipment_item" drawerReply =
        .ok [⟨some "6\" Drawer \u2713", none, none, some (.ofRatio false 3 2), 2⟩] ∧
      rows "shipment_item" (.text (Json.text drawerReply.write).write) =
        rows "shipment_item" drawerReply ∧
      rows "shipment_item" (.text (Json.text (Json.text drawerReply.write).write).write) =
        .error (.query "shipment_item" "unexpected payload type str") := by
  obtain ⟨hsame, hrejected⟩ := rows_layers "shipment_item"
  have hkeyed : drawerReply.isKeyed = true := by decide
  exact ⟨hkeyed, nofun, by decide +kernel, hsame drawerReply hkeyed nofun 2 (by decide),
    hrejected drawerReply 0⟩

end PromptChart.Payload
