import Mathlib.Data.List.Basic
import PromptChart.Json.Display

namespace PromptChart

namespace Decimal

theorem exists_numeral (n : Nat) : ∃ c cs, numeral n = c :: cs ∧ c.isDigit = true := by
  obtain ⟨c, cs, h⟩ : ∃ c cs, numeral n = c :: cs :=
    List.exists_cons_of_ne_nil Nat.toDigits_ne_nil
  have hmem : c ∈ Nat.toDigits 10 n := by
    rw [← numeral, h]
    exact .head cs
  exact ⟨c, cs, h, Nat.isDigit_of_mem_toDigits (by decide) (by decide) hmem⟩

theorem exists_write (d : Decimal) : ∃ c cs, d.write = c :: cs ∧ c.isDigit = true := by
  obtain ⟨c, cs, h, hc⟩ := exists_numeral d.digits
  simp only [write, h]
  split
  · split
    · exact ⟨'0', _, rfl, rfl⟩
    · split
      · exact ⟨c, _, rfl, hc⟩
      next hpoint _ =>
        obtain ⟨k, hk⟩ : ∃ k, (((c :: cs).length : Int) + d.exponent).toNat = k + 1 :=
          Nat.exists_eq_add_one.2 (by omega)
        rw [hk]
        exact ⟨c, _, rfl, hc⟩
  · cases cs with
    | nil => exact ⟨c, _, rfl, hc⟩
    | cons next rest => exact ⟨c, _, rfl, hc⟩

end Decimal

namespace Json

theorem ne_of_isDigit {c d : Char} (hc : c.isDigit = true)
    (hd : d.isDigit = false) : c ≠ d := by
  rintro rfl
  rw [hc] at hd
  cases hd

theorem head?_int (n : Int) : (toString n).toList.head? ≠ some 'p' := by
  cases n with
  | ofNat m =>
    obtain ⟨c, cs, h, hc⟩ := Decimal.exists_numeral m
    change (Nat.repr m).toList.head? ≠ _
    rw [Nat.toList_repr, ← Decimal.numeral, h, List.head?_cons]
    exact fun he => ne_of_isDigit hc rfl (Option.some.inj he)
  | negSucc m =>
    change ("-" ++ Nat.repr (m + 1)).toList.head? ≠ _
    rw [String.toList_append]
    exact fun he => absurd (Option.some.inj he) (by decide)

theorem head?_float (x : Binary64) : x.text.toList.head? ≠ some 'p' := by
  rw [Binary64.text, String.toList_ofList]
  cases x with
  | nan => exact fun he => absurd (Option.some.inj he) (by decide)
  | infinite s => cases s <;> exact fun he => absurd (Option.some.inj he) (by decide)
  | finite s i =>
    cases s with
    | true => exact fun he => absurd (Option.some.inj he) (by decide)
    | false =>
      obtain ⟨c, cs, h, hc⟩ := (Decimal.shortest i).exists_write
      change (Decimal.shortest i).write.head? ≠ _
      rw [h, List.head?_cons]
      exact fun he => ne_of_isDigit hc rfl (Option.some.inj he)

theorem eq_text_of_plain {j : Json} (hj : j.plain.toList.head? = some 'p') :
    j = .text j.plain := by
  cases j with
  | text t => rfl
  | null => cases hj
  | bool b => cases b <;> cases hj
  | int n => exact absurd hj (head?_int n)
  | float x => exact absurd hj (head?_float x)
  | array items =>
    simp only [plain, display, String.append_assoc, String.toList_append] at hj
    cases hj
  | object members =>
    simp only [plain, display, String.append_assoc, String.toList_append] at hj
    cases hj

end Json

end PromptChart
