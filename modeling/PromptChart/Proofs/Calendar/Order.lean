import Mathlib.Algebra.Order.Ring.Nat
import Mathlib.Data.String.Basic
import PromptChart.Proofs.Calendar.Date
import PromptChart.Validation.Date

namespace PromptChart

namespace Numeral

variable {xs ys : List Char}

theorem isDigit_iff {c : Char} : isDigit c = true ↔ 48 ≤ c.toNat ∧ c.toNat ≤ 57 := by
  rw [isDigit, Bool.and_eq_true, decide_eq_true_eq, decide_eq_true_eq]
  exact Iff.rfl

theorem natural_cons (x : Char) (xs : List Char) :
    natural (x :: xs) = 10 ^ xs.length * (x.toNat - 48) + natural xs := by
  rw [natural, Nat.ofDigitChars_cons, Nat.ofDigitChars_eq_ofDigitChars_zero, Nat.mul_zero,
    Nat.zero_add]
  rfl

theorem natural_lt (h : ∀ x ∈ xs, isDigit x = true) : natural xs < 10 ^ xs.length := by
  induction xs with
  | nil => exact Nat.one_pos
  | cons x xs ih =>
    have hx := isDigit_iff.1 (h x (.head xs))
    have hxs := ih fun y hy => h y (.tail x hy)
    have hlead : 10 ^ xs.length * (x.toNat - 48) ≤ 10 ^ xs.length * 9 :=
      Nat.mul_le_mul_left _ (by omega)
    rw [natural_cons, List.length_cons, Nat.pow_succ]
    omega

theorem place_lt_iff {w a b m n : Nat} (hm : m < w) (hn : n < w) :
    w * a + m < w * b + n ↔ a < b ∨ a = b ∧ m < n := by
  have hle {a b : Nat} (h : a < b) : w * a + w ≤ w * b := by
    rw [← Nat.mul_succ]
    exact Nat.mul_le_mul_left w h
  rcases Nat.lt_trichotomy a b with h | rfl | h
  · have hab := hle h
    omega
  · omega
  · have hba := hle h
    omega

theorem lt_iff_natural_lt (hlength : xs.length = ys.length) (hxs : ∀ x ∈ xs, isDigit x = true)
    (hys : ∀ y ∈ ys, isDigit y = true) : xs < ys ↔ natural xs < natural ys := by
  induction xs generalizing ys with
  | nil =>
    obtain rfl : ys = [] := List.length_eq_zero_iff.1 hlength.symm
    simp
  | cons x xs ih =>
    cases ys with
    | nil => cases hlength
    | cons y ys =>
      have hlength := Nat.succ.inj hlength
      have hx := isDigit_iff.1 (hxs x (.head xs))
      have hy := isDigit_iff.1 (hys y (.head ys))
      have hxs' : ∀ x' ∈ xs, isDigit x' = true := fun x' hx' => hxs x' (.tail x hx')
      have hys' : ∀ y' ∈ ys, isDigit y' = true := fun y' hy' => hys y' (.tail y hy')
      have hbelow := natural_lt hxs'
      have hbelow' := natural_lt hys'
      rw [← hlength] at hbelow'
      have hchar : x = y ↔ x.toNat - 48 = y.toNat - 48 := by
        rw [← Char.toNat_inj]
        omega
      have hless : x < y ↔ x.toNat - 48 < y.toNat - 48 := by
        change x.toNat < y.toNat ↔ _
        omega
      rw [List.cons_lt_cons_iff, ih hlength hxs' hys', natural_cons, natural_cons, ← hlength,
        place_lt_iff hbelow hbelow', hchar, hless]

end Numeral

theorem append_lt_append_iff {xs xs' ys ys' : List Char} (h : xs.length = xs'.length) :
    xs ++ ys < xs' ++ ys' ↔ xs < xs' ∨ xs = xs' ∧ ys < ys' := by
  induction xs generalizing xs' with
  | nil =>
    obtain rfl : xs' = [] := List.length_eq_zero_iff.1 h.symm
    simp
  | cons x xs ih =>
    cases xs' with
    | nil => cases h
    | cons x' xs' =>
      rw [List.cons_append, List.cons_append, List.cons_lt_cons_iff, List.cons_lt_cons_iff,
        ih (Nat.succ.inj h), List.cons.injEq]
      tauto

namespace Date

open Numeral (natural)

variable {width m n : Nat}

theorem length_padded (hwidth : 0 < width) (h : n < 10 ^ width) :
    (padded width n).length = width := by
  have hdigits : (Nat.toDigits 10 n).length ≤ width :=
    (Nat.length_toDigits_le_iff (by decide) hwidth).2 h
  rw [padded, List.length_append, List.length_replicate, Decimal.numeral]
  exact Nat.sub_add_cancel hdigits

theorem natural_padded (width n : Nat) : natural (padded width n) = n := by
  rw [padded, natural, Nat.ofDigitChars_append, Nat.ofDigitChars_replicate_zero, Nat.mul_zero,
    Decimal.numeral, Nat.ofDigitChars_ten_toDigits]

theorem padded_lt_iff (hwidth : 0 < width) (hm : m < 10 ^ width) (hn : n < 10 ^ width) :
    padded width m < padded width n ↔ m < n := by
  have hlength := (length_padded hwidth hm).trans (length_padded hwidth hn).symm
  rw [Numeral.lt_iff_natural_lt hlength (fun _ => isDigit_of_mem_padded)
    (fun _ => isDigit_of_mem_padded), natural_padded, natural_padded]

theorem padded_inj : padded width m = padded width n ↔ m = n := by
  constructor
  · intro h
    have hnatural := congrArg natural h
    rwa [natural_padded, natural_padded] at hnatural
  · rintro rfl
    rfl

theorem day_lt (d : Date) : d.day < 10 ^ 2 := by
  have hdays : daysInMonth d.year d.month ≤ 31 := by
    unfold daysInMonth
    split
    · split <;> omega
    · split <;> omega
  exact Nat.lt_of_le_of_lt d.day_le (Nat.lt_of_le_of_lt hdays (by decide))

theorem month_lt (d : Date) : d.month < 10 ^ 2 := Nat.lt_of_le_of_lt d.month_le (by decide)

theorem year_lt (d : Date) : d.year < 10 ^ 4 := Nat.lt_of_le_of_lt d.year_le (by decide)

theorem toList_text (d : Date) :
    d.text.toList = padded 4 d.year ++
      ('-' :: (padded 2 d.month ++ ('-' :: padded 2 d.day))) := by
  rw [text, String.toList_ofList, List.append_assoc, List.cons_append]

theorem text_le_text_iff (a b : Date) : a.text ≤ b.text ↔ a.le b = true := by
  have hyear : (padded 4 b.year).length = (padded 4 a.year).length :=
    (length_padded (by decide) b.year_lt).trans (length_padded (by decide) a.year_lt).symm
  have hmonth : (padded 2 b.month).length = (padded 2 a.month).length :=
    (length_padded (by decide) b.month_lt).trans (length_padded (by decide) a.month_lt).symm
  have hless : b.text < a.text ↔ b.year < a.year ∨ b.year = a.year ∧
      (b.month < a.month ∨ b.month = a.month ∧ b.day < a.day) := by
    rw [String.lt_iff_toList_lt, toList_text, toList_text, append_lt_append_iff hyear,
      List.cons_lt_cons_self, append_lt_append_iff hmonth, List.cons_lt_cons_self,
      padded_lt_iff (by decide) b.year_lt a.year_lt,
      padded_lt_iff (by decide) b.month_lt a.month_lt,
      padded_lt_iff (by decide) b.day_lt a.day_lt, padded_inj, padded_inj]
  rw [← not_lt, hless]
  simp only [le, Bool.or_eq_true, Bool.and_eq_true, decide_eq_true_eq]
  omega

theorem of?_self (d : Date) : of? d.year d.month d.day = some d :=
  dif_pos ⟨d.year_pos, d.year_le, d.month_pos, d.month_le, d.day_pos, d.day_le⟩

theorem date?_text (d : Date) : Moment.date? d.text.toList = some (d, []) := by
  have hdigits :
      (padded 4 d.year ++ padded 2 d.month ++ padded 2 d.day).all Numeral.isDigit = true := by
    rw [List.all_eq_true]
    intro c hc
    obtain (hc | hc) | hc : (c ∈ padded 4 d.year ∨ c ∈ padded 2 d.month) ∨
      c ∈ padded 2 d.day := by
      simpa only [List.mem_append] using hc
    · exact isDigit_of_mem_padded hc
    · exact isDigit_of_mem_padded hc
    · exact isDigit_of_mem_padded hc
  have hyear := natural_padded 4 d.year
  have hmonth := natural_padded 2 d.month
  have hday := natural_padded 2 d.day
  rw [toList_text]
  obtain ⟨y₁, y₂, y₃, y₄, hy⟩ := List.length_eq_four.1 (length_padded (by decide) d.year_lt)
  obtain ⟨m₁, m₂, hm⟩ := List.length_eq_two.1 (length_padded (by decide) d.month_lt)
  obtain ⟨d₁, d₂, hd⟩ := List.length_eq_two.1 (length_padded (by decide) d.day_lt)
  rw [hy, hm, hd] at hdigits
  rw [hy] at hyear ⊢
  rw [hm] at hmonth ⊢
  rw [hd] at hday ⊢
  simp only [List.cons_append, List.nil_append] at hdigits ⊢
  rw [Moment.date?, if_pos hdigits, hyear, hmonth, hday, of?_self, Option.map_some]

end Date

end PromptChart
