import PromptChart.Calendar.Date
import PromptChart.Decimal.Numeral
import PromptChart.Query.Scope

namespace PromptChart

namespace Numeral

variable {c : Char} {cs : List Char}

def isDateChar (c : Char) : Bool := isDigit c || c == '-'

theorem toNat_of_isDateChar (h : isDateChar c = true) : 45 ≤ c.toNat ∧ c.toNat ≤ 57 := by
  simp only [isDateChar, isDigit, Bool.or_eq_true, Bool.and_eq_true, decide_eq_true_eq,
    beq_iff_eq] at h
  obtain ⟨hlow, hhigh⟩ | rfl := h
  · have hlow : 48 ≤ c.toNat := hlow
    have hhigh : c.toNat ≤ 57 := hhigh
    omega
  · decide

theorem dropWhile_of_forall_not {p : Char → Bool} (h : ∀ c ∈ cs, p c = false) :
    cs.dropWhile p = cs := by
  cases cs with
  | nil => rfl
  | cons c rest =>
    rw [List.dropWhile_cons_of_neg (by rw [h c (.head rest)]; exact Bool.false_ne_true)]

theorem trimBy_of_forall_not {p : Char → Bool} (h : ∀ c ∈ cs, p c = false) :
    Text.trimBy p cs = cs := by
  have hreverse : ∀ c ∈ cs.reverse, p c = false := fun c hc => h c (List.mem_reverse.1 hc)
  rw [Text.trimBy, dropWhile_of_forall_not h, dropWhile_of_forall_not hreverse,
    List.reverse_reverse]

theorem simplify_of_isDateChar (h : isDateChar c = true) : simplify c = c := by
  have hc := toNat_of_isDateChar h
  rw [simplify, if_pos (by omega)]

theorem isPadding_of_isDateChar (h : isDateChar c = true) : isPadding c = false := by
  have hc := toNat_of_isDateChar h
  have hspace : c ≠ ' ' := by
    rintro rfl
    exact absurd hc (by decide)
  have hcontrol : ¬ c ≤ '\r' := by
    intro hle
    have hle : c.toNat ≤ 13 := hle
    omega
  simp only [isPadding, hspace, decide_false, Bool.false_or, hcontrol, Bool.and_false]

theorem joined?_of_forall_ne (h : ∀ c ∈ cs, c ≠ '_') (afterDigit : Bool) :
    joined? afterDigit cs = some cs := by
  induction cs generalizing afterDigit with
  | nil => rfl
  | cons c rest ih =>
    rw [joined?, if_neg (h c (.head rest)), ih (fun d hd => h d (.tail c hd)), Option.map_some]

theorem free?_of_isDateChar (h : ∀ c ∈ cs, isDateChar c = true) :
    free? (String.ofList cs) = number? cs := by
  have hsimple : cs.map simplify = cs :=
    (List.map_congr_left fun c hc => simplify_of_isDateChar (h c hc)).trans (List.map_id cs)
  have hjoined : ∀ c ∈ cs, c ≠ '_' := by
    rintro c hc rfl
    exact absurd (h '_' hc) (by decide)
  rw [free?, String.toList_ofList, hsimple,
    trimBy_of_forall_not (fun c hc => isPadding_of_isDateChar (h c hc)),
    joined?_of_forall_ne hjoined, Option.bind_some]

theorem number?_of_hyphen {digits rest : List Char} (hdigits : ∀ c ∈ digits, isDigit c = true)
    (hne : digits ≠ []) : number? (digits ++ '-' :: rest) = none := by
  obtain ⟨d, ds, rfl⟩ := List.exists_cons_of_ne_nil hne
  have hd : isDateChar d = true := by rw [isDateChar, hdigits d (.head ds), Bool.true_or]
  have hbounds := toNat_of_isDateChar hd
  have hsign : sign (d :: ds ++ '-' :: rest) = (false, d :: ds ++ '-' :: rest) := by
    have hminus : d ≠ '-' := by
      rintro rfl
      exact absurd (hdigits '-' (.head ds)) (by decide)
    have hplus : d ≠ '+' := by
      rintro rfl
      exact absurd hbounds (by decide)
    rw [List.cons_append]
    unfold sign
    split
    next he => exact absurd (List.cons.inj he).1 hminus
    next he => exact absurd (List.cons.inj he).1 hplus
    next => rfl
  have hword {s : String} (hs : '-' ∉ s.toList) :
      String.ofList ((d :: ds ++ '-' :: rest).map Char.toLower) ≠ s := by
    rintro rfl
    apply hs
    rw [String.toList_ofList, List.map_append, List.map_cons]
    exact List.mem_append_right _ (.head _)
  have hwhole : (d :: ds ++ '-' :: rest).takeWhile isDigit = d :: ds := by
    rw [List.takeWhile_append_of_pos hdigits, List.takeWhile_cons_of_neg (by decide),
      List.append_nil]
  have hafter : (d :: ds ++ '-' :: rest).dropWhile isDigit = '-' :: rest := by
    rw [List.dropWhile_append_of_pos hdigits, List.dropWhile_cons_of_neg (by decide)]
  have hdecimal : decimal? (d :: ds ++ '-' :: rest) = none := by
    simp only [decimal?, hwhole, hafter]
    rfl
  simp only [number?, hsign, hword (s := "inf") (by decide),
    hword (s := "infinity") (by decide), hword (s := "nan") (by decide), or_self, ↓reduceIte,
    hdecimal, Option.map_none]

end Numeral

namespace Date

theorem isDigit_of_mem_padded {width n : Nat} {c : Char} (h : c ∈ padded width n) :
    Numeral.isDigit c = true := by
  obtain hc | hc := List.mem_append.1 h
  · rw [List.eq_of_mem_replicate hc]
    decide
  · have hdigit := Nat.isDigit_of_mem_toDigits (by decide) (by decide) hc
    simp only [Char.isDigit, Bool.and_eq_true, decide_eq_true_eq] at hdigit
    simp only [Numeral.isDigit, Bool.and_eq_true, decide_eq_true_eq]
    exact hdigit

theorem padded_ne_nil (width n : Nat) : padded width n ≠ [] := by
  intro h
  exact Nat.toDigits_ne_nil (List.append_eq_nil_iff.1 h).2

theorem free?_text (d : Date) : Numeral.free? d.text = none := by
  have hdigit {width n : Nat} {c : Char} (h : c ∈ padded width n) :
      Numeral.isDateChar c = true := by
    rw [Numeral.isDateChar, isDigit_of_mem_padded h, Bool.true_or]
  rw [text, List.append_assoc, List.cons_append, Numeral.free?_of_isDateChar]
  · exact Numeral.number?_of_hyphen (fun c hc => isDigit_of_mem_padded hc)
      (padded_ne_nil 4 d.year)
  · intro c hc
    simp only [List.mem_append, List.mem_cons] at hc
    obtain hc | rfl | hc | rfl | hc := hc
    · exact hdigit hc
    · decide
    · exact hdigit hc
    · decide
    · exact hdigit hc

end Date

def DateRange.wholeYear (year : Nat) (year_pos : 0 < year)
    (year_le : year ≤ 9999) : DateRange where
  first := ⟨year, 1, 1, year_pos,
    year_le, by decide, by decide, by decide, by simp [daysInMonth]⟩
  last := ⟨year, 12, 31, year_pos,
    year_le, by decide, by decide, by decide, by simp [daysInMonth]⟩
  first_le_last := by simp [Date.le]

end PromptChart
