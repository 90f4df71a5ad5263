import PromptChart.Catalog.Resolve
import PromptChart.Proofs.Text.Blank

namespace PromptChart.Text

variable {a b c : Char} {before after cs : List Char}

theorem forall_ascii {p : Char → Prop} (h : ∀ n < 128, p (Char.ofNat n))
    (hc : c.toNat < 128) : p c := by
  have hcode := h c.toNat hc
  rwa [Char.ofNat_toNat] at hcode

/-- A sign of ASCII that has no other lower-case form. -/
def IsPlain (c : Char) : Prop := c.toNat < 128 ∧ ¬ ('A' ≤ c ∧ c ≤ 'Z')

instance (c : Char) : Decidable (IsPlain c) := inferInstanceAs (Decidable (_ ∧ _))

def isSmall (c : Char) : Bool := 'a' ≤ c && c ≤ 'z'

/-- A small letter of the alphabet, a digit or an underscore. -/
def isNameChar (c : Char) : Bool := isSmall c || ('0' ≤ c && c ≤ '9') || c = '_'

theorem isNameChar_of_isSmall (h : isSmall c = true) : isNameChar c = true := by
  rw [isNameChar, h]
  rfl

theorem toNat_lt_of_isNameChar (h : isNameChar c = true) : c.toNat < 128 := by
  simp only [isNameChar, isSmall, Bool.or_eq_true, Bool.and_eq_true, decide_eq_true_eq] at h
  rcases h with (⟨-, h⟩ | ⟨-, h⟩) | rfl
  · exact Nat.lt_of_le_of_lt (show c.toNat ≤ 'z'.toNat from h) (by decide)
  · exact Nat.lt_of_le_of_lt (show c.toNat ≤ '9'.toNat from h) (by decide)
  · decide

theorem isPlain_of_isNameChar (h : isNameChar c = true) : IsPlain c :=
  forall_ascii (p := fun c => isNameChar c = true → IsPlain c) (by decide +kernel)
    (toNat_lt_of_isNameChar h) h

theorem isWord_of_isNameChar (h : isNameChar c = true) : isWord c = true :=
  forall_ascii (p := fun c => isNameChar c = true → isWord c = true) (by decide +kernel)
    (toNat_lt_of_isNameChar h) h

theorem lowerAt_of_isPlain (h : IsPlain c) : lowerAt before c after = [c] := by
  obtain ⟨hsigma, hdotted, hlower⟩ := forall_ascii
    (p := fun c => IsPlain c → c ≠ 'Σ' ∧ c ≠ 'İ' ∧ lowerChar c = c) (by decide +kernel) h.1 h
  rw [lowerAt, if_neg hsigma, if_neg hdotted, hlower]

theorem lowerFrom_of_isPlain (h : ∀ c ∈ cs, IsPlain c ∨ isBlank c = true) :
    lowerFrom before cs = cs := by
  induction cs generalizing before with
  | nil => rfl
  | cons c after ih =>
    obtain ⟨hc, hafter⟩ := List.forall_mem_cons.1 h
    have hhere : lowerAt before c after = [c] := hc.elim lowerAt_of_isPlain lowerAt_of_isBlank
    rw [lowerFrom, hhere, ih hafter]
    rfl

theorem sameLetter_iff_of_isSmall (ha : isSmall a = true) (hb : isSmall b = true) :
    sameLetter a b = true ↔ a = b := by
  have htable :
      ∀ m < 128, ∀ n < 128, isSmall (Char.ofNat m) = true → isSmall (Char.ofNat n) = true →
      (sameLetter (Char.ofNat m) (Char.ofNat n) = true ↔ Char.ofNat m = Char.ofNat n) := by
    decide +kernel
  have hbound {c : Char} (h : isSmall c = true) : c.toNat < 128 :=
    toNat_lt_of_isNameChar (isNameChar_of_isSmall h)
  have hpair := htable a.toNat (hbound ha) b.toNat (hbound hb)
  rw [Char.ofNat_toNat, Char.ofNat_toNat] at hpair
  exact hpair ha hb

theorem cleanToken_of_isSmall {token : String} (h : ∀ c ∈ token.toList, isSmall c = true) :
    cleanToken token = token := by
  have hplain : ∀ c ∈ token.toList, IsPlain c ∨ isBlank c = true :=
    fun c hc => .inl (isPlain_of_isNameChar (isNameChar_of_isSmall (h c hc)))
  have hfilter : token.toList.filter (fun c => 'a' ≤ c && c ≤ 'z') = token.toList :=
    List.filter_eq_self.2 h
  rw [cleanToken, lower, String.toList_ofList, lowerFrom_of_isPlain hplain, hfilter,
    String.ofList_toList]

end PromptChart.Text
