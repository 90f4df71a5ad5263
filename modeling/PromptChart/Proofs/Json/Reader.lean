import PromptChart.Json.Reader
import PromptChart.Proofs.Json.Escaped
import PromptChart.Proofs.Text.Blank

namespace PromptChart.Json

open Text (isBlank)

namespace Reader

variable {c : Char} {cs : List Char}

def openers : List Char := "\"[\x7b-0123456789ntfNI".toList

theorem word?_of_not_mem (h : c ∉ openers) (rest : List Char) : word? (c :: rest) = none := by
  have hwords : ∀ word ∈ words, (word.1.head?.any fun d => decide (d ∈ openers)) = true := by
    decide
  rw [word?, List.findSome?_eq_none_iff]
  rintro ⟨word, j⟩ hword
  obtain ⟨d, hhead, hd⟩ := (Option.any_eq_true _ _).1 (hwords _ hword)
  obtain ⟨ds, rfl⟩ := List.head?_eq_some_iff.1 hhead
  have hd : d ∈ openers := of_decide_eq_true hd
  have hdiffers : (d == c) = false := by
    rw [beq_eq_false_iff_ne]
    rintro rfl
    exact h hd
  simp only [List.isPrefixOf, hdiffers, Bool.false_and, Bool.false_eq_true, ↓reduceIte]

theorem mem_of_isDigit (h : isDigit c = true) : c ∈ "0123456789".toList := by
  have hdigits : ∀ n < 10, Char.ofNat (48 + n) ∈ "0123456789".toList := by decide
  rw [isDigit, Bool.and_eq_true, decide_eq_true_eq, decide_eq_true_eq] at h
  have hlow : 48 ≤ c.toNat := h.1
  have hhigh : c.toNat ≤ 57 := h.2
  have hmem := hdigits (c.toNat - 48) (by omega)
  rwa [Nat.add_sub_cancel' hlow, Char.ofNat_toNat] at hmem

theorem isDigit_of_not_mem (h : c ∉ openers) : isDigit c = false := by
  have hdigits : ∀ c ∈ "0123456789".toList, c ∈ openers := by decide
  exact Bool.eq_false_iff.2 fun hdigit => h (hdigits c (mem_of_isDigit hdigit))

theorem number?_of_not_mem (h : c ∉ openers) (rest : List Char) :
    number? (c :: rest) = none := by
  have hminus : c ≠ '-' := by
    rintro rfl
    exact h (by decide)
  have hzero : c ≠ '0' := by
    rintro rfl
    exact h (by decide)
  have hwhole : whole? (c :: rest) = none := by
    unfold whole?
    split
    next he => exact absurd (List.cons.inj he).1 hzero
    next => rw [List.head?_cons, Option.any_some, isDigit_of_not_mem h,
      if_neg Bool.false_ne_true]
  unfold number?
  split
  next negative body he =>
    split at he
    next hcons => exact absurd (List.cons.inj hcons).1 hminus
    next =>
      cases he
      rw [hwhole, Option.map_none]

theorem value_of_not_mem (fuel : Nat) (h : ∀ c ∈ cs.head?, c ∉ openers) :
    value (fuel + 1) cs = .error (.expectingValue, cs) := by
  cases cs with
  | nil => rfl
  | cons c rest =>
    have hc := h c rfl
    have hopens {d : Char} {ds : List Char} (hd : d ∈ openers) : c :: rest ≠ d :: ds := by
      rintro ⟨⟩
      exact hc hd
    rw [value, word?_of_not_mem hc, number?_of_not_mem hc]
    · rfl
    · exact fun ds => hopens (by decide)
    · exact fun ds => hopens (by decide)
    · exact fun ds => hopens (by decide)

end Reader

theorem read_of_isBlank {s : String} (h : s.toList.all isBlank = true) :
    ∃ e, read s = .error e := by
  have hclosed {c : Char} (hc : isBlank c = true) : c ∉ Reader.openers ∧ c ≠ '\ufeff' :=
    Text.forall_isBlank (p := fun c => c ∉ Reader.openers ∧ c ≠ '\ufeff') (by decide) hc
  have hblank : ∀ c ∈ s.toList, isBlank c = true := List.all_eq_true.1 h
  have hmark : s.toList.head? ≠ some '\ufeff' := by
    intro hhead
    exact (hclosed (hblank _ (List.mem_of_mem_head? hhead))).2 rfl
  have hvalue := Reader.value_of_not_mem (2 * s.toList.length + 1)
    fun c (hc : c ∈ (Reader.skip s.toList).head?) =>
    (hclosed (hblank c ((List.dropWhile_sublist _).subset (List.mem_of_mem_head? hc)))).1
  simp only [read, if_neg hmark, hvalue]
  exact ⟨_, rfl⟩

open Reader (codes joinPairs hex4? hexDigit? isHigh isLow)
open Text (hex)

/-- The codes of a character: one, or the two halves of a pair. -/
def codesOf (c : Char) : List Nat :=
  if c.toNat < 0x10000 then [c.toNat]
  else [0xd800 + (c.toNat - 0x10000) / 0x400, 0xdc00 + (c.toNat - 0x10000) % 0x400]

variable {c : Char} {start rest cs : List Char} {n width : Nat}

theorem valid_toNat (c : Char) : c.toNat < 0xd800 ∨ 0xdfff < c.toNat ∧ c.toNat < 0x110000 :=
  c.valid

theorem hex_succ (h : 0 < width) (n : Nat) :
    hex (width + 1) n = hex width (n / 16) ++ [Nat.digitChar (n % 16)] := by
  rw [hex, hex, Nat.toDigits_eq_if (by decide)]
  split
  next hsmall =>
    have hzero : n / 16 = 0 := Nat.div_eq_of_lt hsmall
    have hlength : width - 1 + 1 = width := Nat.sub_add_cancel h
    rw [hzero, Nat.toDigits_zero, Nat.mod_eq_of_lt hsmall]
    simp only [List.length_singleton, Nat.add_sub_cancel]
    rw [← List.replicate_succ', hlength]
  next =>
    simp only [List.length_append, List.length_singleton, Nat.add_sub_add_right,
      List.append_assoc]

theorem hex_four (h : n < 65536) :
    hex 4 n = [Nat.digitChar (n / 4096), Nat.digitChar (n / 256 % 16),
    Nat.digitChar (n / 16 % 16), Nat.digitChar (n % 16)] := by
  have hone : hex 1 (n / 16 / 16 / 16) = [Nat.digitChar (n / 4096)] := by
    have hdigits : n / 16 / 16 / 16 = n / 4096 := by omega
    rw [hdigits, hex, Nat.toDigits_of_lt_base (by omega)]
    rfl
  have htwo : n / 16 / 16 = n / 256 := by omega
  rw [hex_succ (by decide), hex_succ (by decide), hex_succ (by decide), hone, htwo]
  rfl

theorem hexDigit?_digitChar (h : n < 16) : hexDigit? (Nat.digitChar n) = some n := by
  have hall : ∀ n < 16, hexDigit? (Nat.digitChar n) = some n := by decide
  exact hall n h

theorem exists_hex_four (h : n < 65536) :
    ∃ a b c d, hex 4 n = [a, b, c, d] ∧ hex4? a b c d = some n := by
  refine ⟨_, _, _, _, hex_four h, ?_⟩
  have hn : ((n / 4096 * 16 + n / 256 % 16) * 16 + n / 16 % 16) * 16 + n % 16 = n := by omega
  rw [hex4?, hexDigit?_digitChar (by omega), hexDigit?_digitChar (by omega),
    hexDigit?_digitChar (by omega), hexDigit?_digitChar (by omega)]
  exact congrArg some hn

theorem codes_hex (h : n < 65536) (hrest : rest ≠ []) :
    codes start ('\\' :: 'u' :: (hex 4 n ++ rest)) =
      (codes start rest).map fun (ns, rest) => (n :: ns, rest) := by
  obtain ⟨a, b, c, d, hhex, hcode⟩ := exists_hex_four h
  rw [hhex]
  simp only [List.cons_append, List.nil_append, codes, hcode, List.isEmpty_eq_false_iff.2 hrest,
    Bool.false_eq_true, ↓reduceIte]

theorem codes_verbatim (hquote : c ≠ '"') (hslash : c ≠ '\\') (hcontrol : ' ' ≤ c) :
    codes start (c :: rest) =
      (codes start rest).map fun (ns, rest) => (c.toNat :: ns, rest) := by
  have hlow : ¬ c.toNat < 0x20 := Nat.not_lt.2 hcontrol
  rw [codes, if_neg hlow]
  · exact hquote
  · exact fun he _ => hslash he
  · exact fun _ _ _ _ _ he _ => hslash he
  · exact fun _ he _ => hslash he
  · exact fun _ _ he _ => hslash he

theorem codesOf_of_le (h : c ≤ '~') : codesOf c = [c.toNat] := by
  have hle : c.toNat ≤ 126 := h
  rw [codesOf, if_pos (by omega)]

theorem codes_escaped (c : Char) (hrest : rest ≠ []) :
    codes start (escaped c ++ rest) =
      (codes start rest).map fun (ns, rest) => (codesOf c ++ ns, rest) := by
  unfold escaped
  split
  iterate 7 rfl
  next hquote hslash _ _ _ _ _ =>
    split
    next hplain =>
      rw [codesOf_of_le hplain.2]
      exact codes_verbatim hquote hslash hplain.1
    next =>
      split
      next hbasic =>
        rw [codesOf, if_pos hbasic]
        exact codes_hex hbasic hrest
      next hbeyond =>
        have hbound := valid_toNat c
        rw [codesOf, if_neg hbeyond, List.append_assoc, List.cons_append,
          List.cons_append, List.cons_append, List.cons_append]
        rw [codes_hex (by omega) (List.cons_ne_nil _ _), codes_hex (by omega) hrest]
        cases codes start rest <;> rfl

theorem joinPairs_codesOf (c : Char) (ns : List Nat) :
    joinPairs (codesOf c ++ ns) = c :: joinPairs ns := by
  have hvalid := valid_toNat c
  unfold codesOf
  split
  next hbasic =>
    have hhigh : isHigh c.toNat = false := by
      rw [isHigh, Bool.and_eq_false_iff, decide_eq_false_iff_not, decide_eq_false_iff_not]
      omega
    have hlow : isLow c.toNat = false := by
      rw [isLow, Bool.and_eq_false_iff, decide_eq_false_iff_not, decide_eq_false_iff_not]
      omega
    cases ns with
    | nil => simp only [List.singleton_append, joinPairs, hhigh, hlow, Bool.or_self,
      Bool.false_eq_true, ↓reduceIte,
        Char.ofNat_toNat]
    | cons m ms =>
      simp only [List.singleton_append, joinPairs, hhigh, hlow, Bool.or_self, Bool.false_and,
        Bool.false_eq_true, ↓reduceIte, Char.ofNat_toNat]
  next hbeyond =>
    have hhigh : isHigh (0xd800 + (c.toNat - 0x10000) / 0x400) = true := by
      rw [isHigh, Bool.and_eq_true, decide_eq_true_eq, decide_eq_true_eq]
      omega
    have hlow : isLow (0xdc00 + (c.toNat - 0x10000) % 0x400) = true := by
      rw [isLow, Bool.and_eq_true, decide_eq_true_eq, decide_eq_true_eq]
      omega
    have hcode : 0x10000 + (0xd800 + (c.toNat - 0x10000) / 0x400 - 0xd800) * 0x400 +
        (0xdc00 + (c.toNat - 0x10000) % 0x400 - 0xdc00) = c.toNat := by omega
    simp only [List.cons_append, List.nil_append, joinPairs, hhigh, hlow, Bool.and_self,
      ↓reduceIte, hcode, Char.ofNat_toNat]

theorem codes_writtenIn (cs : List Char) :
    codes start (writtenIn cs ++ '"' :: rest) = .ok (cs.flatMap codesOf, rest) := by
  induction cs with
  | nil => rfl
  | cons c cs ih =>
    have hne : writtenIn cs ++ '"' :: rest ≠ [] := List.append_ne_nil_of_right_ne_nil _
      (List.cons_ne_nil _ _)
    rw [writtenIn_cons, List.append_assoc, codes_escaped c hne, ih]
    rfl

theorem joinPairs_flatMap (cs : List Char) : joinPairs (cs.flatMap codesOf) = cs := by
  induction cs with
  | nil => rfl
  | cons c cs ih => rw [List.flatMap_cons, joinPairs_codesOf, ih]

theorem text_writtenIn (s : String) :
    Reader.text start (writtenIn s.toList ++ '"' :: rest) = .ok (s, rest) := by
  simp only [Reader.text, codes_writtenIn, Except.map, joinPairs_flatMap, String.ofList_toList]

end PromptChart.Json
