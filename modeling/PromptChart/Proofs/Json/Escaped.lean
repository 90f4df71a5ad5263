import Mathlib.Data.Nat.Digits.Lemmas
import PromptChart.Json.Writer

namespace PromptChart.Json

open Text (hex)

def isVerbatim (a : Char) : Bool := escaped a = [a]

def escapeSigns : List Char := "\"\\nrtbfu0123456789abcdef".toList

def writtenIn (cs : List Char) : List Char := cs.flatMap escaped

variable {a b : Char} {cs rest u v x y : List Char}

theorem mem_toDigits_sixteen (n : Nat) : ∀ d ∈ Nat.toDigits 16 n, d ∈ escapeSigns := by
  have hdigit : ∀ n < 16, Nat.digitChar n ∈ escapeSigns := by decide
  induction n using Nat.strongRecOn with
  | ind n ih =>
    rw [Nat.toDigits_eq_if (by decide)]
    split
    next hsmall => exact List.forall_mem_singleton.2 (hdigit n hsmall)
    next hlarge =>
      rw [List.forall_mem_append]
      exact ⟨ih (n / 16) (by omega),
        List.forall_mem_singleton.2 (hdigit _ (Nat.mod_lt _ (by decide)))⟩

theorem mem_hex (width n : Nat) : ∀ d ∈ hex width n, d ∈ escapeSigns := by
  rw [hex, List.forall_mem_append]
  refine ⟨fun d hd => ?_, mem_toDigits_sixteen n⟩
  rw [List.eq_of_mem_replicate hd]
  decide

theorem escaped_cases (a : Char) :
    escaped a = [a] ∨
      ∃ signs, escaped a = '\\' :: signs ∧ signs ≠ [] ∧ ∀ d ∈ signs, d ∈ escapeSigns := by
  have hunit (n : Nat) : ∀ d ∈ 'u' :: hex 4 n, d ∈ escapeSigns :=
    List.forall_mem_cons.2 ⟨by decide, mem_hex 4 n⟩
  unfold escaped
  split
  any_goals exact .inr ⟨_, rfl, List.cons_ne_nil _ _, List.forall_mem_singleton.2 (by decide)⟩
  split
  · exact .inl rfl
  · split
    · exact .inr ⟨_, rfl, List.cons_ne_nil _ _, hunit _⟩
    · exact .inr ⟨_, List.cons_append,
        List.append_ne_nil_of_left_ne_nil (List.cons_ne_nil _ _) _,
        List.forall_mem_append.2 ⟨hunit _, List.forall_mem_cons.2 ⟨by decide, hunit _⟩⟩⟩

theorem escaped_of_isVerbatim (h : isVerbatim a = true) : escaped a = [a] := of_decide_eq_true h

theorem writtenIn_cons (a : Char) (cs : List Char) :
    writtenIn (a :: cs) = escaped a ++ writtenIn cs :=
  List.flatMap_cons

theorem writtenIn_append (x y : List Char) : writtenIn (x ++ y) = writtenIn x ++ writtenIn y :=
  List.flatMap_append

theorem escaped_ne_nil (a : Char) : escaped a ≠ [] := by
  rcases escaped_cases a with ha | ⟨signs, ha, -⟩
  · exact ha ▸ List.cons_ne_nil _ _
  · exact ha ▸ List.cons_ne_nil _ _

theorem writtenIn_eq_nil_iff : writtenIn cs = [] ↔ cs = [] := by
  cases cs with
  | nil => exact iff_of_true rfl rfl
  | cons a cs =>
    rw [writtenIn_cons]
    exact iff_of_false (List.append_ne_nil_of_left_ne_nil (escaped_ne_nil a) _)
      (List.cons_ne_nil _ _)

theorem writtenIn_of_isVerbatim (h : ∀ a ∈ cs, isVerbatim a = true) : writtenIn cs = cs := by
  induction cs with
  | nil => rfl
  | cons a cs ih =>
    obtain ⟨ha, hcs⟩ := List.forall_mem_cons.1 h
    rw [writtenIn_cons, escaped_of_isVerbatim ha, ih hcs]
    rfl

theorem exists_of_writtenIn_eq (hx : '\\' ∉ x) (h : writtenIn cs = x ++ rest) :
    ∃ after, cs = x ++ after ∧ rest = writtenIn after ∧ ∀ a ∈ x, isVerbatim a = true := by
  induction x generalizing cs with
  | nil => exact ⟨cs, rfl, h.symm, List.forall_mem_nil _⟩
  | cons b x ih =>
    rw [List.mem_cons, not_or] at hx
    obtain ⟨hb, hx⟩ := hx
    cases cs with
    | nil => cases h
    | cons a cs =>
      rw [writtenIn_cons] at h
      rcases escaped_cases a with ha | ⟨signs, ha, -⟩
      · rw [ha] at h
        obtain ⟨rfl, hrest⟩ := List.cons.inj h
        obtain ⟨after, rfl, hafter, hverbatim⟩ := ih hx hrest
        exact ⟨after, rfl, hafter, List.forall_mem_cons.2 ⟨decide_eq_true ha, hverbatim⟩⟩
      · rw [ha] at h
        exact absurd (List.cons.inj h).1 hb

/-- A sign that is written for itself and stands in no escape. -/
structure IsFaithful (a : Char) : Prop where
  verbatim : isVerbatim a = true
  not_mem : a ∉ escapeSigns

instance (a : Char) : Decidable (IsFaithful a) :=
  decidable_of_iff (isVerbatim a = true ∧ a ∉ escapeSigns)
    ⟨fun h => ⟨h.1, h.2⟩, fun h => ⟨h.1, h.2⟩⟩

theorem IsFaithful.mem_escaped_iff (h : IsFaithful b) : b ∈ escaped a ↔ a = b := by
  constructor
  · intro hmem
    rcases escaped_cases a with ha | ⟨signs, ha, -, hsigns⟩
    · rw [ha] at hmem
      exact (List.mem_singleton.1 hmem).symm
    · rw [ha] at hmem
      rcases List.mem_cons.1 hmem with rfl | hmem
      · exact absurd h.verbatim (by decide)
      · exact absurd (hsigns b hmem) h.not_mem
  · rintro rfl
    rw [escaped_of_isVerbatim h.verbatim]
    exact .head _

theorem IsFaithful.mem_writtenIn_iff (h : IsFaithful b) : b ∈ writtenIn cs ↔ b ∈ cs := by
  rw [writtenIn, List.mem_flatMap]
  simp only [h.mem_escaped_iff, exists_eq_right]

theorem exists_of_writtenIn_eq_cons {p : Char → Bool} (hp : ∀ a, p a = true → IsFaithful a)
    (hx : ∀ a ∈ x, p a = false) (hb : p b = true) (h : writtenIn cs = x ++ b :: rest) :
    ∃ inner after, cs = inner ++ b :: after ∧ x = writtenIn inner ∧ rest = writtenIn after := by
  induction cs generalizing x with
  | nil => exact absurd h.symm (List.append_ne_nil_of_right_ne_nil _ (List.cons_ne_nil _ _))
  | cons a cs ih =>
    rw [writtenIn_cons] at h
    cases ha : p a with
    | true =>
      rw [escaped_of_isVerbatim (hp a ha).verbatim] at h
      cases x with
      | nil =>
        obtain ⟨rfl, hrest⟩ := List.cons.inj h
        exact ⟨[], cs, rfl, rfl, hrest.symm⟩
      | cons c x =>
        obtain ⟨rfl, -⟩ := List.cons.inj h
        exact absurd (hx a (.head _)) (ne_false_of_eq_true ha)
    | false =>
      have hmem : b ∉ escaped a := by
        rw [(hp b hb).mem_escaped_iff]
        rintro rfl
        exact absurd ha (ne_false_of_eq_true hb)
      rcases List.append_eq_append_iff.1 h with ⟨y, rfl, hy⟩ | ⟨y, hy, hrest⟩
      · obtain ⟨inner, after, rfl, rfl, hafter⟩ := ih (List.forall_mem_append.1 hx).2 hy
        exact ⟨a :: inner, after, rfl, (writtenIn_cons _ _).symm, hafter⟩
      · cases y with
        | nil =>
          rw [List.append_nil] at hy
          obtain ⟨inner, after, rfl, hinner, hafter⟩ := ih (List.forall_mem_nil _) hrest.symm
          exact ⟨a :: inner, after, rfl, by rw [writtenIn_cons, ← hinner, List.append_nil, hy],
            hafter⟩
        | cons c y =>
          obtain ⟨rfl, -⟩ := List.cons.inj hrest
          exact absurd (hy ▸ List.mem_append_right x (.head y)) hmem

end PromptChart.Json
