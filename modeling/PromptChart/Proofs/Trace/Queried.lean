import PromptChart.Proofs.Json.Escaped
import PromptChart.Proofs.Trace.Clause

namespace PromptChart.Trace

open Json (escapeSigns escaped_cases isVerbatim writtenIn writtenIn_append writtenIn_cons)
open Regex (Match Scans Shows)

def queryStep (sql : String) : Json := .object [("input", .object [("sql", .text sql)])]

/-- A match of a clause of which everything before the quote is written as it is. -/
def isKept (m : Match) : Bool := (m.text.toList.takeWhile (· ≠ '\'')).all isVerbatim

/-- The terms of the clauses that stay when JSON writes a text, as it writes them. -/
def lookedUpWritten (text : String) : List String :=
  (((lookUp.findAll text).filter isKept).map fun m =>
    Text.stripped (String.ofList (writtenIn (m.group 1).toList))).filter (!·.isEmpty)

theorem toList_stepText_queryStep (sql : String) :
    (stepText (queryStep sql)).toList = "\x7b\"sql\": \"".toList ++
      (writtenIn sql.toList ++ "\"\x7d".toList) := by
  have hwrite : stepText (queryStep sql) = Json.write (.object [("sql", .text sql)]) := rfl
  have hkey : Json.writeText "sql" = "\"sql\"".toList := by decide
  rw [hwrite, Json.write, String.toList_ofList, Json.writeChars, Json.writeMembers,
    Json.writeChars, hkey, Json.writeText]
  simp [writtenIn]

namespace Clause

variable {k l : Clause} {ks : List Clause} {a : Char} {cs x : List Char}

def isKept (k : Clause) : Bool := k.head.all isVerbatim

theorem isFaithful_of_isBreak (h : isBreak a = true) : Json.IsFaithful a := by
  simp only [isBreak, Bool.or_eq_true, beq_iff_eq] at h
  rcases h with rfl | rfl <;> decide

theorem unbroken_writtenIn_iff :
    (∀ a ∈ writtenIn cs, isBreak a = false) ↔ ∀ a ∈ cs, isBreak a = false := by
  have hmem {a : Char} (ha : isBreak a = true) : a ∈ writtenIn cs ↔ a ∈ cs :=
    (isFaithful_of_isBreak ha).mem_writtenIn_iff
  constructor
  · intro h a hin
    by_contra hbreak
    rw [Bool.not_eq_false] at hbreak
    exact absurd (h a ((hmem hbreak).2 hin)) (ne_false_of_eq_true hbreak)
  · intro h a hin
    by_contra hbreak
    rw [Bool.not_eq_false] at hbreak
    exact absurd (h a ((hmem hbreak).1 hin)) (ne_false_of_eq_true hbreak)

def written (k : Clause) : Clause :=
  { k with
    body := writtenIn k.body
    ne_nil := mt Json.writtenIn_eq_nil_iff.1 k.ne_nil
    unbroken := unbroken_writtenIn_iff.2 k.unbroken }

theorem writtenIn_text (h : k.isKept = true) : writtenIn k.text = k.written.text := by
  have hhead : writtenIn k.head = k.head := Json.writtenIn_of_isVerbatim (List.all_eq_true.1 h)
  have hopen : writtenIn ['\'', '%'] = ['\'', '%'] := by decide
  have hclose : writtenIn ['%', '\''] = ['%', '\''] := by decide
  have htext : k.text = k.head ++ (['\'', '%'] ++ (k.body ++ ['%', '\''])) := rfl
  rw [htext, writtenIn_append, writtenIn_append, writtenIn_append, hhead, hopen, hclose]
  rfl

theorem exists_of_prefix_writtenIn (h : k.text <+: writtenIn cs) :
    ∃ l : Clause, l.text <+: cs ∧ l.isKept = true := by
  obtain ⟨v, hv⟩ := h
  have hfront : '\\' ∉ k.head ++ ['\'', '%'] := by
    rw [List.mem_append]
    rintro (hhead | hends)
    · exact not_mem_head (by decide) k hhead
    · exact absurd hends (by decide)
  have htext : writtenIn cs = (k.head ++ ['\'', '%']) ++ (k.body ++ '%' :: '\'' :: v) := by
    rw [← hv, text_append]
    simp
  obtain ⟨behind, rfl, hbehind, hverbatim⟩ := Json.exists_of_writtenIn_eq hfront htext
  obtain ⟨inner, after, rfl, hinner, hafter⟩ :=
    Json.exists_of_writtenIn_eq_cons (fun _ => isFaithful_of_isBreak) k.unbroken rfl
      hbehind.symm
  obtain ⟨rest, rfl, -⟩ := Json.exists_of_writtenIn_eq (x := ['\'']) (by decide) hafter.symm
  refine ⟨⟨k.word, k.gap, inner, k.keyword, k.isGap, ?_, ?_⟩, ⟨rest, ?_⟩, ?_⟩
  · rintro rfl
    exact k.ne_nil hinner
  · exact unbroken_writtenIn_iff.1 (hinner ▸ k.unbroken)
  · simp [text, head]
  · exact List.all_eq_true.2 (List.forall_mem_append.1 hverbatim).1

theorem scans_writtenIn_cons (hnone : ∀ l : Clause, l.isKept = true → ¬ l.text <+: a :: cs)
    (h : Scans text (writtenIn cs) ks) : Scans text (writtenIn (a :: cs)) ks := by
  have hsigns : ∀ d ∈ '\\' :: escapeSigns, Text.sameLetter 'I' d = false := by decide
  rcases escaped_cases a with ha | ⟨signs, ha, -, hmem⟩
  · have hwritten : writtenIn (a :: cs) = a :: writtenIn cs := by
      rw [writtenIn_cons, ha]
      rfl
    rw [hwritten]
    refine .skip (fun k hk => ?_) h
    obtain ⟨l, hl, hkept⟩ := exists_of_prefix_writtenIn (hwritten ▸ hk)
    exact hnone l hkept hl
  · rw [writtenIn_cons, ha]
    refine scans_append (List.forall_mem_cons.2 ⟨hsigns _ (.head _), fun d hd => ?_⟩) h
    exact hsigns d (.tail _ (hmem d hd))

theorem scans_writtenIn_append
    (hnone : ∀ y, y ≠ [] → y <:+ x → ∀ l : Clause, l.isKept = true → ¬ l.text <+: y ++ cs)
    (h : Scans text (writtenIn cs) ks) : Scans text (writtenIn (x ++ cs)) ks := by
  induction x with
  | nil => exact h
  | cons a x ih =>
    refine scans_writtenIn_cons (hnone (a :: x) (List.cons_ne_nil _ _) List.suffix_rfl)
      (ih fun y hne hy => ?_)
    exact hnone y hne (hy.trans (List.suffix_cons a x))

theorem scans_writtenIn (h : Scans text cs ks) :
    Scans text (writtenIn cs) ((ks.filter isKept).map written) := by
  induction h with
  | nil => exact .nil
  | skip hnone _ ih => exact scans_writtenIn_cons (fun l _ => hnone l) ih
  | @piece k cs ks _ ih =>
    cases hkept : k.isKept with
    | true =>
      rw [List.filter_cons_of_pos hkept, List.map_cons, writtenIn_append, writtenIn_text hkept]
      exact .piece _ ih
    | false =>
      rw [List.filter_cons_of_neg (ne_true_of_eq_false hkept)]
      refine scans_writtenIn_append (fun y hne ⟨x, hx⟩ l hl => ?_) ih
      cases x with
      | nil =>
        obtain rfl : y = k.text := hx
        rintro ⟨v, hv⟩
        obtain rfl := eq_of_append hv
        exact absurd hl (ne_true_of_eq_false hkept)
      | cons a x => exact not_prefix_inside hx.symm (List.cons_ne_nil a x) hne

end Clause

theorem isKept_eq {m : Match} {k : Clause} (h : Shows Clause.text Clause.body 1 m k) :
    isKept m = k.isKept := by
  have hhead : k.text.takeWhile (· ≠ '\'') = k.head := by
    rw [Clause.text, List.takeWhile_append_of_pos, List.takeWhile_cons_of_neg (by decide),
      List.append_nil]
    intro a ha
    rw [decide_eq_true_eq]
    rintro rfl
    exact absurd (k.unbroken_head _ ha) (by decide)
  rw [isKept, h.text, String.toList_ofList, hhead]
  rfl

theorem lookedUpWritten_of_scans {text : String} {ks : List Clause}
    (h : Scans Clause.text text.toList ks) :
    lookedUpWritten text =
      (((ks.filter Clause.isKept).map Clause.written).map fun k =>
        Text.stripped (String.ofList k.body)).filter (!·.isEmpty) := by
  have hall := finds_lookUp.findAll h
  rw [lookedUpWritten]
  clear h
  congr 1
  generalize lookUp.findAll text = ms at hall
  induction hall with
  | nil => rfl
  | @cons m k ms ks hshows _ ih =>
    rw [List.filter_cons, List.filter_cons, isKept_eq hshows]
    cases k.isKept with
    | true =>
      simp only [if_true, List.map_cons]
      rw [ih, hshows.group, String.toList_ofList]
      rfl
    | false => exact ih

/-- A step that asks a query looks up what is left of the query's terms once it is written. -/
theorem lookedUp_queryStep (sql : String) :
    lookedUp (stepText (queryStep sql)) = lookedUpWritten sql := by
  obtain ⟨ks, hks⟩ := Regex.exists_scans Clause.text_ne_nil sql.toList
  have hscan :
      Scans Clause.text (stepText (queryStep sql)).toList
        ((ks.filter Clause.isKept).map Clause.written) := by
    rw [toList_stepText_queryStep]
    exact Clause.scans_append (by decide)
      (Clause.scans_append_right (by decide) (by decide) (Clause.scans_writtenIn hks))
  rw [lookedUp_of_scans hscan, lookedUpWritten_of_scans hks]

end PromptChart.Trace
