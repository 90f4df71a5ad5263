import Mathlib.Data.List.Nodup
import PromptChart.Proofs.Prompt.Products
import PromptChart.Proofs.Regex.Scans
import PromptChart.Trace.Reader

namespace PromptChart.Trace

open Regex (Cursor Finds Scans)
open Text (distinct)

/-- Some characters between double quotes. -/
structure Quote where
  inner : List Char
  ne_nil : inner ≠ []
  unquoted : ∀ a ∈ inner, a ≠ '"'

def Quote.text (q : Quote) : List Char := '"' :: (q.inner ++ ['"'])

/-- Of the pieces behind the first quote of a text, those that stand between quotes: one that is
not empty and has a quote behind it. The piece behind that one is outside. -/
def betweenQuotes : List (List Char) → List (List Char)
  | inner :: outer :: rest =>
    if inner = [] then betweenQuotes (outer :: rest) else inner :: betweenQuotes rest
  | _ => []

def quotedIn (prompt : String) : List String :=
  (betweenQuotes (Text.splitAt '"' prompt.toList).tail).map String.ofList

example :
    quotedIn "a \"steel drawer\" or \"\" a \"tool box\", 36\" wide" = ["steel drawer", " a ",
      ", 36"] := by
  decide

variable {p q : Quote} {qs : List Quote} {a : Char} {cs u v x : List Char}

theorem Quote.text_append (q : Quote) (cs : List Char) :
    q.text ++ cs = '"' :: (q.inner ++ '"' :: cs) := by
  rw [text, List.cons_append, List.append_assoc]
  rfl

theorem Quote.eq_of_append (h : p.text ++ u = q.text ++ v) : p = q := by
  rw [text_append, text_append] at h
  obtain ⟨hinner, -⟩ := Regex.append_stop_inj (p := (· == '"'))
    (fun a ha => beq_false_of_ne (p.unquoted a ha))
    (fun a ha => beq_false_of_ne (q.unquoted a ha)) rfl rfl (List.cons.inj h).2
  cases p
  cases q
  cases hinner
  rfl

theorem finds_quotedTerm : Finds quotedTerm 1 Quote.text Quote.inner := by
  refine Regex.finds_of_takes [.one (· == '"')] [.one (· == '"')]
    (List.forall_mem_singleton.2 rfl) rfl (List.forall_mem_singleton.2 rfl)
    (fun q => List.cons_ne_nil _ _) (fun _ _ _ _ => Quote.eq_of_append) ?_ ?_
  · intro q c d hgoes
    obtain ⟨c₁, hopen, hgoes⟩ :=
      Cursor.goes_append_iff.1 (show c.Goes (['"'] ++ (q.inner ++ ['"'])) d from hgoes)
    obtain ⟨c₂, hinner, hclose⟩ := Cursor.goes_append_iff.1 hgoes
    refine ⟨c₁, ⟨'"', rfl, hopen⟩, c₂,
      Regex.takes_plus.2 ⟨q.inner, q.ne_nil, fun a ha => ?_, hinner⟩, '"', rfl, hclose⟩
    exact bne_iff_ne.2 (q.unquoted a ha)
  · rintro c c₁ c₂ d ⟨a, ha, hopen⟩ hbody ⟨b, hb, hclose⟩
    obtain ⟨x, hne, hx, hinner⟩ := Regex.takes_plus.1 hbody
    rw [beq_iff_eq.1 ha] at hopen
    rw [beq_iff_eq.1 hb] at hclose
    exact ⟨⟨x, hne, fun a ha => bne_iff_ne.1 (hx a ha)⟩, hopen.trans (hinner.trans hclose),
      hinner⟩

theorem splitAt_ne_nil (a : Char) (cs : List Char) : Text.splitAt a cs ≠ [] := by
  cases cs with
  | nil => exact List.cons_ne_nil _ _
  | cons b rest =>
    rw [Text.splitAt]
    split
    · exact List.cons_ne_nil _ _
    · split <;> exact List.cons_ne_nil _ _

theorem splitAt_self (a : Char) (cs : List Char) :
    Text.splitAt a (a :: cs) = [] :: Text.splitAt a cs := by
  rw [Text.splitAt]
  split
  next hnil => exact absurd hnil (splitAt_ne_nil a cs)
  next hcons => rw [if_pos rfl, hcons]

theorem tail_splitAt_of_ne {b : Char} (h : b ≠ a) (cs : List Char) :
    (Text.splitAt a (b :: cs)).tail = (Text.splitAt a cs).tail := by
  rw [Text.splitAt]
  split
  next hnil => exact absurd hnil (splitAt_ne_nil a cs)
  next hcons => rw [if_neg h, hcons, List.tail_cons, List.tail_cons]

theorem splitAt_append (hx : ∀ b ∈ x, b ≠ a) (cs : List Char) :
    Text.splitAt a (x ++ a :: cs) = x :: Text.splitAt a cs := by
  induction x with
  | nil => exact splitAt_self a cs
  | cons b x ih =>
    obtain ⟨hb, hx⟩ := List.forall_mem_cons.1 hx
    rw [List.cons_append, Text.splitAt, ih hx]
    exact if_neg hb

theorem exists_of_splitAt {rest : List (List Char)} (h : Text.splitAt a cs = x :: y :: rest) :
    (∀ b ∈ x, b ≠ a) ∧ ∃ after, cs = x ++ a :: after := by
  induction cs generalizing x with
  | nil => cases h
  | cons b cs ih =>
    by_cases hb : b = a
    · subst hb
      rw [splitAt_self] at h
      obtain ⟨rfl, -⟩ := List.cons.inj h
      exact ⟨fun _ hmem => absurd hmem List.not_mem_nil, cs, rfl⟩
    · obtain ⟨inner, pieces, hpieces⟩ := List.exists_cons_of_ne_nil (splitAt_ne_nil a cs)
      rw [Text.splitAt, hpieces] at h
      simp only [if_neg hb] at h
      obtain ⟨rfl, rfl⟩ := List.cons.inj h
      obtain ⟨hinner, after, rfl⟩ := ih hpieces
      exact ⟨List.forall_mem_cons.2 ⟨hb, hinner⟩, after, rfl⟩

theorem map_inner_of_scans (h : Scans Quote.text cs qs) :
    qs.map Quote.inner = betweenQuotes (Text.splitAt '"' cs).tail := by
  induction h with
  | nil => rfl
  | @skip a cs qs hnone _ ih =>
    by_cases ha : a = '"'
    · subst ha
      rw [ih, splitAt_self, List.tail_cons]
      cases hpieces : Text.splitAt '"' cs with
      | nil => rfl
      | cons inner pieces =>
        cases pieces with
        | nil => rfl
        | cons outer rest =>
          -- what stands between two quotes would be met, so there is nothing between them
          obtain ⟨hinner, after, rfl⟩ := exists_of_splitAt hpieces
          have hempty : inner = [] := by
            by_contra hne
            exact hnone ⟨inner, hne, hinner⟩ ⟨after, Quote.text_append _ after⟩
          rw [List.tail_cons, betweenQuotes, if_pos hempty]
    · rw [tail_splitAt_of_ne ha, ih]
  | @piece q cs qs _ ih =>
    rw [Quote.text_append, splitAt_self, splitAt_append q.unquoted, List.tail_cons,
      List.map_cons, ih]
    cases hpieces : Text.splitAt '"' cs with
    | nil => exact absurd hpieces (splitAt_ne_nil _ _)
    | cons outer rest => rw [betweenQuotes, if_neg q.ne_nil, List.tail_cons]

theorem quotedTerm_findAll (prompt : String) :
    (quotedTerm.findAll prompt).map (·.group 1) = quotedIn prompt := by
  obtain ⟨qs, hqs⟩ := Regex.exists_scans finds_quotedTerm.ne_nil prompt.toList
  rw [finds_quotedTerm.map_group hqs, quotedIn, ← map_inner_of_scans hqs, List.map_map]
  rfl

theorem addNew_eq (items : List String) (item : String) :
    addNew items item = if item ∈ items then items else items ++ [item] := by
  rw [addNew]
  simp only [List.contains_iff_mem]

/-- Items that are added one after another come behind those that are there, each once. -/
theorem foldl_addNew (items new : List String) :
    new.foldl addNew items = items ++ (distinct new).filter (· ∉ items) := by
  induction new using List.reverseRecOn with
  | nil => exact (List.append_nil items).symm
  | append_singleton new item ih =>
    rw [List.foldl_concat, ih, addNew_eq, Text.distinct_append_singleton]
    by_cases hitems : item ∈ items
    · rw [if_pos (List.mem_append_left _ hitems)]
      split
      · rfl
      · rw [List.filter_append, List.filter_cons_of_neg (by simpa using hitems),
          List.filter_nil, List.append_nil]
    · by_cases hnew : item ∈ new
      · have hmem : item ∈ (distinct new).filter (· ∉ items) :=
          List.mem_filter.2 ⟨Text.mem_distinct.2 hnew, decide_eq_true hitems⟩
        rw [if_pos (List.mem_append_right _ hmem), if_pos hnew]
      · have hmem : item ∉ items ++ (distinct new).filter (· ∉ items) := by
          simp [hitems, hnew, Text.mem_distinct]
        rw [if_neg hmem, if_neg hnew, List.filter_append,
          List.filter_cons_of_pos (by simpa using hitems), List.filter_nil, List.append_assoc]

theorem foldl_addNew_nil (new : List String) : new.foldl addNew [] = distinct new := by
  rw [foldl_addNew, List.nil_append, List.filter_eq_self]
  exact fun _ _ => decide_eq_true List.not_mem_nil

theorem nodup_foldl_addNew_iff {items new : List String} :
    (new.foldl addNew items).Nodup ↔ items.Nodup := by
  rw [foldl_addNew, List.nodup_append']
  constructor
  · exact fun h => h.1
  · intro h
    refine ⟨h, (Text.nodup_distinct new).filter _, fun item hitem hnew => ?_⟩
    exact of_decide_eq_true (List.mem_filter.1 hnew).2 hitem

end PromptChart.Trace
