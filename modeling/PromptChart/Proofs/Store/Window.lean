import PromptChart.Proofs.Calendar.Order
import PromptChart.Proofs.Entries
import PromptChart.Proofs.Store.Selection

namespace PromptChart

namespace Memory

def day? (c : Catalog) (record : Json) : Option Date := do
  let text ← (record.get c.dateField).text?
  match Moment.date? text.toList with
  | some (day, []) => some day
  | _ => none

def isDuring (c : Catalog) (r : DateRange) (record : Json) : Bool :=
  (day? c record).any fun day => r.first.le day && day.le r.last

/-- Records are objects whose days are dates, or null. -/
def IsDated (c : Catalog) (records : List Json) : Prop :=
  ∀ record ∈ records, (∃ members, record = .object members) ∧
    (record.get c.dateField = .null ∨ ∃ d : Date, record.get c.dateField = .text d.text)

variable {c : Catalog} {scope : Scope} {r : DateRange} {record : Json} {records : List Json}
  {before after filters : List Filter}

theorem day?_of_null (h : record.get c.dateField = .null) : day? c record = none := by
  rw [day?, h]
  rfl

theorem day?_of_text {d : Date} (h : record.get c.dateField = .text d.text) :
    day? c record = some d := by
  rw [day?, h]
  simp only [Json.text?, Option.bind_eq_bind, Option.bind_some, d.date?_text]

theorem IsDated.isTable (h : IsDated c records) : IsTable records :=
  fun record hrecord => (h record hrecord).1

theorem IsDated.isHuge (h : IsDated c records) (hrecord : record ∈ records) :
    isHuge (record.get c.dateField) = false := by
  obtain ⟨-, hnull | ⟨d, hd⟩⟩ := h record hrecord
  · rw [hnull]
    rfl
  · rw [hd]
    rfl

theorem IsDated.isWithin_eq (h : IsDated c records) (hrecord : record ∈ records) :
    isWithin c (some r) record = isDuring c r record := by
  obtain ⟨-, hnull | ⟨d, hd⟩⟩ := h record hrecord
  · rw [isDuring, day?_of_null hnull, isWithin, hnull]
    rfl
  · rw [isDuring, day?_of_text hd, isWithin, hd, Option.any_some, Bool.eq_iff_iff]
    simp [Json.isNull, Json.plain, Date.text_le_text_iff]

theorem IsDated.passesAll_range (h : IsDated c records) (hrecord : record ∈ records) :
    passesAll record (DateRange.filters c (some r)) = .ok (isDuring c r record) := by
  obtain ⟨members, rfl⟩ := (h record hrecord).1
  rw [Memory.passesAll_range, h.isHuge hrecord, h.isWithin_eq hrecord]
  rfl

theorem select_append {keeps : Json → Bool} (h : IsTable records)
    (hbefore : ∀ record ∈ records, ∃ passed, passesAll record before = .ok passed)
    (hfilters : ∀ record ∈ records, passesAll record filters = .ok (keeps record)) :
    select scope (before ++ filters ++ after) records =
      select scope (before ++ after) (records.filter keeps) := by
  induction records with
  | nil => rfl
  | cons record rest ih =>
    obtain ⟨⟨members, rfl⟩, hrest⟩ := List.forall_mem_cons.1 h
    obtain ⟨⟨passed, hpassed⟩, hbefore⟩ := List.forall_mem_cons.1 hbefore
    obtain ⟨hkeeps, hfilters⟩ := List.forall_mem_cons.1 hfilters
    have ih := ih hrest hbefore hfilters
    have hpasses : passesAll (.object members) (before ++ filters ++ after) =
        if keeps (.object members) then passesAll (.object members) (before ++ after)
        else .ok false := by
      rw [passesAll_append, passesAll_append, passesAll_append, hpassed, hkeeps]
      cases passed <;> cases keeps (.object members) <;> rfl
    rw [List.filter_cons, select, visible_object, ok_bind, hpasses, ih]
    cases hkeep : keeps (.object members) with
    | true =>
      simp only [↓reduceIte, select, visible_object, ok_bind]
    | false =>
      simp only [Bool.false_eq_true, ↓reduceIte, ok_bind, ite_self]

theorem exists_passesAll_ofTerm (hrecord : ∃ members, record = .object members)
    (h : ∀ f ∈ filters, ∃ term, f = Filter.ofTerm c term) :
    ∃ passed, passesAll record filters = .ok passed := by
  obtain ⟨members, rfl⟩ := hrecord
  induction filters with
  | nil => exact ⟨true, rfl⟩
  | cons f rest ih =>
    obtain ⟨⟨term, rfl⟩, hrest⟩ := List.forall_mem_cons.1 h
    rw [passesAll, passes_ofTerm, ok_bind]
    split
    · exact ih hrest
    · exact ⟨false, rfl⟩

end Memory

/-- The tables with only those records whose days lie in a range. -/
def Tables.during (c : Catalog) (r : DateRange) (tables : Tables) : Tables :=
  tables.map fun t => (t.1, t.2.filter (Memory.isDuring c r))

theorem Tables.during_during (c : Catalog) (r : DateRange) (tables : Tables) :
    (tables.during c r).during c r = tables.during c r := by
  simp only [during, List.map_map, Function.comp_def, List.filter_filter, Bool.and_self]

theorem Tables.isDated_during {c : Catalog} {tables : Tables} (r : DateRange)
    (h : ∀ t ∈ tables, Memory.IsDated c t.2) :
    ∀ t ∈ tables.during c r, Memory.IsDated c t.2 := by
  intro _ hmem
  obtain ⟨t, ht, rfl⟩ := List.mem_map.1 hmem
  exact fun record hrecord => h t ht record (List.mem_filter.1 hrecord).1

def Request.undated (request : Request) : Request :=
  { request with filters := request.filters.filter (!·.dynamic) }

namespace Memory

variable {c : Catalog} {scope : Scope} {r : DateRange} {request : Request}

theorem filter_dynamic_ofTerm {filters : List Filter}
    (h : ∀ f ∈ filters, ∃ term, f = Filter.ofTerm c term) :
    filters.filter (!·.dynamic) = filters := by
  rw [List.filter_eq_self]
  intro f hf
  obtain ⟨term, rfl⟩ := h f hf
  rfl

/-- A request under a range of days is one without it on the records of these days. -/
theorem store_during {ν : Type} [Arithmetic ν] {tables : Tables} (before after : List Filter)
    (hdate : c.restrictedFields.contains (Text.lower c.dateField) = false)
    (htables : ∀ t ∈ tables, IsDated c t.2)
    (hfilters : request.filters = before ++ DateRange.filters c (some r) ++ after)
    (hterms : ∀ f ∈ before ++ after, ∃ term, f = Filter.ofTerm c term) :
    store (ν := ν) c tables request scope =
      store c (tables.during c r) request.undated scope := by
  have hbefore : ∀ f ∈ before, ∃ term, f = Filter.ofTerm c term :=
    fun f hf => hterms f (List.mem_append_left after hf)
  have hafter : ∀ f ∈ after, ∃ term, f = Filter.ofTerm c term :=
    fun f hf => hterms f (List.mem_append_right before hf)
  have hundated : request.undated.filters = before ++ after := by
    have hrange : (DateRange.filters c (some r)).filter (!·.dynamic) = [] := rfl
    rw [Request.undated, hfilters, List.filter_append, List.filter_append, hrange,
      filter_dynamic_ofTerm hbefore, filter_dynamic_ofTerm hafter, List.append_nil]
  have hget : (tables.during c r).get? request.undated.table =
      (tables.get? request.table).map (List.filter (isDuring c r)) :=
    Entries.get?_map_snd tables _
  rw [store, store, hget]
  cases hrecords : tables.get? request.table with
  | none => rfl
  | some records =>
    have hdated : IsDated c records := htables _ (Entries.mem_of_get? hrecords)
    have hselect : select scope (scopedFilters c scope request.filters) records =
        select scope (scopedFilters c scope request.undated.filters)
          (records.filter (isDuring c r)) := by
      rw [hundated, hfilters, scopedFilters_append, scopedFilters_append, scopedFilters_append,
        scopedFilters_range hdate]
      apply select_append hdated.isTable
      · intro record hrecord
        apply exists_passesAll_ofTerm (hdated.isTable record hrecord)
        intro f hf
        exact hbefore f (scopedFilters_subset c scope before hf)
      · exact fun record hrecord => hdated.passesAll_range hrecord
    simp only [Option.map_some, allRows, hselect]
    rfl

end Memory

end PromptChart
