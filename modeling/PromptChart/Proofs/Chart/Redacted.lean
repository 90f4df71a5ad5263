import PromptChart.Catalog.Freight
import PromptChart.Proofs.Chart.Visualized
import PromptChart.Proofs.Text.Lower

namespace PromptChart

open Text (contains lower)

def ChartConfig.shownCount (description : String) : String :=
  String.ofList ((description.toList.reverse.takeWhile (· ≠ '(')).reverse.takeWhile (· ≠ ' '))

theorem takeWhile_ne_append {a : Char} {before : List Char} (h : a ∉ before)
    (after : List Char) :
    (before ++ a :: after).takeWhile (· ≠ a) = before := by
  have hbefore : ∀ c ∈ before, decide (c ≠ a) = true := by
    intro c hc
    rw [decide_eq_true_eq]
    rintro rfl
    exact h hc
  rw [List.takeWhile_append_of_pos hbefore, List.takeWhile_cons_of_neg (by simp),
    List.append_nil]

theorem Text.exists_join_concat (separator last : String) (items : List String) :
    ∃ before, join separator (items ++ [last]) = before ++ last := by
  induction items with
  | nil => exact ⟨"", String.empty_append.symm⟩
  | cons item items ih =>
    cases items with
    | nil => exact ⟨item ++ separator, rfl⟩
    | cons next items =>
      obtain ⟨before, hbefore⟩ := ih
      refine ⟨item ++ separator ++ before, ?_⟩
      rw [String.append_assoc, ← hbefore]
      rfl

theorem ChartConfig.toList_categories (count : Nat) : ∃ word, '(' ∉ word ∧
    (categories count).toList = '(' :: (Nat.toDigits 10 count ++ ' ' :: word) := by
  have hnumber : (toString (count : Int)).toList = Nat.toDigits 10 count := String.toList_ofList
  unfold categories
  split
  · exact ⟨"category)".toList, by decide, by simp [← hnumber]⟩
  · exact ⟨"categories)".toList, by decide, by simp [← hnumber]⟩

theorem ChartConfig.shownCount_describe (config : ChartConfig) (count : Nat) :
    shownCount (config.describe count) = toString count := by
  obtain ⟨before, hbefore⟩ : ∃ before, config.describe count = before ++ categories count :=
    Text.exists_join_concat _ _ _
  obtain ⟨word, hword, hcategories⟩ := toList_categories count
  -- the count stands between the last bracket and the blank behind it
  have hdigits {c : Char} (hc : c.isDigit = false) : c ∉ Nat.toDigits 10 count := fun h =>
    absurd (Nat.isDigit_of_mem_toDigits (by decide) (by decide) h) (by simp [hc])
  have hlast : '(' ∉ (Nat.toDigits 10 count ++ ' ' :: word).reverse := by
    simp [hdigits, hword]
  rw [shownCount, hbefore, String.toList_append, hcategories, List.reverse_append,
    List.reverse_cons, List.append_assoc, List.singleton_append, takeWhile_ne_append hlast,
    List.reverse_reverse, takeWhile_ne_append (hdigits (by decide))]
  rfl

namespace Visualized

variable {c : Catalog} {visualization trace prompt : Json} {admin customer scope : Scope}
  {full made : Chart}

theorem points_filter (shows : String → Bool) (rows : List Json) :
    points (rows.filter fun row => shows (label row)) =
      (points rows).filter fun p => shows p.label := by
  rw [points, points, List.filterMap_filter, List.filter_filterMap]
  congr 1
  funext row
  cases value row with
  | error f => cases shows (label row) <;> rfl
  | ok x => cases hshows : shows (label row) <;> simp [Except.toOption, Option.filter, hshows]

theorem map_label_filter (shows : String → Bool) (points : List Point) :
    (points.filter fun p => shows p.label).map (fun p => p.label) =
      (points.map fun p => p.label).filter shows :=
  List.filter_map.symm

/-- A text that has no admin term in it, in any case. -/
def IsOpen (c : Catalog) (text : String) : Prop :=
  ∀ term ∈ c.adminTerms, ¬ term.toList <:+: (lower text).toList

instance (c : Catalog) (text : String) : Decidable (IsOpen c text) :=
  inferInstanceAs (Decidable (∀ _ ∈ _, _))

theorem isOpen_iff {text : String} : (!namesAdminTerm c text) = decide (IsOpen c text) := by
  rw [Bool.eq_iff_iff, Bool.not_eq_true', ← Bool.not_eq_true, namesAdminTerm, List.any_eq_true,
    decide_eq_true_eq]
  simp only [Text.contains_iff, IsOpen, not_exists, not_and]

theorem points_forCustomer (c : Catalog) (rows : List Json) :
    points (forCustomer c rows) = (points rows).filter fun p => IsOpen c p.label := by
  rw [forCustomer, points_filter fun label => !namesAdminTerm c label]
  simp only [isOpen_iff]

/-- Where an admin gets a chart, every customer does, with the points that have no admin term in
their label. -/
theorem points_of_customer (hadmin : admin.isAdmin = true)
    (hcustomer : customer.isAdmin = false)
    (h : chart c visualization trace prompt admin = .ok full) :
    ∃ made, chart c visualization trace prompt customer = .ok made ∧
      made.points = full.points.filter (fun p => IsOpen c p.label) ∧
      ChartConfig.shownCount made.description = toString made.points.length ∧
      ChartConfig.shownCount full.description = toString full.points.length := by
  obtain ⟨data, read, kind, steps, hdata, hread, hkind, hsteps, rfl⟩ := chart_eq_ok.1 h
  refine ⟨_, chart_eq_ok.2 ⟨data, read, kind, steps, hdata, hread, hkind, hsteps, rfl⟩, ?_, ?_,
    ?_⟩
  · simp only [hadmin, hcustomer, Bool.false_eq_true, ↓reduceIte]
    exact points_forCustomer c data
  · exact ChartConfig.shownCount_describe _ _
  · exact ChartConfig.shownCount_describe _ _

def carrierPay : Visualization where
  type := "stat"
  title := "Retail by carrier"
  groupBy := some "carrier"
  metric := some "revenue"
  data := [("data", .array [
    .object [("label", .text "Saia"), ("value", .int 10)],
    .object [("label", .text "CARRIER PAY total"), ("value", .int 99)],
    .object [("label", .text "Estes"), ("value", .text "n/a")],
    .object [("label", .null), ("value", .int 4)],
    .object [("label", .array [.text "Profit"])],
    .object []])]

theorem points_of_customer_carrierPay :
    Scope.admin.isAdmin = true ∧ Scope.isAdmin ⟨some 7⟩ = false ∧
      ∃ full made,
        chart .freight carrierPay.toJson (.array []) (.text "hello") .admin = .ok full ∧
        chart .freight carrierPay.toJson (.array []) (.text "hello") ⟨some 7⟩ = .ok made ∧
        full.points.map (·.label) = ["Saia", "CARRIER PAY total", "None", "['Profit']", ""] ∧
        made.points.map (·.label) = ["Saia", "None", ""] ∧
        ChartConfig.shownCount made.description = "3" := by
  have hmakes :
      (chart .freight carrierPay.toJson (.array []) (.text "hello") .admin).toOption.map
      (fun full => full.points.map fun p => p.label) =
      some ["Saia", "CARRIER PAY total", "None", "['Profit']", ""] := by
    decide +kernel
  obtain ⟨full, hfull, hlabels⟩ := exists_of_toOption_map hmakes
  have hadmin : Scope.admin.isAdmin = true := rfl
  have hcustomer : Scope.isAdmin ⟨some 7⟩ = false := rfl
  obtain ⟨made, hmade, hpoints, hcount, -⟩ := points_of_customer hadmin hcustomer hfull
  have hshown : made.points.map (fun p => p.label) = ["Saia", "None", ""] := by
    rw [hpoints, map_label_filter fun text => IsOpen .freight text, hlabels]
    decide +kernel
  refine ⟨hadmin, hcustomer, full, made, hfull, hmade, hlabels, hshown, ?_⟩
  rw [hcount, ← List.length_map, hshown]
  rfl

end Visualized

/-- Does a text name a column by its id or its label, in any case? -/
def Column.IsNamedIn (column : Column) (text : String) : Prop :=
  (lower column.id).toList <:+: (lower text).toList ∨ (lower column.label).toList <:+:
    (lower text).toList

namespace Catalog

variable {c : Catalog} {text : String}

def adminNames (c : Catalog) : List String :=
  (c.columns.filter (·.adminOnly)).flatMap fun column => [lower column.id, lower column.label]

def unguardedNames (c : Catalog) : List String :=
  c.adminNames.filter fun name => !c.adminTerms.any (contains name)

theorem unguardedNames_freight :
    Catalog.freight.unguardedNames = ["carrier_total", "carrier total", "target_rate",
      "target rate"] := by
  decide +kernel

theorem exists_adminOnly_isNamedIn_iff :
    (∃ column ∈ c.columns, column.adminOnly = true ∧ column.IsNamedIn text) ↔
    ∃ name ∈ c.adminNames, contains (lower text) name = true := by
  simp only [adminNames, List.mem_flatMap, List.mem_filter, List.mem_cons, List.not_mem_nil,
    or_false, Text.contains_iff]
  constructor
  · rintro ⟨column, hcolumn, hadmin, hid | hlabel⟩
    · exact ⟨_, ⟨column, ⟨hcolumn, hadmin⟩, .inl rfl⟩, hid⟩
    · exact ⟨_, ⟨column, ⟨hcolumn, hadmin⟩, .inr rfl⟩, hlabel⟩
  · rintro ⟨_, ⟨column, ⟨hcolumn, hadmin⟩, rfl | rfl⟩, hname⟩
    · exact ⟨column, hcolumn, hadmin, .inl hname⟩
    · exact ⟨column, hcolumn, hadmin, .inr hname⟩

theorem exists_unguardedNames_iff (hopen : Visualized.IsOpen c text) :
    (∃ name ∈ c.adminNames, contains (lower text) name = true) ↔
      ∃ name ∈ c.unguardedNames, contains (lower text) name = true := by
  constructor
  · rintro ⟨name, hname, hcontains⟩
    refine ⟨name, List.mem_filter.2 ⟨hname, ?_⟩, hcontains⟩
    rw [Bool.not_eq_true', List.any_eq_false]
    intro term hterm hguarded
    exact hopen term hterm (Text.contains_iff.1 (Text.contains_trans hcontains hguarded))
  · rintro ⟨name, hname, hcontains⟩
    exact ⟨name, (List.mem_filter.1 hname).1, hcontains⟩

theorem exists_adminOnly_freight_iff (hopen : Visualized.IsOpen .freight text) :
    (∃ column ∈ freight.columns, column.adminOnly = true ∧ column.IsNamedIn text) ↔
      ∃ name ∈ ["carrier_total", "carrier total", "target_rate", "target rate"],
        contains (lower text) name = true := by
  rw [exists_adminOnly_isNamedIn_iff, exists_unguardedNames_iff hopen, unguardedNames_freight]

end Catalog

namespace Visualized

variable {c : Catalog} {visualization trace prompt : Json} {scope : Scope} {made : Chart}

theorem mem_points_iff {rows : List Json} {p : Point} :
    p ∈ points rows ↔ ∃ row ∈ rows, ∃ x, value row = .ok x ∧ p = ⟨label row, x⟩ := by
  simp only [points, List.mem_filterMap, Option.map_eq_some_iff]
  refine exists_congr fun row => and_congr_right fun _ => exists_congr fun x => ?_
  cases value row with
  | error f => simp [Except.toOption]
  | ok y => simp [Except.toOption, eq_comm]

/-- A customer gets a point that names an admin-only column of the freight catalog exactly if
there is a row with a value that can be read and a label that names the carrier total or the
target rate and has no admin term in it. -/
theorem shown_adminOnly_iff (hscope : scope.isAdmin = false)
    (h : chart .freight visualization trace prompt scope = .ok made) :
    (∃ p ∈ made.points, ∃ column ∈ Catalog.freight.columns,
      column.adminOnly = true ∧ column.IsNamedIn p.label) ↔
      ∃ data, rows visualization = .ok data ∧
        ∃ row ∈ data, (∃ x, value row = .ok x) ∧ IsOpen .freight (label row) ∧
        ∃ name ∈ ["carrier_total", "carrier total", "target_rate", "target rate"],
          contains (lower (label row)) name = true := by
  obtain ⟨data, read, kind, steps, hdata, -, -, -, rfl⟩ := chart_eq_ok.1 h
  simp only [hscope, Bool.false_eq_true, ↓reduceIte, points_forCustomer, List.mem_filter,
    mem_points_iff, decide_eq_true_eq, hdata, Except.ok.injEq]
  constructor
  · rintro ⟨_, ⟨⟨row, hrow, x, hx, rfl⟩, hopen⟩, hnames⟩
    exact ⟨data, rfl, row, hrow, ⟨x, hx⟩, hopen,
      (Catalog.exists_adminOnly_freight_iff hopen).1 hnames⟩
  · rintro ⟨_, rfl, row, hrow, ⟨x, hx⟩, hopen, hnames⟩
    exact ⟨⟨label row, x⟩, ⟨⟨row, hrow, x, hx, rfl⟩, hopen⟩,
      (Catalog.exists_adminOnly_freight_iff hopen).2 hnames⟩

def targetRate : Json := .object [("label", .text "TARGET_RATE of May"), ("value", .int 12)]

def targetRates : Visualization where
  type := "bar"
  title := "Rates"
  groupBy := none
  metric := none
  data := [("data",
    .array [.object [("label", .text "Target Rate less Cost"), ("value", .int 2)], targetRate])]

theorem shown_adminOnly_targetRates :
    Scope.isAdmin ⟨some 7⟩ = false ∧
      ∃ made, chart .freight targetRates.toJson (.array []) (.text "hello") ⟨some 7⟩ =
        .ok made ∧
        ∃ p ∈ made.points, ∃ column ∈ Catalog.freight.columns,
          column.adminOnly = true ∧ column.IsNamedIn p.label := by
  obtain ⟨made, hmade⟩ : ∃ made,
    chart .freight targetRates.toJson (.array []) (.text "hello") ⟨some 7⟩ = .ok made :=
    (exists_chart_iff (List.forall_mem_nil _)).2 rfl
  have hvalue : (value targetRate).toOption.map (fun _ => ()) = some () := by decide +kernel
  obtain ⟨x, hx, -⟩ := exists_of_toOption_map hvalue
  have hopen : IsOpen .freight (label targetRate) := by decide +kernel
  have hname : contains (lower (label targetRate)) "target_rate" = true := by decide +kernel
  refine ⟨rfl, made, hmade, (shown_adminOnly_iff rfl hmade).2 ?_⟩
  exact ⟨_, rfl, targetRate, .tail _ (.head _), ⟨x, hx⟩, hopen, "target_rate", by decide, hname⟩

/-- A label can be what a column is called. -/
theorem not_forall_shown_open :
    ¬ ∀ (visualization trace prompt : Json) (scope : Scope) (made : Chart),
      scope.isAdmin = false → chart .freight visualization trace prompt scope = .ok made →
        ∀ p ∈ made.points, ∀ column ∈ Catalog.freight.columns,
          column.adminOnly = true → ¬ column.IsNamedIn p.label := by
  intro h
  have hmakes :
      (chart .freight targetRates.toJson (.array []) (.text "hello") ⟨some 7⟩).toOption.map
      (fun made => made.points.map fun p => p.label) = some ["TARGET_RATE of May"] := by
    decide +kernel
  obtain ⟨made, hmade, hlabels⟩ := exists_of_toOption_map hmakes
  have hlabel : "TARGET_RATE of May" ∈ made.points.map fun p => p.label := hlabels ▸ .head _
  obtain ⟨p, hp, hsame⟩ := List.mem_map.1 hlabel
  refine h _ _ _ _ made rfl hmade p hp (Catalog.adminFigure "target_rate" "Target Rate")
    (by decide) rfl (.inl ?_)
  rw [hsame]
  decide +kernel

end Visualized

end PromptChart
