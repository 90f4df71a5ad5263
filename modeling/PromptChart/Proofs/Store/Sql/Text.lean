import PromptChart.Store.Sql.Query

namespace PromptChart.Sql

inductive Token where
  | word (text : String)
  | name (text : String)
  | parameter (text : String)
  | cast
  | mark (c : Char)
  deriving DecidableEq, Repr

namespace Token

def isWordChar (c : Char) : Bool := c.isAlphanum || c = '_'

def read : List Char → List Token
  | [] => []
  | ' ' :: rest => read rest
  | '"' :: rest =>
    .name (String.ofList (rest.takeWhile (· ≠ '"'))) :: read ((rest.dropWhile (· ≠ '"')).drop 1)
  | ':' :: ':' :: rest => .cast :: read rest
  | ':' :: rest =>
    .parameter (String.ofList (rest.takeWhile isWordChar)) :: read (rest.dropWhile isWordChar)
  | c :: rest =>
    if isWordChar c then
      .word (String.ofList (c :: rest.takeWhile isWordChar)) :: read (rest.dropWhile isWordChar)
    else .mark c :: read rest
termination_by cs => cs.length
decreasing_by
  all_goals simp only [List.length_cons, List.length_drop]
  all_goals first
    | omega
    | have := (List.dropWhile_sublist isWordChar (l := rest)).length_le
      omega
    | have := (List.dropWhile_sublist (· ≠ '"') (l := rest)).length_le
      omega

def name? : Token → Option String
  | .name text => some text
  | _ => none

def parameter? : Token → Option String
  | .parameter text => some text
  | _ => none

def conjuncts (ts : List Token) : List (List Token) :=
  let clause := ((ts.dropWhile (· ≠ .word "WHERE")).drop 1).takeWhile (· ≠ .word "GROUP")
  clause.splitOn (.word "AND")

/-- A word or a parameter in front of the text does not run on into it. -/
def Stops (rest : List Char) : Prop := ∀ c ∈ rest.head?, isWordChar c = false

theorem takeWhile_of_stops {rest : List Char} (h : Stops rest) :
    rest.takeWhile isWordChar = [] := by
  cases rest with
  | nil => rfl
  | cons c rest => rw [List.takeWhile_cons_of_neg (by simpa using h c rfl)]

theorem dropWhile_of_stops {rest : List Char} (h : Stops rest) :
    rest.dropWhile isWordChar = rest := by
  cases rest with
  | nil => rfl
  | cons c rest => rw [List.dropWhile_cons_of_neg (by simpa using h c rfl)]

theorem read_name {name : String} (h : '"' ∉ name.toList) (rest : List Char) :
    read ((quote name).toList ++ rest) = .name name :: read rest := by
  have hall : ∀ c ∈ name.toList, decide (c ≠ '"') = true := by
    intro c hc
    apply decide_eq_true
    rintro rfl
    exact h hc
  have htext : (quote name).toList ++ rest = '"' :: (name.toList ++ '"' :: rest) := by
    simp [quote, String.toList_append]
  rw [htext, read, List.takeWhile_append_of_pos hall, List.dropWhile_append_of_pos hall]
  simp [String.ofList_toList]

theorem read_parameter {name : String} (hne : name ≠ "")
    (h : ∀ c ∈ name.toList, isWordChar c = true) {rest : List Char} (hrest : Stops rest) :
    read (':' :: (name.toList ++ rest)) = .parameter name :: read rest := by
  have hstart : ∀ cs, name.toList ++ rest = ':' :: cs → False := by
    intro cs hcs
    cases hname : name.toList with
    | nil => exact hne (String.toList_eq_nil_iff.1 hname)
    | cons c _ =>
      rw [hname] at hcs h
      obtain rfl := (List.cons.inj hcs).1
      exact absurd (h ':' (.head _)) (by decide)
  rw [read]
  · rw [List.takeWhile_append_of_pos h, List.dropWhile_append_of_pos h,
      takeWhile_of_stops hrest, dropWhile_of_stops hrest, List.append_nil, String.ofList_toList]
  · exact hstart

end Token

end PromptChart.Sql

namespace PromptChart.Sql

open Token (Stops isWordChar)

namespace Condition

def column : Condition → String
  | .compare column .. => column
  | .matching column _ => column
  | .anyOf column _ => column

def parameter : Condition → String
  | .compare _ _ parameter => parameter
  | .matching _ parameter => parameter
  | .anyOf _ parameter => parameter

def operator? : Condition → Option String
  | .compare _ operator _ => some operator
  | .matching .. => none
  | .anyOf .. => none

def tokens : Condition → List Token
  | .compare column operator parameter => .name column :: operator.toList.map .mark ++
    [.parameter parameter]
  | .matching column parameter => [.name column, .word "ILIKE", .parameter parameter]
  | .anyOf column parameter =>
    [.name column, .cast, .word "text", .mark '=', .word "ANY", .mark '(', .parameter parameter,
      .mark ')']

/-- What keeps a condition from being read as anything else. -/
structure IsPlain (x : Condition) : Prop where
  column : '"' ∉ x.column.toList
  operator : ∀ operator ∈ x.operator?, ∃ op, sign? op = some operator
  parameter_ne : x.parameter ≠ ""
  parameter : ∀ c ∈ x.parameter.toList, isWordChar c = true

theorem read_sign {op : FilterOperator} {operator : String} (h : sign? op = some operator)
    (rest : List Char) :
    Token.read (' ' :: (operator.toList ++ ' ' :: rest)) = operator.toList.map .mark ++
      Token.read rest := by
  cases op <;> simp only [sign?, Option.some.injEq, reduceCtorEq] at h
  all_goals
    subst h
    simp [Token.read, isWordChar]

theorem read_text {x : Condition} (h : x.IsPlain) {rest : List Char} (hrest : Stops rest) :
    Token.read (x.text.toList ++ rest) = x.tokens ++ Token.read rest := by
  obtain ⟨hcolumn, hoperator, hne, hparameter⟩ := h
  cases x with
  | compare column operator parameter =>
    have hcolumn : '"' ∉ column.toList := hcolumn
    have hread : Token.read (':' :: (parameter.toList ++ rest)) = .parameter parameter ::
        Token.read rest :=
      Token.read_parameter hne hparameter hrest
    obtain ⟨op, hop⟩ := hoperator operator rfl
    simp [text, tokens, Token.read_name hcolumn, read_sign hop, hread]
  | matching column parameter =>
    have hcolumn : '"' ∉ column.toList := hcolumn
    have hread : Token.read (':' :: (parameter.toList ++ rest)) = .parameter parameter ::
        Token.read rest :=
      Token.read_parameter hne hparameter hrest
    simp [text, tokens, Token.read_name hcolumn, Token.read, isWordChar, hread]
  | anyOf column parameter =>
    have hcolumn : '"' ∉ column.toList := hcolumn
    have hstops : Stops (')' :: rest) := by simp [Stops, isWordChar]
    have hread : Token.read (':' :: (parameter.toList ++ ')' :: rest)) =
        .parameter parameter :: Token.read (')' :: rest) :=
      Token.read_parameter hne hparameter hstops
    simp [text, tokens, Token.read_name hcolumn, Token.read, isWordChar, hread]

theorem filterMap_name?_tokens (x : Condition) :
    x.tokens.filterMap Token.name? = [x.column] := by
  cases x with
  | compare column operator parameter =>
    simp [tokens, Token.name?, Condition.column, List.filterMap_cons, List.filterMap_map,
      Function.comp_def]
  | matching column parameter => rfl
  | anyOf column parameter => rfl

theorem filterMap_parameter?_tokens (x : Condition) :
    x.tokens.filterMap Token.parameter? = [x.parameter] := by
  cases x with
  | compare column operator parameter =>
    simp [tokens, Token.parameter?, Condition.parameter, List.filterMap_cons,
      List.filterMap_map, Function.comp_def]
  | matching column parameter => rfl
  | anyOf column parameter => rfl

theorem word_of_mem_tokens {x : Condition} {text : String} (h : .word text ∈ x.tokens) :
    text = "ILIKE" ∨ text = "text" ∨ text = "ANY" := by
  cases x with
  | compare column operator parameter => simp [tokens] at h
  | matching column parameter =>
    simp only [tokens, List.mem_cons, Token.word.injEq, reduceCtorEq, List.not_mem_nil,
      false_or, or_false] at h
    exact .inl h
  | anyOf column parameter =>
    simp only [tokens, List.mem_cons, Token.word.injEq, reduceCtorEq, List.not_mem_nil,
      false_or, or_false] at h
    exact .inr h

end Condition

namespace Query

def selectionTokens : Grouping → List Token
  | .single field => [.name field, .word "AS", .word "label"]
  | .pair primary secondary =>
    [.name primary, .word "AS", .word "primary_group", .mark ',',
     .name secondary, .word "AS", .word "secondary_group"]

def groupTokens : Grouping → List Token
  | .single field => [.name field]
  | .pair primary secondary => [.name primary, .mark ',', .name secondary]

def head (q : Query) : List Token :=
  .word "SELECT" :: selectionTokens q.grouping ++
    [.mark ',', .word q.aggregation.keyword, .mark '(', .name q.metric, .mark ')', .word "AS",
      .word "value",
     .mark ',', .word "COUNT", .mark '(', .mark '*', .mark ')', .word "AS", .word "count",
     .word "FROM", .name q.table]

def clause (q : Query) : List Token :=
  if q.conditions.isEmpty then []
  else .word "WHERE" :: [.word "AND"].intercalate (q.conditions.map (·.tokens))

def tail (q : Query) : List Token :=
  .word "GROUP" :: .word "BY" :: groupTokens q.grouping ++
    [.word "ORDER", .word "BY", .word "value", .word "DESC", .word "NULLS", .word "LAST",
      .word "LIMIT",
     .parameter "limit"]

/-- What keeps the parts of a query from being read as anything else. -/
structure IsPlain (q : Query) : Prop where
  fields : ∀ field ∈ q.grouping.fields, '"' ∉ field.toList
  metric : '"' ∉ q.metric.toList
  table : '"' ∉ q.table.toList
  conditions : ∀ x ∈ q.conditions, x.IsPlain

theorem read_selection {g : Grouping} (h : ∀ field ∈ g.fields, '"' ∉ field.toList)
    (rest : List Char) :
    Token.read ((selection g).toList ++ ',' :: rest) = selectionTokens g ++
      .mark ',' :: Token.read rest := by
  cases g with
  | single field =>
    have hfield : '"' ∉ field.toList := h field (.head _)
    simp [selection, selectionTokens, Token.read_name hfield, Token.read, isWordChar]
  | pair primary secondary =>
    have hprimary : '"' ∉ primary.toList := h primary (.head _)
    have hsecondary : '"' ∉ secondary.toList := h secondary (.tail _ (.head _))
    simp [selection, selectionTokens, Token.read_name hprimary, Token.read_name hsecondary,
      Token.read, isWordChar]

theorem read_keyword (a : Aggregation) (rest : List Char) :
    Token.read (a.keyword.toList ++ '(' :: rest) = .word a.keyword ::
      .mark '(' :: Token.read rest := by
  cases a <;> simp [Aggregation.keyword, Token.read, isWordChar]

theorem read_groups {g : Grouping} (h : ∀ field ∈ g.fields, '"' ∉ field.toList)
    (rest : List Char) :
    Token.read ((Text.join ", " (g.fields.map quote)).toList ++ rest) = groupTokens g ++
      Token.read rest := by
  cases g with
  | single field =>
    have hfield : '"' ∉ field.toList := h field (.head _)
    simp [Grouping.fields, Text.join, groupTokens, Token.read_name hfield]
  | pair primary secondary =>
    have hprimary : '"' ∉ primary.toList := h primary (.head _)
    have hsecondary : '"' ∉ secondary.toList := h secondary (.tail _ (.head _))
    simp [Grouping.fields, Text.join, groupTokens, Token.read_name hprimary,
      Token.read_name hsecondary, Token.read, isWordChar]

theorem read_conditions {xs : List Condition} (hne : xs ≠ []) (h : ∀ x ∈ xs, x.IsPlain)
    {rest : List Char} (hrest : Stops rest) :
    Token.read ((Text.join " AND " (xs.map (·.text))).toList ++ rest) =
      [.word "AND"].intercalate (xs.map (·.tokens)) ++ Token.read rest := by
  induction xs with
  | nil => exact absurd rfl hne
  | cons x xs ih =>
    have hx : x.IsPlain := h x (.head xs)
    cases xs with
    | nil => simpa [Text.join] using Condition.read_text hx hrest
    | cons y ys =>
      let after := (Text.join " AND " ((y :: ys).map (·.text))).toList ++ rest
      have hafter : Token.read after = [.word "AND"].intercalate ((y :: ys).map (·.tokens)) ++
          Token.read rest :=
        ih (List.cons_ne_nil y ys) fun z hz => h z (.tail x hz)
      have hstops : Stops (" AND ".toList ++ after) := by simp [Stops, isWordChar]
      have hand : Token.read (" AND ".toList ++ after) = .word "AND" :: Token.read after := by
        simp [Token.read, isWordChar]
      have hjoin : (Text.join " AND " ((x :: y :: ys).map (·.text))).toList ++ rest =
          x.text.toList ++ (" AND ".toList ++ after) := by
        simp [Text.join, after]
      rw [hjoin, Condition.read_text hx hstops, hand, hafter]
      simp [List.intercalate]

theorem read_condition {q : Query} (h : ∀ x ∈ q.conditions, x.IsPlain) {rest : List Char}
    (hrest : Stops rest) :
    Token.read (q.condition.toList ++ rest) = q.clause ++ Token.read rest := by
  unfold condition clause
  split
  · rfl
  next hne =>
    have hne : q.conditions ≠ [] := by simpa using hne
    have hread := read_conditions hne h hrest
    simp [Token.read, isWordChar, hread]

theorem read_tail {q : Query} (h : q.IsPlain) :
    Token.read (" GROUP BY ".toList ++ ((Text.join ", " (q.grouping.fields.map quote)).toList ++
      " ORDER BY value DESC NULLS LAST LIMIT :limit".toList)) = q.tail := by
  simp [tail, Token.read, isWordChar, read_groups h.fields]

theorem read_head {q : Query} (h : q.IsPlain) (rest : List Char) :
    Token.read ("SELECT ".toList ++ ((selection q.grouping).toList ++ (", ".toList ++
      (q.aggregation.keyword.toList ++ ("(".toList ++ ((quote q.metric).toList ++
        (") AS value, COUNT(*) AS count FROM ".toList ++
          ((quote q.table).toList ++ rest)))))))) =
      q.head ++ Token.read rest := by
  simp [head, Token.read, isWordChar, read_selection h.fields, read_keyword,
    Token.read_name h.metric, Token.read_name h.table]

theorem stops_tail (q : Query) :
    Stops (" GROUP BY ".toList ++ ((Text.join ", " (q.grouping.fields.map quote)).toList ++
      " ORDER BY value DESC NULLS LAST LIMIT :limit".toList)) := by
  simp [Stops, isWordChar]

theorem read_text {q : Query} (h : q.IsPlain) :
    Token.read q.text.toList = q.head ++ q.clause ++ q.tail := by
  unfold text
  simp only [String.toList_append, List.append_assoc]
  rw [read_head h, read_condition h.conditions q.stops_tail, read_tail h]

def tokens (q : Query) : List Token := Token.read q.text.toList

theorem filterMap_clause {f : Token → Option String} {g : Condition → String} (q : Query)
    (hword : ∀ text, f (.word text) = none)
    (h : ∀ x : Condition, x.tokens.filterMap f = [g x]) :
    q.clause.filterMap f = q.conditions.map g := by
  have hjoined (xs : List Condition) :
      ([.word "AND"].intercalate (xs.map (·.tokens))).filterMap f = xs.map g := by
    induction xs with
    | nil => rfl
    | cons x xs ih =>
      cases xs with
      | nil => simpa [List.intercalate] using h x
      | cons y ys =>
        simp only [List.map_cons, List.intercalate_cons_cons, List.filterMap_append, h,
          List.filterMap_cons, hword, List.filterMap_nil, List.append_nil,
          List.singleton_append] at ih ⊢
        rw [ih]
  unfold clause
  split
  next hnil =>
    have hnil : q.conditions = [] := by simpa using hnil
    rw [hnil]
    rfl
  next => rw [List.filterMap_cons_none (hword _), hjoined]

theorem names_tokens {q : Query} (h : q.IsPlain) :
    q.tokens.filterMap Token.name? =
      q.grouping.fields ++ [q.metric, q.table] ++ q.conditions.map (·.column) ++
        q.grouping.fields := by
  have hhead : q.head.filterMap Token.name? = q.grouping.fields ++ [q.metric, q.table] := by
    unfold head
    cases q.grouping <;> rfl
  have htail : q.tail.filterMap Token.name? = q.grouping.fields := by
    unfold tail
    cases q.grouping <;> rfl
  have hclause := q.filterMap_clause (fun _ => rfl) Condition.filterMap_name?_tokens
  rw [tokens, read_text h, List.filterMap_append, List.filterMap_append, hhead, hclause, htail]

theorem parameters_tokens {q : Query} (h : q.IsPlain) :
    q.tokens.filterMap Token.parameter? = q.conditions.map (·.parameter) ++ ["limit"] := by
  have hhead : q.head.filterMap Token.parameter? = [] := by
    unfold head
    cases q.grouping <;> rfl
  have htail : q.tail.filterMap Token.parameter? = ["limit"] := by
    unfold tail
    cases q.grouping <;> rfl
  have hclause := q.filterMap_clause (fun _ => rfl) Condition.filterMap_parameter?_tokens
  rw [tokens, read_text h, List.filterMap_append, List.filterMap_append, hhead, hclause, htail,
    List.nil_append]

theorem mem_intercalate {a b : Token} {ls : List (List Token)} (h : b ∈ [a].intercalate ls) :
    b = a ∨ ∃ l ∈ ls, b ∈ l := by
  induction ls with
  | nil => cases h
  | cons l ls ih =>
    cases ls with
    | nil => exact .inr ⟨l, .head _, by simpa [List.intercalate] using h⟩
    | cons l' ls =>
      rw [List.intercalate_cons_cons, List.mem_append, List.mem_append, List.mem_singleton] at h
      obtain (hl | ha) | hrest := h
      · exact .inr ⟨l, .head _, hl⟩
      · exact .inl ha
      · obtain ha | ⟨m, hm, hb⟩ := ih hrest
        · exact .inl ha
        · exact .inr ⟨m, .tail l hm, hb⟩

theorem conjuncts_tokens {q : Query} (h : q.IsPlain) (hne : q.conditions ≠ []) :
    Token.conjuncts q.tokens = q.conditions.map (·.tokens) := by
  have hhead : ∀ t ∈ q.head, decide (t ≠ .word "WHERE") = true := by
    unfold head
    cases q.grouping <;> cases q.aggregation <;> simp [selectionTokens, Aggregation.keyword]
  have hword : ∀ ts ∈ q.conditions.map (·.tokens), .word "AND" ∉ ts ∧ .word "GROUP" ∉ ts := by
    intro ts hts
    obtain ⟨x, -, rfl⟩ := List.mem_map.1 hts
    constructor
    · intro hand
      simpa using Condition.word_of_mem_tokens hand
    · intro hgroup
      simpa using Condition.word_of_mem_tokens hgroup
  have hjoined : ∀ t ∈ [.word "AND"].intercalate (q.conditions.map (·.tokens)),
      decide (t ≠ .word "GROUP") = true := by
    intro t ht
    apply decide_eq_true
    rintro rfl
    obtain he | ⟨ts, hts, hgroup⟩ := mem_intercalate ht
    · simp at he
    · exact (hword ts hts).2 hgroup
  have hclause :
      q.clause = .word "WHERE" :: [.word "AND"].intercalate (q.conditions.map (·.tokens)) := by
    rw [clause, if_neg (by simpa using hne)]
  have htail : q.tail.takeWhile (fun t => decide (t ≠ .word "GROUP")) = [] := rfl
  rw [tokens, read_text h, Token.conjuncts, List.append_assoc,
    List.dropWhile_append_of_pos hhead, hclause]
  simp only [List.cons_append, ne_eq, not_true_eq_false, decide_false, Bool.false_eq_true,
    not_false_eq_true, List.dropWhile_cons_of_neg, List.drop_succ_cons, List.drop_zero]
  rw [List.takeWhile_append_of_pos hjoined, htail, List.append_nil,
    List.splitOn_intercalate _ (fun ts hts => (hword ts hts).1) (by simpa using hne)]

end Query

end PromptChart.Sql
