import PromptChart.Proofs.Store.Payload
import PromptChart.Proofs.Store.Sql.Binding
import PromptChart.Store.Sql.Store

namespace PromptChart.Sql

/-- All statements are answered, each after those before it. -/
def Server.Answers (server : Server) (sent : List Statement) : Prop :=
  ∀ before s after, sent = before ++ s :: after → ∃ table, server.answer before s = .ok table

/-- What is sent of a script, and what comes of it: all statements and the answer to the last
one, or those up to the first that fails and its message. -/
inductive Server.Plays (server : Server) (statements : List Statement) :
    List Statement → Except Failure Table → Prop
  | whole {before s table} (split : statements = before ++ [s])
      (answers : server.Answers before)
    (last : server.answer before s = .ok table) : Plays server statements statements (.ok table)
  | cut {before s rest message} (split : statements = before ++ s :: rest)
      (answers : server.Answers before)
    (fails : server.answer before s = .error message) :
    Plays server statements (before ++ [s]) (.error (.database message))

variable {server : Server} {statements sent before after : List Statement} {s : Statement}
  {outcome : Except Failure Table}

theorem Server.answers_nil (server : Server) : server.Answers [] := by
  intro before s after h
  cases before <;> cases h

theorem Server.Answers.concat {table : Table} (h : server.Answers sent)
    (hs : server.answer sent s = .ok table) :
    server.Answers (sent ++ [s]) := by
  intro before t after hsplit
  rcases List.eq_nil_or_concat after with rfl | ⟨after, last, rfl⟩
  · obtain ⟨rfl, hst⟩ := List.append_inj' hsplit rfl
    cases hst
    exact ⟨table, hs⟩
  · rw [List.concat_eq_append, ← List.cons_append, ← List.append_assoc] at hsplit
    obtain ⟨hsent, -⟩ := List.append_inj' hsplit rfl
    exact h before t after hsent

theorem Server.Answers.of_append (h : server.Answers (before ++ after)) :
    server.Answers before := by
  rintro start s rest rfl
  exact h start s (rest ++ after) (by rw [List.append_assoc, List.cons_append])

theorem Server.runAll_of_error {message : String} (h : server.answer sent s = .error message)
    (rest : List Statement) :
    server.runAll sent (s :: rest) = ([s.event], .error (.database message)) := by
  rw [runAll.eq_def]
  simp only [h]

theorem Server.runAll_last {table : Table} (h : server.answer sent s = .ok table) :
    server.runAll sent [s] = ([s.event], .ok table) := by
  rw [runAll.eq_def]
  simp only [h]

theorem Server.runAll_next {table : Table} (h : server.answer sent s = .ok table)
    (next : Statement) (rest : List Statement) : server.runAll sent (s :: next :: rest) =
      (s.event :: (server.runAll (sent ++ [s]) (next :: rest)).1,
        (server.runAll (sent ++ [s]) (next :: rest)).2) := by
  rw [runAll.eq_def]
  simp only [h]

/-- A run goes on from statements that were answered to all of the script, or up to the first
statement that fails. -/
theorem Server.plays_runAll (hsent : server.Answers sent) (s : Statement)
    (rest : List Statement) :
    ∃ more outcome, server.runAll sent (s :: rest) = (more.map (·.event), outcome) ∧
      server.Plays (sent ++ s :: rest) (sent ++ more) outcome := by
  induction rest generalizing sent s with
  | nil =>
    cases hs : server.answer sent s with
    | error message => exact ⟨[s], _, runAll_of_error hs [], .cut rfl hsent hs⟩
    | ok table => exact ⟨[s], _, runAll_last hs, .whole rfl hsent hs⟩
  | cons next rest ih =>
    cases hs : server.answer sent s with
    | error message => exact ⟨[s], _, runAll_of_error hs (next :: rest), .cut rfl hsent hs⟩
    | ok table =>
      obtain ⟨more, outcome, hrun, hplays⟩ := ih (hsent.concat hs) next
      rw [List.append_assoc, List.append_assoc] at hplays
      refine ⟨s :: more, outcome, ?_, hplays⟩
      rw [runAll_next hs, hrun, List.map_cons]

theorem Server.Plays.prefix (h : server.Plays statements sent outcome) :
    sent <+: statements := by
  cases h with
  | whole => exact List.prefix_rfl
  | @cut before s rest _ split =>
    exact ⟨rest, by rw [split, List.append_assoc, List.singleton_append]⟩

theorem Server.Plays.answers (h : server.Plays statements sent outcome)
    (hsent : sent = before ++ s :: after) :
    server.Answers before := by
  -- only the last of the statements that were sent can have failed
  obtain ⟨start, last, hsplit, hstart⟩ : ∃ start last,
    sent = start ++ [last] ∧ server.Answers start := by
    cases h with
    | whole split answers => exact ⟨_, _, split, answers⟩
    | cut split answers => exact ⟨_, _, rfl, answers⟩
  have hprefix : before <+: start := by
    refine List.prefix_of_prefix_length_le ⟨s :: after, hsent.symm⟩ ⟨[last], hsplit.symm⟩ ?_
    have hlength := congrArg List.length (hsent.symm.trans hsplit)
    simp only [List.length_append, List.length_cons, List.length_nil] at hlength
    omega
  obtain ⟨rest, rfl⟩ := hprefix
  exact hstart.of_append

theorem Server.Plays.fails {f : Failure} (h : server.Plays statements sent (.error f)) :
    ∃ message, f = .database message := by
  cases h with
  | cut => exact ⟨_, rfl⟩

theorem Server.plays_readOnly (hconnect : server.connect = .ok ()) (timeoutMs : Int)
    (query : String) (parameters : List (String × Json)) :
    ∃ sent outcome, server.Plays (script timeoutMs query parameters) sent outcome ∧
      server.readOnly timeoutMs query parameters =
        (.connect :: sent.map (·.event) ++ [.close], outcome.map (·.records)) := by
  obtain ⟨sent, outcome, hrun, hplays⟩ := plays_runAll server.answers_nil readOnlyMode
    [timeLimit timeoutMs, ⟨query, some parameters⟩]
  refine ⟨sent, outcome, hplays, ?_⟩
  rw [readOnly, hconnect]
  simp only [script, hrun]

/-- The query is the only statement of a transaction with parameters, so only the other two can
stand before it. -/
theorem split_script {timeoutMs : Int} {query : String} {parameters : List (String × Json)}
    {rest : List Statement}
    (h : script timeoutMs query parameters = before ++ ⟨query, some parameters⟩ :: rest) :
    before = [readOnlyMode, timeLimit timeoutMs] := by
  rw [script] at h
  match before, h with
  | [], h => cases h
  | [_], h => cases h
  | [_, _], h => cases h; rfl
  | _ :: _ :: _ :: before, h =>
    have hlength := congrArg List.length h
    simp at hlength

theorem Server.Plays.answers_query {timeoutMs : Int} {query : String}
    {parameters : List (String × Json)}
    (h : server.Plays (script timeoutMs query parameters) sent outcome)
    (hquery : ⟨query, some parameters⟩ ∈ sent) :
    (∃ table, server.answer [] readOnlyMode = .ok table) ∧
      ∃ table, server.answer [readOnlyMode] (timeLimit timeoutMs) = .ok table := by
  obtain ⟨before, after, hsent⟩ := List.append_of_mem hquery
  obtain ⟨rest, hscript⟩ := h.prefix
  rw [hsent, List.append_assoc, List.cons_append] at hscript
  have hanswers := h.answers hsent
  rw [split_script hscript.symm] at hanswers
  exact ⟨hanswers [] _ [timeLimit timeoutMs] rfl, hanswers [readOnlyMode] _ [] rfl⟩

section

variable {c : Catalog} {request : Request} {scope : Scope} {table : String}
  {allowed : List String}

theorem failsOnly_identifier (name : String) :
    FailsOnly (·.IsQueryOn table) (identifier table allowed name) := by
  unfold identifier
  split
  · exact failsOnly_ok name
  · exact failsOnly_error ⟨_, rfl⟩

theorem failsOnly_conditions (index : Nat) (filters : List Filter) :
    FailsOnly (·.IsQueryOn table) (conditions table allowed index filters) := by
  induction filters generalizing index with
  | nil => exact failsOnly_ok []
  | cons f rest ih =>
    refine (failsOnly_identifier f.field).bind fun _ _ => ?_
    exact (ih (index + 1)).bind fun bs _ => failsOnly_ok _

theorem failsOnly_compile (c : Catalog) (request : Request) (scope : Scope) :
    FailsOnly (·.IsQueryOn request.table) (compile c request scope) := by
  have hnames :
      FailsOnly (·.IsQueryOn request.table)
        (forIn request.grouping.fields PUnit.unit fun field _ =>
      identifier request.table c.columnIds field >>= fun _ => .ok (.yield PUnit.unit)) :=
    failsOnly_forIn fun field _ _ => (failsOnly_identifier field).bind fun _ _ => failsOnly_ok _
  unfold compile
  by_cases htable : (c.tables.map (·.2)).contains request.table = true
  · simp only [htable, Bool.not_true, Bool.false_eq_true, ↓reduceIte]
    refine (failsOnly_identifier request.table).bind fun _ _ => hnames.bind fun _ _ => ?_
    refine (failsOnly_identifier request.metric).bind fun _ _ => ?_
    exact (failsOnly_conditions 0 _).bind fun _ _ => failsOnly_ok _
  · simp only [htable]
    exact failsOnly_error ⟨_, rfl⟩

theorem not_isBare_records (records : List Json) :
    ¬ Payload.IsBare (.object [("data", .array records)]) := by
  rintro ⟨members, hwraps, -, hdata⟩
  cases hwraps
  cases hdata

theorem Server.readOnly_fails {timeoutMs : Int} {query : String}
    {parameters : List (String × Json)} {f : Failure}
    (h : (server.readOnly timeoutMs query parameters).2 = .error f) :
    ∃ message, f = .database message := by
  cases hconnect : server.connect with
  | error message =>
    rw [readOnly, hconnect] at h
    exact ⟨message, (Except.error.inj h).symm⟩
  | ok =>
    obtain ⟨sent, outcome, hplays, hrun⟩ := plays_readOnly hconnect timeoutMs query parameters
    rw [hrun] at h
    cases outcome with
    | error f' =>
      cases h
      exact hplays.fails
    | ok table => cases h

theorem Server.aggregate_eq {query : Query} {parameters : List (String × Json)}
    (h : compile c request scope = .ok (query, parameters)) (server : Server)
    (timeoutMs : Int) :
    server.aggregate c timeoutMs request scope =
      ((server.readOnly timeoutMs query.text parameters).1,
        (server.readOnly timeoutMs query.text parameters).2.mapError
          (queryFailure request.table) >>= fun records =>
          Payload.rows request.table (.object [("data", .array records)])) := by
  simp only [aggregate, h]

theorem Server.failsOnly_aggregate (server : Server) (c : Catalog) (timeoutMs : Int)
    (request : Request) (scope : Scope) :
    FailsOnly (·.IsQueryOn request.table) (server.aggregate c timeoutMs request scope).2 := by
  cases hcompile : compile c request scope with
  | error f =>
    simp only [aggregate, hcompile]
    exact failsOnly_error (failsOnly_compile c request scope f hcompile)
  | ok compiled =>
    rw [aggregate_eq hcompile]
    refine FailsOnly.bind ?_
      fun records _ => Payload.failsOnly_rows (not_isBare_records records)
    cases hread : (server.readOnly timeoutMs compiled.1.text compiled.2).2 with
    | ok records => exact failsOnly_ok records
    | error f =>
      obtain ⟨message, rfl⟩ := readOnly_fails hread
      exact failsOnly_error ⟨_, rfl⟩

end

/-- On a connection that was made, the statements of a transaction are sent up to the first that
fails, the query only to a transaction that cannot write and has its time limit, and then the
connection is closed. A failure of the database is one of the request that was asked. -/
theorem transaction_guarded (hconnect : server.connect = .ok ()) (timeoutMs : Int)
    (query : String) (parameters : List (String × Json)) :
    (∃ sent outcome, server.Plays (script timeoutMs query parameters) sent outcome ∧
      server.readOnly timeoutMs query parameters =
        (.connect :: sent.map (·.event) ++ [.close], outcome.map (·.records)) ∧
      (⟨query, some parameters⟩ ∈ sent →
        (∃ table, server.answer [] readOnlyMode = .ok table) ∧
          ∃ table, server.answer [readOnlyMode] (timeLimit timeoutMs) = .ok table)) ∧
    ∀ (c : Catalog) (request : Request) (scope : Scope),
      FailsOnly (·.IsQueryOn request.table) (server.aggregate c timeoutMs request scope).2 ∧
      ∀ compiled bound, compile c request scope = .ok (compiled, bound) →
        (server.aggregate c timeoutMs request scope).1 =
          (server.readOnly timeoutMs compiled.text bound).1 ∧
        ∀ message,
          (server.readOnly timeoutMs compiled.text bound).2 = .error (.database message) →
          (server.aggregate c timeoutMs request scope).2 =
            .error (.query request.table ("SQL execution failed: " ++ message)) := by
  constructor
  · obtain ⟨sent, outcome, hplays, hrun⟩ := Server.plays_readOnly hconnect timeoutMs query
      parameters
    exact ⟨sent, outcome, hplays, hrun, hplays.answers_query⟩
  · intro c request scope
    refine ⟨server.failsOnly_aggregate c timeoutMs request scope,
      fun compiled bound hcompile => ?_⟩
    rw [Server.aggregate_eq hcompile]
    refine ⟨rfl, fun message hfails => ?_⟩
    rw [hfails]
    rfl

def overloaded : Server where
  connect := .ok ()
  answer sent _ :=
    if sent.length < 2 then .ok ⟨[], []⟩
    else .error "canceling statement due to statement timeout"

theorem transaction_guarded_overloaded :
    overloaded.connect = .ok () ∧
      ∃ query bound,
        compile .freight (itemsNamed "drawer" ["TX"]) ⟨some 7⟩ = .ok (query, bound) ∧
        overloaded.aggregate .freight 200 (itemsNamed "drawer" ["TX"]) ⟨some 7⟩ =
          ([.connect, .execute "SET TRANSACTION READ ONLY" none,
            .execute "SET LOCAL statement_timeout = 200" none,
            .execute query.text (some bound), .close],
           .error (.query "shipment_item"
             "SQL execution failed: canceling statement due to statement timeout")) := by
  have hcompiles :
      ∃ query bound, compile .freight (itemsNamed "drawer" ["TX"]) ⟨some 7⟩ =
        .ok (query, bound) :=
    ⟨_, _, rfl⟩
  obtain ⟨query, bound, hquery⟩ := hcompiles
  have hconnect : overloaded.connect = .ok () := rfl
  obtain ⟨-, hrequests⟩ := transaction_guarded hconnect 200 query.text bound
  obtain ⟨-, hfails⟩ := hrequests .freight (itemsNamed "drawer" ["TX"]) ⟨some 7⟩
  obtain ⟨hevents, hresult⟩ := hfails query bound hquery
  exact ⟨hconnect, query, bound, hquery, Prod.ext hevents (hresult _ rfl)⟩

end PromptChart.Sql
