import PromptChart.Catalog.Freight
import PromptChart.Execute.Run
import PromptChart.Proofs.Execute.Plan

namespace PromptChart

theorem collect_of_not_fatal {α : Type} (answer : String → Request → Except Failure α)
    {requests : Entries String Request}
    (h : ∀ trip ∈ requests, ∀ f, answer trip.1 trip.2 = .error f → f.isFatal = false) :
    collect answer requests =
      .ok (requests.filterMap fun trip => (answer trip.1 trip.2).toOption.map (trip.1, ·)) := by
  induction requests with
  | nil => rfl
  | cons trip rest ih =>
    obtain ⟨htrip, hrest⟩ := List.forall_mem_cons.1 h
    cases hanswer : answer trip.1 trip.2 with
    | ok rows =>
      rw [List.filterMap_cons_some (by rw [hanswer]; rfl)]
      simp only [collect, hanswer, ih hrest, map_ok]
    | error f =>
      rw [List.filterMap_cons_none (by rw [hanswer]; rfl), ← ih hrest]
      cases f with
      | query => simp only [collect, hanswer]
      | _ => cases htrip _ hanswer

namespace FanOut

variable {room : Nat} {answer : Request → Answer} {requests trips : Entries String Request}
  {s t : FanOut} {event : Event} {events : List Event}

theorem bound_pos (concurrency : Int) : 0 < bound concurrency := by
  unfold bound
  omega

theorem exists_step (hroom : 0 < room) (h : s.isOver = false) :
    ∃ event t, Step room answer s event t := by
  obtain ⟨pending, underWay, answered⟩ := s
  cases underWay with
  | cons trip rest =>
    exact ⟨_, _, @Step.finish room answer pending [] rest answered trip.1 trip.2⟩
  | nil =>
    cases pending with
    | cons trip rest =>
      exact ⟨_, _, @Step.send room answer [] rest [] answered trip.1 trip.2 hroom⟩
    | nil => cases h

/-- How many steps are still to come: two for a round trip that is pending, one for one that is
under way. -/
def remaining (s : FanOut) : Nat := 2 * s.pending.length + s.underWay.length

theorem Step.remaining_eq (h : Step room answer s event t) : s.remaining = t.remaining + 1 := by
  cases h with
  | send => simp only [remaining, List.length_append, List.length_cons, List.length_nil]; omega
  | finish => simp only [remaining, List.length_append, List.length_cons]; omega

theorem Steps.remaining_eq (h : Steps room answer s events t) :
    s.remaining = t.remaining + events.length := by
  induction h with
  | done => rfl
  | more first _ ih => rw [first.remaining_eq, ih, List.length_cons, Nat.add_assoc]

theorem exists_steps_isOver (hroom : 0 < room) (answer : Request → Answer) (s : FanOut) :
    ∃ events ended, Steps room answer s events ended ∧ ended.isOver = true := by
  induction hremaining : s.remaining using Nat.strongRecOn generalizing s with
  | ind n ih =>
    cases hover : s.isOver with
    | true => exact ⟨[], s, .done, hover⟩
    | false =>
      obtain ⟨event, t, hstep⟩ : ∃ event t, Step room answer s event t :=
        exists_step hroom hover
      have hless : t.remaining < n := by
        rw [← hremaining, hstep.remaining_eq]
        exact Nat.lt_succ_self _
      obtain ⟨events, ended, hsteps, hend⟩ := ih t.remaining hless t rfl
      exact ⟨event :: events, ended, .more hstep hsteps, hend⟩

/-- The round trips sent so far and those that are pending make up all of them, and those sent
so far are under way or have their answers. -/
structure Accounts (room : Nat) (answer : Request → Answer)
    (requests trips : Entries String Request) (s : FanOut) : Prop where
  within : s.underWay.length ≤ room
  all : (trips ++ s.pending).Perm requests
  answers : ∃ ended : Entries String Request,
    s.answered = ended.map (fun trip => (trip.1, answer trip.2)) ∧
      (s.underWay ++ ended).Perm trips

theorem accounts_start (room : Nat) (answer : Request → Answer)
    (requests : Entries String Request) :
    Accounts room answer requests [] (start requests) where
  within := Nat.zero_le room
  all := .refl requests
  answers := ⟨[], rfl, .refl _⟩

theorem Accounts.step (h : Accounts room answer requests trips s)
    (hstep : Step room answer s event t) :
    Accounts room answer requests (trips ++ sent [event]) t := by
  obtain ⟨hwithin, hall, ended, hanswered, hended⟩ := h
  cases hstep with
  | @send before after underWay answered term request free =>
    refine ⟨?_, ?_, ended, hanswered, ?_⟩
    · rw [List.length_append]
      exact free
    · calc trips ++ [(term, request)] ++ (before ++ after)
          = trips ++ (term, request) :: (before ++ after) := List.append_cons .. |>.symm
        _ |>.Perm (trips ++ (before ++ (term, request) :: after)) :=
          List.perm_middle.symm.append_left trips
        _ |>.Perm requests := hall
    · calc underWay ++ [(term, request)] ++ ended
          = underWay ++ (term, request) :: ended := List.append_cons .. |>.symm
        _ |>.Perm ((term, request) :: (underWay ++ ended)) := List.perm_middle
        _ |>.Perm ((term, request) :: trips) := hended.cons _
        _ |>.Perm (trips ++ [(term, request)]) := (List.perm_append_singleton _ _).symm
  | @finish pending before after answered term request =>
    have hsent : trips ++ sent [.answered term] = trips := List.append_nil trips
    rw [hsent]
    refine ⟨?_, hall, (term, request) :: ended, congrArg (_ :: ·) hanswered, ?_⟩
    · simp only [List.length_append, List.length_cons] at hwithin ⊢
      omega
    · calc before ++ after ++ (term, request) :: ended
          |>.Perm ((term, request) :: (before ++ after ++ ended)) := List.perm_middle
        _ = (term, request) :: (before ++ after) ++ ended := rfl
        _ |>.Perm (before ++ (term, request) :: after ++ ended) :=
          List.perm_middle.symm.append_right ended
        _ |>.Perm trips := hended

theorem Accounts.steps (h : Accounts room answer requests trips s)
    (hsteps : Steps room answer s events t) :
    Accounts room answer requests (trips ++ sent events) t := by
  induction hsteps generalizing trips with
  | done => simpa only [sent, List.filterMap_nil, List.append_nil] using h
  | @more s t u event events first rest ih =>
    have hsent : trips ++ sent (event :: events) = trips ++ sent [event] ++ sent events := by
      rw [List.append_assoc, sent, sent, sent, ← List.filterMap_append, List.singleton_append]
    rw [hsent]
    exact ih (h.step first)

theorem Accounts.of_isOver (h : Accounts room answer requests trips s)
    (hover : s.isOver = true) :
    trips.Perm requests ∧ ∃ done : Entries String Request, done.Perm requests ∧
      s.answered = done.map fun trip => (trip.1, answer trip.2) := by
  obtain ⟨-, hall, done, hanswered, hdone⟩ := h
  simp only [isOver, Bool.and_eq_true, List.isEmpty_iff] at hover
  rw [hover.1, List.append_nil] at hall
  rw [hover.2, List.nil_append] at hdone
  exact ⟨hall, done, hdone.trans hall, hanswered⟩

/-- Without a fatal failure the answers are gathered as if they had come in the order of the
requests. -/
theorem Accounts.gathered_eq (h : Accounts room answer requests trips s)
    (hover : s.isOver = true) (hkeys : (requests.map (·.1)).Nodup)
    (hanswers : ∀ trip ∈ requests, ∀ f, answer trip.2 = .error f → f.isFatal = false) :
    s.gathered requests = collect (fun _ request => answer request) requests := by
  obtain ⟨-, done, hdone, hanswered⟩ := h.of_isOver hover
  have hfatal : s.fatal? = none := by
    rw [fatal?, List.findSome?_eq_none_iff]
    intro e he
    rw [List.mem_reverse, hanswered] at he
    obtain ⟨trip, htrip, rfl⟩ := List.mem_map.1 he
    cases hanswer : answer trip.2 with
    | ok rows => rfl
    | error f => simp [hanswers trip (hdone.mem_iff.1 htrip) f hanswer]
  have hrows : ∀ trip ∈ requests, s.answered.get? trip.1 = some (answer trip.2) := by
    intro trip htrip
    apply Entries.get?_of_mem
    · rw [hanswered, List.map_map]
      exact (hdone.map (·.1)).nodup_iff.2 hkeys
    · rw [hanswered]
      exact List.mem_map_of_mem (f := fun trip => (trip.1, answer trip.2))
        (hdone.mem_iff.2 htrip)
  rw [collect_of_not_fatal (fun _ request => answer request) hanswers]
  simp only [gathered, hfatal]
  congr 1
  apply List.filterMap_congr
  intro trip htrip
  rw [hrows trip htrip, Option.bind_some]

/-- However the round trips of distinct terms are interleaved, no more than the bound are under
way, each is sent once, and they go on until all are answered, in two steps each. As long as no
failure is fatal, a comparison or a breakdown then comes to what it comes to with one round trip
after another. -/
theorem schedule_independent {settings : Settings} {store : Store} {scope : Scope}
    {terms : List String} {request : String → Except Failure Request}
    (hrequests : Plan.forTerms terms request = .ok requests)
    (hanswers : ∀ trip ∈ requests, ∀ f, store trip.2 scope = .error f → f.isFatal = false)
    (hsteps : Steps (bound settings.concurrency) (store · scope) (start requests) events s) :
    (s.underWay.length : Int) ≤ max 1 settings.concurrency ∧
    (requests.map (·.1) = Text.distinct terms ∧ (sent events ++ s.pending).Perm requests) ∧
    (events.length ≤ 2 * requests.length ∧
      (s.isOver = false →
        ∃ event t, Step (bound settings.concurrency) (store · scope) s event t)) ∧
    (s.isOver = true → (sent events).Perm requests ∧
      (∀ c range metric (x : Comparison), x.requests c settings range metric = .ok requests →
        (s.gathered requests >>= x.points) =
          (x.run c settings store scope range metric).result) ∧
      ∀ c range (b : Breakdown), b.plan c settings range = .ok (.perTerm requests) →
        (s.gathered requests >>= fun batches => b.merge (b.relabelled batches)) =
          (b.run c settings store scope range).result) := by
  have haccounts := (accounts_start _ _ requests).steps hsteps
  rw [List.nil_append] at haccounts
  have hkeys := Plan.map_fst_of_forTerms hrequests
  have hnodup : (requests.map (·.1)).Nodup := hkeys ▸ Text.nodup_distinct terms
  refine ⟨?_, ⟨hkeys, haccounts.all⟩, ⟨?_, exists_step (bound_pos _)⟩, fun hover => ?_⟩
  · have hwithin := haccounts.within
    unfold bound at hwithin
    omega
  · have hremaining := hsteps.remaining_eq
    simp only [remaining, start, List.length_nil] at hremaining
    omega
  · have hgathered := haccounts.gathered_eq hover hnodup hanswers
    refine ⟨(haccounts.of_isOver hover).1, ?_, ?_⟩
    · intro c range metric x hx
      simp only [Comparison.run, hx, hgathered]
    · intro c range b hb
      simp only [Breakdown.run, hb, Breakdown.answer, hgathered]

def retailOf (term : String) : Request where
  table := "shipment_item"
  grouping := .single "description"
  metric := "retail"
  aggregation := .sum
  filters := [Filter.ofTerm .freight term]
  limit := 100
  limit_pos := Nat.succ_pos 99

def boxlessStore : Store := fun request _ =>
  match request.filters with
  | [⟨_, _, .text "Drawer", _⟩] =>
    .ok [⟨none, none, some "Steel Drawer", some 5, 1⟩, ⟨none, none, some "Drawer Insert",
      some 2, 3⟩]
  | [⟨_, _, .text "CargoGlide", _⟩] => .ok [⟨none, none, some "CargoGlide 1000", some 12, 2⟩]
  | _ => .error (.query request.table "simulated outage")

theorem schedule_independent_boxless :
    let settings : Settings := { Settings.usual with concurrency := 2 }
    let x : Comparison := ⟨["Tool Box", "CargoGlide", "Drawer"], .sum⟩
    let requests := Entries.tabulate x.terms retailOf
    let events : List Event :=
      [.sent "CargoGlide" (retailOf "CargoGlide"), .sent "Tool Box" (retailOf "Tool Box"),
        .answered "Tool Box", .sent "Drawer" (retailOf "Drawer"), .answered "Drawer",
        .answered "CargoGlide"]
    let answer (request : Request) : Answer := boxlessStore request .admin
    let s : FanOut :=
      ⟨[], [], Entries.tabulate ["CargoGlide", "Drawer", "Tool Box"] (answer ∘ retailOf)⟩
    Plan.forTerms x.terms (fun term => .ok (retailOf term)) = .ok requests ∧
      (∀ trip ∈ requests, ∀ f, answer trip.2 = .error f → f.isFatal = false) ∧
      Steps (bound settings.concurrency) answer (start requests) events s ∧ s.isOver = true ∧
      (sent events).Perm requests ∧
      (s.gathered requests >>= x.points) =
        (x.run .freight settings boxlessStore .admin none "retail").result ∧
      (s.gathered requests >>= x.points) = .ok [⟨"CargoGlide", 12⟩, ⟨"Drawer", 7⟩] := by
  intro settings x requests events answer s
  have hrequests : Plan.forTerms x.terms (fun term => .ok (retailOf term)) = .ok requests := rfl
  have hanswers : ∀ trip ∈ requests, ∀ f, answer trip.2 = .error f → f.isFatal = false := by
    simp [requests, x, Entries.tabulate, answer, boxlessStore, retailOf, Filter.ofTerm,
      Failure.isFatal]
  have hsteps : Steps (bound settings.concurrency) answer (start requests) events s := by
    refine .more (@Step.send _ _ [_] [_] [] [] "CargoGlide" _ (by decide)) ?_
    refine .more (@Step.send _ _ [] [_] [_] [] "Tool Box" _ (by decide)) ?_
    refine .more (@Step.finish _ _ [_] [_] [] [] "Tool Box" _) ?_
    refine .more (@Step.send _ _ [] [] [_] [_] "Drawer" _ (by decide)) ?_
    refine .more (@Step.finish _ _ [] [_] [] [_] "Drawer" _) ?_
    exact .more (@Step.finish _ _ [] [] [] [_, _] "CargoGlide" _) .done
  obtain ⟨-, -, -, hover⟩ := schedule_independent hrequests hanswers hsteps
  obtain ⟨hsent, hcomparison, -⟩ := hover rfl
  exact ⟨hrequests, hanswers, hsteps, rfl, hsent,
    hcomparison .freight none "retail" x rfl, by decide +kernel⟩

end FanOut

end PromptChart
