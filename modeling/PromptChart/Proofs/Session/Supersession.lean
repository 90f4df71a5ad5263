import Mathlib.Data.Set.Subsingleton
import PromptChart.Proofs.Session.Invariant

namespace PromptChart

variable {α : Type}

namespace SessionEvent

/-- Is an event other than a run that fails or a caller that gives up? -/
def isOrderly : SessionEvent α → Bool
  | .finish _ (.error _) | .withdraw _ => false
  | _ => true

/-- At some moment of a history two submissions have started and neither has come back. -/
def Overlap (es : List (SessionEvent α)) (p q : Nat) : Prop :=
  ∃ before after, es = before ++ after ∧ p < started before ∧ q < started before ∧
    .resume p ∉ before ∧ .resume q ∉ before

end SessionEvent

open SessionEvent (started started_append Overlap)

def RunState.ended : RunState α → Bool
  | .finished _ | .cancelled => true
  | _ => false

namespace Submission

variable {x y : Submission α} {e : SessionEvent α} {es fs : List (SessionEvent α)}
  {generation place : Nat}

/-- A history accounts for the submission at a place: its run finished there, it was stopped by
a newer one, it came back there. -/
structure IsRecorded (es : List (SessionEvent α)) (place : Nat) (x : Submission α) : Prop where
  finished : ∀ r, x.run = .finished r → .finish place r ∈ es
  stopped : x.run = .cancelRequested ∨ x.run = .cancelled → place + 1 < started es
  returned : x.returned ≠ none → .resume place ∈ es

theorem isRecorded_started (es : List (SessionEvent α)) (place number : Nat) :
    IsRecorded es place ⟨number, .live, none⟩ where
  finished := nofun
  stopped := nofun
  returned h := absurd rfl h

theorem IsRecorded.append (h : x.IsRecorded es place) (fs : List (SessionEvent α)) :
    x.IsRecorded (es ++ fs) place where
  finished r hr := List.mem_append_left fs (h.finished r hr)
  stopped hrun := by
    have := h.stopped hrun
    rw [started_append]
    omega
  returned hreturned := List.mem_append_left fs (h.returned hreturned)

theorem IsRecorded.stop (h : x.IsRecorded es place) (hplace : place + 1 < started es) :
    x.stop.IsRecorded es place where
  finished r hr := by
    unfold Submission.stop at hr
    split at hr
    · cases hr
    · exact h.finished r hr
  stopped _ := hplace
  returned hreturned := h.returned (x.stop_returned ▸ hreturned)

theorem IsRecorded.changes (h : x.IsRecorded es place)
    (hchanges : Changes generation place e x y) (horderly : e.isOrderly = true) :
    y.IsRecorded (es ++ [e]) place := by
  have hx := h.append [e]
  cases hchanges with
  | finish => exact ⟨fun r hr => by cases hr; simp, nofun, hx.returned⟩
  | drop hrun => exact ⟨nofun, fun _ => hx.stopped (.inl hrun), hx.returned⟩
  | resume => exact ⟨hx.finished, hx.stopped, fun _ => by simp⟩
  | withdraw => cases horderly

theorem Changes.returned_eq {r : Returned α} (h : Changes generation place e x y)
    (hr : x.returned = some r) : y.returned = some r := by
  cases h with
  | finish => exact hr
  | drop => exact hr
  | resume hnone => cases hnone.symm.trans hr
  | withdraw hnone => cases hnone.symm.trans hr

theorem IsRecorded.return?_eq {r : Returned α} (h : x.IsRecorded es place)
    (horderly : ∀ e ∈ es, e.isOrderly = true) (hnumber : x.number = place + 1)
    (hplace : place < started es) (hr : x.return? (started es) = some r) :
    if place + 1 < started es then r = .superseded (place + 1)
    else ∃ a, .finish place (.ok a) ∈ es ∧ r = .result a := by
  unfold return? at hr
  rw [hnumber] at hr
  split at hr
  next f hrun => cases horderly _ (h.finished _ hrun)
  next a hrun =>
    obtain rfl := Option.some.inj hr
    split
    next hlt => exact if_neg (Nat.ne_of_lt hlt)
    next hge => exact ⟨a, h.finished _ hrun, if_pos (by omega)⟩
  next hrun =>
    obtain rfl := Option.some.inj hr
    have hlt := h.stopped (.inr hrun)
    rw [if_pos hlt, if_neg (Nat.ne_of_lt hlt)]
  next => cases hr

theorem isSome_return? (x : Submission α) (generation : Nat) :
    (x.return? generation).isSome = x.run.ended := by
  unfold return?
  cases x.run with
  | live => rfl
  | cancelRequested => rfl
  | cancelled => rfl
  | finished result => cases result <;> rfl

end Submission

namespace Session

variable {s t : Session α} {e : SessionEvent α} {es before after : List (SessionEvent α)}
  {place : Nat} {x : Submission α}

theorem isRecorded_step (hordered : s.IsOrdered) (hlength : s.submissions.length = started es)
    (hrecorded : ∀ place (y : Submission α),
      s.submissions[place]? = some y → y.IsRecorded es place)
    (hstep : s.step? e = some t) (horderly : e.isOrderly = true)
    (hx : t.submissions[place]? = some x) :
    x.IsRecorded (es ++ [e]) place := by
  obtain ⟨rfl, rfl⟩ | ⟨other, y, z, hy, hchanges, rfl⟩ := step_cases hstep
  · obtain ⟨-, rfl⟩ | ⟨y, hy, rfl⟩ := getElem?_submit.1 hx
    · exact Submission.isRecorded_started _ _ _
    have hy := (hrecorded place y hy).append [.submit]
    split
    next hcurrent =>
      have hplace := (hordered.current place).1 hcurrent
      have hone : started [(.submit : SessionEvent α)] = 1 := rfl
      apply hy.stop
      rw [started_append]
      omega
    next => exact hy
  · obtain ⟨rfl, rfl⟩ | ⟨-, hx⟩ := (getElem?_set_eq_some hy).1 hx
    · exact (hrecorded _ y hy).changes hchanges horderly
    · exact (hrecorded place x hx).append [e]

theorem isRecorded_steps (h : fresh.steps? es = some s)
    (horderly : ∀ e ∈ es, e.isOrderly = true) (hx : s.submissions[place]? = some x) :
    x.IsRecorded es place := by
  induction es using List.reverseRecOn generalizing s place x with
  | nil =>
    cases h
    cases hx
  | append_singleton es e ih =>
    rw [steps?_concat] at h
    obtain ⟨t, ht, hstep⟩ := Option.bind_eq_some_iff.1 h
    obtain ⟨hordered, hlength⟩ := isOrdered_steps ht
    have hrecorded (place : Nat) (y : Submission α) (hy : t.submissions[place]? = some y) :
        y.IsRecorded es place := ih ht (fun f hf => horderly f (List.mem_append_left _ hf)) hy
    exact isRecorded_step hordered hlength hrecorded hstep (horderly e (by simp)) hx

/-- The submission at a place has come back, with `r`. -/
def CameBack (s : Session α) (place : Nat) (r : Returned α) : Prop :=
  ∃ x, s.submissions[place]? = some x ∧ x.returned = some r

theorem CameBack.unique {r r' : Returned α} (h : s.CameBack place r)
    (h' : s.CameBack place r') :
    r = r' := by
  obtain ⟨x, hx, hr⟩ := h
  obtain ⟨y, hy, hr'⟩ := h'
  cases hx.symm.trans hy
  exact Option.some.inj (hr.symm.trans hr')

theorem CameBack.step {r : Returned α} (h : s.CameBack place r) (hstep : s.step? e = some t) :
    t.CameBack place r := by
  obtain ⟨x, hx, hr⟩ := h
  obtain ⟨-, rfl⟩ | ⟨other, y, z, hy, hchanges, rfl⟩ := step_cases hstep
  · refine ⟨_, getElem?_submit.2 (.inr ⟨x, hx, rfl⟩), ?_⟩
    split
    · rw [x.stop_returned, hr]
    · exact hr
  by_cases heq : place = other
  · subst heq
    cases hx.symm.trans hy
    exact ⟨z, (getElem?_set_eq_some hy).2 (.inl ⟨rfl, rfl⟩), hchanges.returned_eq hr⟩
  · exact ⟨x, (getElem?_set_eq_some hy).2 (.inr ⟨heq, hx⟩), hr⟩

theorem CameBack.steps {r : Returned α} (h : s.CameBack place r)
    (hsteps : s.steps? es = some t) :
    t.CameBack place r := by
  induction es generalizing s with
  | nil =>
    cases hsteps
    exact h
  | cons e es ih =>
    obtain ⟨u, hu, hsteps⟩ := Option.bind_eq_some_iff.1 hsteps
    exact ih (h.step hu) hsteps

/-- The submission that an event brings back has its own result unless a newer one has
started. -/
theorem cameBack_resume (h : fresh.steps? before = some s)
    (horderly : ∀ e ∈ before, e.isOrderly = true) (hstep : s.step? (.resume place) = some t) :
    if place + 1 < started before then t.CameBack place (.superseded (place + 1))
    else ∃ a, .finish place (.ok a) ∈ before ∧ t.CameBack place (.result a) := by
  obtain ⟨hordered, hlength⟩ := isOrdered_steps h
  obtain ⟨hsubmit, -⟩ | ⟨other, x, y, hx, hchanges, rfl⟩ := step_cases hstep
  · cases hsubmit
  cases hchanges with
  | @resume x r hnone hr =>
    rw [hordered.generation, hlength] at hr
    have hplace : place < started before := hlength ▸ (List.getElem?_eq_some_iff.1 hx).1
    have hreturn := (isRecorded_steps h horderly hx).return?_eq horderly
      (hordered.number place x hx) hplace hr
    have hback :
        CameBack { s with submissions := s.submissions.set place { x with returned := some r } }
        place r := ⟨_, (getElem?_set_eq_some hx).2 (.inl ⟨rfl, rfl⟩), rfl⟩
    split at hreturn
    next hlt => rwa [if_pos hlt, ← hreturn]
    next hge =>
      rw [if_neg hge]
      obtain ⟨a, ha, rfl⟩ := hreturn
      exact ⟨a, ha, hback⟩

theorem cameBack_of_mem (h : fresh.steps? es = some s) (horderly : ∀ e ∈ es, e.isOrderly = true)
    (hes : es = before ++ .resume place :: after) :
    if place + 1 < started before then s.CameBack place (.superseded (place + 1))
    else ∃ a, .finish place (.ok a) ∈ before ∧ s.CameBack place (.result a) := by
  subst hes
  rw [steps?_append] at h
  obtain ⟨t, ht, h⟩ := Option.bind_eq_some_iff.1 h
  obtain ⟨u, hu, hafter⟩ := Option.bind_eq_some_iff.1 h
  have hback := cameBack_resume ht (fun e he => horderly e (List.mem_append_left _ he)) hu
  split at hback
  next hlt =>
    rw [if_pos hlt]
    exact hback.steps hafter
  next hge =>
    rw [if_neg hge]
    obtain ⟨a, ha, hback⟩ := hback
    exact ⟨a, ha, hback.steps hafter⟩

theorem resume_mem (h : fresh.steps? es = some s) (horderly : ∀ e ∈ es, e.isOrderly = true)
    {r : Returned α} (hback : s.CameBack place r) : .resume place ∈ es := by
  obtain ⟨x, hx, hr⟩ := hback
  exact (isRecorded_steps h horderly hx).returned (hr ▸ nofun)

/-- A submission with a result of its own came back before a newer one started. -/
theorem not_overtaken (h : fresh.steps? es = some s) (horderly : ∀ e ∈ es, e.isOrderly = true)
    {a : α} (hback : s.CameBack place (.result a)) :
    ∃ before after, es = before ++ .resume place :: after ∧ started before ≤ place + 1 := by
  obtain ⟨before, after, hes⟩ := List.append_of_mem (resume_mem h horderly hback)
  refine ⟨before, after, hes, Nat.le_of_not_lt fun hlt => ?_⟩
  have hsuperseded := cameBack_of_mem h horderly hes
  rw [if_pos hlt] at hsuperseded
  cases hback.unique hsuperseded

theorem not_superseded_last (h : fresh.steps? es = some s)
    (horderly : ∀ e ∈ es, e.isOrderly = true) (hlast : place + 1 = started es) (n : Nat) :
    ¬ s.CameBack place (.superseded n) := by
  intro hback
  obtain ⟨before, after, hes⟩ := List.append_of_mem (resume_mem h horderly hback)
  have hresult := cameBack_of_mem h horderly hes
  have hstarted : started es = started before + started (.resume place :: after) :=
    hes ▸ started_append _ _
  rw [if_neg (by omega)] at hresult
  obtain ⟨a, -, hresult⟩ := hresult
  cases hback.unique hresult

theorem not_overlap {p q : Nat} {a : α} (h : fresh.steps? es = some s)
    (horderly : ∀ e ∈ es, e.isOrderly = true) (hpq : p < q) (hback : s.CameBack p (.result a)) :
    ¬ Overlap es p q := by
  rintro ⟨both, rest, hboth, -, hq, hp, -⟩
  obtain ⟨before, after, hes, hstarted⟩ := not_overtaken h horderly hback
  -- `p` has not come back when both have started, so they both start before it does
  have hle : started both ≤ started before := by
    obtain ⟨mid, rfl, -⟩ | ⟨mid, rfl, hmid⟩ :=
      List.append_eq_append_iff.1 (hboth.symm.trans hes)
    · simp [started_append]
    cases mid with
    | nil => simp
    | cons e mid =>
      cases hmid
      exact absurd (by simp) hp
  omega

theorem subsingleton_result (h : fresh.steps? es = some s)
    (horderly : ∀ e ∈ es, e.isOrderly = true) {places : Set Nat}
    (hplaces : places.Pairwise (Overlap es)) :
    {p ∈ places | ∃ a, s.CameBack p (.result a)}.Subsingleton := by
  rintro p ⟨hp, a, hpback⟩ q ⟨hq, b, hqback⟩
  obtain hlt | heq | hgt := Nat.lt_trichotomy p q
  · exact absurd (hplaces hp hq hlt.ne) (not_overlap h horderly hlt hpback)
  · exact heq
  · exact absurd (hplaces hq hp hgt.ne) (not_overlap h horderly hgt hqback)

theorem isSome_resume (hx : s.submissions[place]? = some x) (hnone : x.returned = none)
    (hended : x.run.ended = true) : (s.step? (.resume place)).isSome = true := by
  obtain ⟨r, hr⟩ := Option.isSome_iff_exists.1 ((x.isSome_return? s.generation).trans hended)
  have hresume : x.resume? s.generation = some { x with returned := some r } := by
    simp [Submission.resume?, hnone, hr]
  exact Option.isSome_iff_exists.2 ⟨_, update?_eq_some.2 ⟨x, _, hx, hresume, rfl⟩⟩

/-- In an orderly history a submission that comes back has the result of its own run unless a
newer one has started, and then it is superseded; the newest one never is, and of those that
overlap at most one has a result. -/
theorem result_or_superseded (h : fresh.steps? es = some s)
    (horderly : ∀ e ∈ es, e.isOrderly = true) :
    (∀ before place after, es = before ++ .resume place :: after →
      if place + 1 < started before then s.CameBack place (.superseded (place + 1))
      else ∃ a, .finish place (.ok a) ∈ before ∧ s.CameBack place (.result a)) ∧
    (∀ place r, s.CameBack place r → .resume place ∈ es) ∧
    (∀ place x, s.submissions[place]? = some x → x.returned = none → x.run.ended = true →
      (s.step? (.resume place)).isSome = true) ∧
    (∀ place n, place + 1 = started es → ¬ s.CameBack place (.superseded n)) ∧
    ∀ places : Set Nat, places.Pairwise (Overlap es) →
      {place ∈ places | ∃ a, s.CameBack place (.result a)}.Subsingleton :=
  ⟨fun _ _ _ hes => cameBack_of_mem h horderly hes,
    fun _ _ hback => resume_mem h horderly hback,
    fun _ _ hx hnone hended => isSome_resume hx hnone hended,
    fun _ n hlast => not_superseded_last h horderly hlast n,
    fun _ hplaces => subsingleton_result h horderly hplaces⟩

theorem result_or_superseded_of_two :
    let es : List (SessionEvent String) :=
      [.submit, .finish 0 (.ok "first"), .submit, .resume 0, .finish 1 (.ok "second"),
        .resume 1]
    let s : Session String := ⟨2, some 1,
      [⟨1, .finished (.ok "first"), some (.superseded 1)⟩,
        ⟨2, .finished (.ok "second"), some (.result "second")⟩]⟩
    fresh.steps? es = some s ∧ (∀ e ∈ es, e.isOrderly = true) ∧ s.CameBack 0 (.superseded 1) ∧
      ∃ a, .finish 1 (.ok a) ∈ es.take 5 ∧ s.CameBack 1 (.result a) := by
  intro es s
  have h : fresh.steps? es = some s := rfl
  have horderly : ∀ e ∈ es, e.isOrderly = true := by decide
  obtain ⟨hresume, -⟩ := result_or_superseded h horderly
  exact ⟨h, horderly, hresume (es.take 3) 0 (es.drop 4) rfl, hresume (es.take 5) 1 [] rfl⟩

end Session

end PromptChart
