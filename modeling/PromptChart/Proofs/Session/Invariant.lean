import Mathlib.Data.List.Induction
import PromptChart.Session.Basic

namespace PromptChart

variable {α : Type}

namespace SessionEvent

def isSubmit : SessionEvent α → Bool
  | .submit => true
  | _ => false

def started (es : List (SessionEvent α)) : Nat := es.countP isSubmit

theorem started_append (es fs : List (SessionEvent α)) :
    started (es ++ fs) = started es + started fs := List.countP_append

end SessionEvent

/-- How an event at the place of a submission changes it, under the number of the newest
submission. -/
inductive Submission.Changes (generation place : Nat) :
    SessionEvent α → Submission α → Submission α → Prop
  | finish {x : Submission α} {result} (h : x.run = .live ∨ x.run = .cancelRequested) :
    Changes generation place (.finish place result) x { x with run := .finished result }
  | drop {x : Submission α} (h : x.run = .cancelRequested) :
    Changes generation place (.drop place) x { x with run := .cancelled }
  | resume {x : Submission α} {r} (hreturned : x.returned = none)
      (h : x.return? generation = some r) :
    Changes generation place (.resume place) x { x with returned := some r }
  | withdraw {x : Submission α} {run} (hreturned : x.returned = none)
      (h : run = .cancelRequested ∨ run = .cancelled) :
    Changes generation place (.withdraw place) x { x with run }

namespace Submission

variable {x y : Submission α} {e : SessionEvent α} {generation place : Nat}

@[simp] theorem stop_number (x : Submission α) : x.stop.number = x.number := by
  unfold stop
  split <;> rfl

@[simp] theorem stop_returned (x : Submission α) : x.stop.returned = x.returned := by
  unfold stop
  split <;> rfl

theorem stop_run_ne_live (x : Submission α) : x.stop.run ≠ .live := by
  unfold stop
  split
  · exact nofun
  next hrun => exact hrun

theorem Changes.number_eq (h : Changes generation place e x y) : y.number = x.number := by
  cases h <;> rfl

theorem Changes.live_of_live (h : Changes generation place e x y) (hy : y.run = .live) :
    x.run = .live := by
  cases h with
  | finish => cases hy
  | drop => cases hy
  | resume => exact hy
  | withdraw _ hrun => obtain rfl | rfl := hrun <;> cases hy

end Submission

namespace Session

open SessionEvent (started)

variable {s t : Session α} {e : SessionEvent α} {es fs : List (SessionEvent α)} {place : Nat}
  {x : Submission α}

theorem steps?_append (s : Session α) (es fs : List (SessionEvent α)) :
    s.steps? (es ++ fs) = (s.steps? es).bind fun t => t.steps? fs := List.foldlM_append

theorem steps?_concat (s : Session α) (es : List (SessionEvent α)) (e : SessionEvent α) :
    s.steps? (es ++ [e]) = (s.steps? es).bind fun t => t.step? e := by
  rw [steps?_append]
  congr 1
  funext t
  simp [steps?]

theorem update?_eq_some {f : Submission α → Option (Submission α)} :
    s.update? place f = some t ↔ ∃ x y, s.submissions[place]? = some x ∧ f x = some y ∧
      t = { s with submissions := s.submissions.set place y } := by
  simp only [update?, Option.bind_eq_bind, Option.bind_eq_some_iff, Option.pure_def,
    Option.some.injEq]
  constructor
  · rintro ⟨x, hx, y, hy, rfl⟩
    exact ⟨x, y, hx, hy, rfl⟩
  · rintro ⟨x, y, hx, hy, rfl⟩
    exact ⟨x, hx, y, hy, rfl⟩

theorem step_cases (h : s.step? e = some t) :
    (e = .submit ∧ t = s.submit) ∨ ∃ place x y, s.submissions[place]? = some x ∧
      Submission.Changes s.generation place e x y ∧
      t = { s with submissions := s.submissions.set place y } := by
  cases e with
  | submit => exact .inl ⟨rfl, (Option.some.inj h).symm⟩
  | finish place result =>
    obtain ⟨x, y, hx, hy, rfl⟩ := update?_eq_some.1 h
    refine .inr ⟨place, x, y, hx, ?_, rfl⟩
    unfold Submission.finish? at hy
    split at hy <;> cases hy
    next hrun => exact .finish (.inl hrun)
    next hrun => exact .finish (.inr hrun)
  | drop place =>
    obtain ⟨x, y, hx, hy, rfl⟩ := update?_eq_some.1 h
    refine .inr ⟨place, x, y, hx, ?_, rfl⟩
    unfold Submission.drop? at hy
    split at hy <;> cases hy
    next hrun => exact .drop hrun
  | resume place =>
    obtain ⟨x, y, hx, hy, rfl⟩ := update?_eq_some.1 h
    refine .inr ⟨place, x, y, hx, ?_, rfl⟩
    unfold Submission.resume? at hy
    split at hy
    · cases hy
    next hreturned =>
      obtain ⟨r, hr, rfl⟩ := Option.map_eq_some_iff.1 hy
      exact .resume hreturned hr
  | withdraw place =>
    obtain ⟨x, y, hx, hy, rfl⟩ := update?_eq_some.1 h
    refine .inr ⟨place, x, y, hx, ?_, rfl⟩
    unfold Submission.withdraw? at hy
    split at hy <;> cases hy
    next hreturned _ => exact .withdraw hreturned (.inl rfl)
    next hreturned _ => exact .withdraw hreturned (.inl rfl)
    next hreturned _ => exact .withdraw hreturned (.inr rfl)
    next hreturned _ => exact .withdraw hreturned (.inr rfl)

theorem submissions_submit (s : Session α) :
    s.submit.submissions =
      s.submissions.mapIdx (fun place x => if s.current = some place then x.stop else x) ++
        [⟨s.generation + 1, .live, none⟩] := by
  refine congrArg (· ++ _) (List.ext_getElem? fun place => ?_)
  cases s.current with
  | none => simp
  | some kept => simp [List.getElem?_modify]

theorem length_submit (s : Session α) :
    s.submit.submissions.length = s.submissions.length + 1 := by
  simp [submissions_submit]

theorem getElem?_submit :
    s.submit.submissions[place]? = some x ↔
      (place = s.submissions.length ∧ x = ⟨s.generation + 1, .live, none⟩) ∨
      ∃ y, s.submissions[place]? = some y ∧
        x = if s.current = some place then y.stop else y := by
  rw [submissions_submit, List.getElem?_append, List.length_mapIdx]
  split
  next hlt =>
    simp only [List.getElem?_mapIdx, Option.map_eq_some_iff, Nat.ne_of_lt hlt, false_and,
      false_or]
    exact exists_congr fun y => and_congr_right fun _ => eq_comm
  next hge =>
    have hle : s.submissions.length ≤ place := Nat.le_of_not_lt hge
    simp only [List.getElem?_eq_none hle, reduceCtorEq, false_and, exists_false, or_false,
      List.getElem?_singleton, Nat.sub_eq_zero_iff_le]
    split
    next hge => simp [Nat.le_antisymm hge hle, eq_comm]
    next hgt => simp only [reduceCtorEq, false_iff, not_and]; omega

theorem getElem?_set_eq_some {y z : Submission α} {other : Nat}
    (hx : s.submissions[place]? = some x) :
    (s.submissions.set place y)[other]? = some z ↔
      (other = place ∧ z = y) ∨ (other ≠ place ∧ s.submissions[other]? = some z) := by
  have hplace : place < s.submissions.length := (List.getElem?_eq_some_iff.1 hx).1
  by_cases heq : other = place
  · subst heq
    simp [List.getElem?_set_self hplace, eq_comm]
  · simp [List.getElem?_set_ne (Ne.symm heq), heq]

/-- Submissions are numbered in their order, the run that is kept is the newest one's, and no
other is live. -/
structure IsOrdered (s : Session α) : Prop where
  generation : s.generation = s.submissions.length
  current : ∀ place, s.current = some place ↔ place + 1 = s.submissions.length
  number : ∀ place x, s.submissions[place]? = some x → x.number = place + 1
  live : ∀ place x, s.submissions[place]? = some x → x.run = .live → s.current = some place

theorem isOrdered_fresh : (fresh : Session α).IsOrdered where
  generation := rfl
  current place := ⟨nofun, nofun⟩
  number place x hx := by simp [fresh] at hx
  live place x hx := by simp [fresh] at hx

theorem IsOrdered.submit (h : s.IsOrdered) : s.submit.IsOrdered where
  generation := by rw [length_submit, ← h.generation]; rfl
  current place := by
    rw [length_submit]
    simp only [Session.submit, Option.some.injEq]
    omega
  number place x hx := by
    obtain ⟨rfl, rfl⟩ | ⟨y, hy, rfl⟩ := getElem?_submit.1 hx
    · simp [h.generation]
    · split <;> simp [h.number place y hy]
  live place x hx hlive := by
    obtain ⟨rfl, -⟩ | ⟨y, hy, rfl⟩ := getElem?_submit.1 hx
    · rfl
    split at hlive
    · exact absurd hlive y.stop_run_ne_live
    next hcurrent => exact absurd (h.live place y hy hlive) hcurrent

theorem IsOrdered.set {y : Submission α} (h : s.IsOrdered) (hx : s.submissions[place]? = some x)
    (hy : Submission.Changes s.generation place e x y) :
    IsOrdered { s with submissions := s.submissions.set place y } where
  generation := by simpa using h.generation
  current other := by simpa using h.current other
  number other z hz := by
    obtain ⟨rfl, rfl⟩ | ⟨-, hz⟩ := (getElem?_set_eq_some hx).1 hz
    · rw [hy.number_eq, h.number _ x hx]
    · exact h.number other z hz
  live other z hz hlive := by
    obtain ⟨rfl, rfl⟩ | ⟨-, hz⟩ := (getElem?_set_eq_some hx).1 hz
    · exact h.live _ x hx (hy.live_of_live hlive)
    · exact h.live other z hz hlive

theorem IsOrdered.step (h : s.IsOrdered) (hstep : s.step? e = some t) : t.IsOrdered := by
  obtain ⟨-, rfl⟩ | ⟨place, x, y, hx, hy, rfl⟩ := step_cases hstep
  · exact h.submit
  · exact h.set hx hy

theorem length_step (hstep : s.step? e = some t) :
    t.submissions.length = s.submissions.length + started [e] := by
  obtain ⟨rfl, rfl⟩ | ⟨place, x, y, -, hy, rfl⟩ := step_cases hstep
  · exact length_submit s
  · cases hy <;> simp [started, SessionEvent.isSubmit]

theorem isOrdered_steps (h : fresh.steps? es = some s) :
    s.IsOrdered ∧ s.submissions.length = started es := by
  induction es using List.reverseRecOn generalizing s with
  | nil =>
    cases h
    exact ⟨isOrdered_fresh, rfl⟩
  | append_singleton es e ih =>
    rw [steps?_concat] at h
    obtain ⟨t, ht, hstep⟩ := Option.bind_eq_some_iff.1 h
    obtain ⟨hordered, hlength⟩ := ih ht
    refine ⟨hordered.step hstep, ?_⟩
    rw [length_step hstep, hlength, SessionEvent.started_append]

/-- After any history a session's number counts the submissions, the run that it keeps is the
newest one's, and that one alone may be live. -/
theorem generation_current_live (h : fresh.steps? es = some s) :
    s.generation = started es ∧ s.submissions.length = started es ∧
      (∀ place, s.current = some place ↔ place + 1 = started es) ∧
      ∀ place x, s.submissions[place]? = some x →
        x.number = place + 1 ∧ (x.run = .live → s.current = some place) := by
  obtain ⟨hordered, hlength⟩ := isOrdered_steps h
  rw [← hlength]
  exact ⟨hordered.generation, rfl, hordered.current,
    fun place x hx => ⟨hordered.number place x hx, hordered.live place x hx⟩⟩

theorem generation_current_live_of_three :
    let es : List (SessionEvent String) :=
      [.submit, .submit, .drop 0, .finish 1 (.ok "second"), .submit, .resume 0]
    let s : Session String := ⟨3, some 2,
      [⟨1, .cancelled, some (.superseded 1)⟩, ⟨2, .finished (.ok "second"), none⟩,
        ⟨3, .live, none⟩]⟩
    fresh.steps? es = some s ∧ s.generation = 3 ∧ s.submissions.length = 3 ∧
      (∀ place, s.current = some place ↔ place + 1 = 3) ∧
      ∀ place x, s.submissions[place]? = some x →
        x.number = place + 1 ∧ (x.run = .live → s.current = some place) := by
  intro es s
  have h : fresh.steps? es = some s := rfl
  exact ⟨h, generation_current_live h⟩

end Session

end PromptChart
