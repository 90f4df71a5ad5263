import PromptChart.Proofs.Session.Supersession
import PromptChart.Session.Desk

namespace PromptChart

namespace Session

variable {α : Type} {kind : SessionEvent α → Prop} {s t u : Session α} {e : SessionEvent α}

/-- A session comes from another one by events of a kind. -/
def Leads (kind : SessionEvent α → Prop) (s t : Session α) : Prop :=
  ∃ es, s.steps? es = some t ∧ ∀ e ∈ es, kind e

theorem Leads.refl (s : Session α) : Leads kind s s := ⟨[], rfl, nofun⟩

theorem Leads.trans (h : Leads kind s t) (h' : Leads kind t u) : Leads kind s u := by
  obtain ⟨es, hes, hkind⟩ := h
  obtain ⟨fs, hfs, hkind'⟩ := h'
  refine ⟨es ++ fs, ?_, fun e he => (List.mem_append.1 he).elim (hkind e) (hkind' e)⟩
  rw [steps?_append, hes, Option.bind_some, hfs]

theorem leads_after (he : kind e) : Leads kind s (s.after e) := by
  rw [after]
  cases hstep : s.step? e with
  | none => exact .refl s
  | some t =>
    refine ⟨[e], ?_, fun f hf => List.mem_singleton.1 hf ▸ he⟩
    have hsteps := steps?_concat s [] e
    rw [List.nil_append] at hsteps
    rw [hsteps]
    exact hstep

theorem leads_foldl {event : Nat → SessionEvent α} (h : ∀ place, kind (event place))
    (places : List Nat) :
    Leads kind s (places.foldl (fun s place => s.after (event place)) s) := by
  induction places generalizing s with
  | nil => exact .refl s
  | cons place places ih => exact (leads_after (h place)).trans ih

end Session

namespace Desk

variable {a : Analyst} {actions : List DeskAction} {d : Desk} {p : String × Prompted}

/-- What can happen in the session of a desk: a run finishes with the answer to a prompt that
was handed in, and a caller gives up only by an action. -/
inductive Happens (a : Analyst) (actions : List DeskAction) : SessionEvent Chart → Prop where
  | submit : Happens a actions .submit
  | finish {id : String} {p : Prompted} {together : Bool} (place : Nat)
      (h : .start id p together ∈ actions) :
      Happens a actions (.finish place (a.ask p.scope p.range none p.prompt).chart)
  | drop (place : Nat) : Happens a actions (.drop place)
  | resume (place : Nat) : Happens a actions (.resume place)
  | withdraw {id : String} (place : Nat) (h : .cancel id ∈ actions) :
      Happens a actions (.withdraw place)

/-- A desk at which no more has happened than its actions allow. -/
structure IsLed (a : Analyst) (actions : List DeskAction) (d : Desk) : Prop where
  analyst : d.analyst = a
  session : Session.Leads (Happens a actions) .fresh d.session
  waiting : ∀ p ∈ d.waiting, ∃ together, .start p.1 p.2 together ∈ actions
  work : ∀ w ∈ d.work, ∃ id p together, .start id p together ∈ actions ∧
    w.inquiry = a.ask p.scope p.range none p.prompt

theorem isLed_ofAnalyst (a : Analyst) (actions : List DeskAction) :
    IsLed a actions (ofAnalyst a) where
  analyst := rfl
  session := .refl _
  waiting _ hp := absurd hp List.not_mem_nil
  work w hw := absurd hw (Option.not_mem_none w)

theorem IsLed.submit (h : IsLed a actions d)
    (hp : ∃ together, .start p.1 p.2 together ∈ actions) :
    IsLed a actions (d.submit p) where
  analyst := h.analyst
  session := h.session.trans ⟨[.submit], rfl, fun e he => List.mem_singleton.1 he ▸ .submit⟩
  waiting := h.waiting
  work w hw := by
    obtain rfl := Option.mem_some_iff.1 hw
    obtain ⟨together, hstart⟩ := hp
    exact ⟨p.1, p.2, together, hstart, by rw [h.analyst]⟩

theorem IsLed.submitAll (h : IsLed a actions d) : IsLed a actions d.submitAll := by
  have hfold {waiting : List (String × Prompted)} {d : Desk} (hd : IsLed a actions d)
      (hwaiting : ∀ p ∈ waiting, ∃ together, .start p.1 p.2 together ∈ actions) :
      IsLed a actions (waiting.foldl Desk.submit d) := by
    induction waiting generalizing d with
    | nil => exact hd
    | cons p waiting ih =>
      obtain ⟨hp, hrest⟩ := List.forall_mem_cons.1 hwaiting
      exact ih (hd.submit hp) hrest
  exact hfold ⟨h.analyst, h.session, fun _ hp => absurd hp List.not_mem_nil, h.work⟩ h.waiting

theorem IsLed.advance (h : IsLed a actions d) : IsLed a actions d.advance := by
  rw [Desk.advance]
  split
  next w place hw _ =>
    obtain ⟨id, p, together, hstart, hinquiry⟩ := h.work w hw
    dsimp only
    split
    · refine ⟨h.analyst, h.session.trans (Session.leads_after ?_), h.waiting,
        fun v hv => absurd hv (Option.not_mem_none v)⟩
      rw [hinquiry]
      exact .finish place hstart
    · refine ⟨h.analyst, h.session, h.waiting, fun v hv => ?_⟩
      obtain rfl := Option.mem_some_iff.1 hv
      exact ⟨id, p, together, hstart, hinquiry⟩
  next => exact h

theorem IsLed.comeBack (h : IsLed a actions d) : IsLed a actions d.comeBack where
  analyst := h.analyst
  session :=
    (h.session.trans (Session.leads_foldl .drop _)).trans (Session.leads_foldl .resume _)
  waiting := h.waiting
  work := h.work

theorem IsLed.settle (h : IsLed a actions d) : IsLed a actions d.settle :=
  h.submitAll.advance.comeBack

theorem IsLed.cancel {id : String} (h : IsLed a actions d) (hcancel : .cancel id ∈ actions) :
    IsLed a actions (d.cancel id) := by
  rw [Desk.cancel]
  split
  next =>
    exact ⟨h.analyst, h.session, fun p hp => h.waiting p (List.mem_filter.1 hp).1, h.work⟩
  next place _ =>
    refine ⟨h.analyst, h.session.trans (Session.leads_after (.withdraw place hcancel)),
      h.waiting, ?_⟩
    intro w hw
    dsimp only at hw
    split at hw
    · exact absurd hw (Option.not_mem_none w)
    · exact h.work w hw
  next => exact h

theorem IsLed.act {action : DeskAction} (h : IsLed a actions d) (haction : action ∈ actions) :
    IsLed a actions (d.act action) := by
  have hgate (isOpen : Bool) : IsLed a actions { d with gateOpen := isOpen } :=
    ⟨h.analyst, h.session, h.waiting, h.work⟩
  cases action with
  | openGate => exact (hgate true).settle
  | closeGate => exact (hgate false).settle
  | start id p together =>
    have hstarted : IsLed a actions
        { d with waiting := d.waiting ++ [(id, p)], tickets := d.tickets.put id .waiting } := by
      refine ⟨h.analyst, h.session, fun q hq => ?_, h.work⟩
      obtain hq | hq := List.mem_append.1 hq
      · exact h.waiting q hq
      · obtain rfl := List.mem_singleton.1 hq
        exact ⟨together, haction⟩
    rw [Desk.act]
    split
    · exact hstarted
    · exact hstarted.settle
  | cancel id => exact (h.cancel haction).settle

theorem IsLed.foldl {taken : List DeskAction} (h : IsLed a actions d)
    (htaken : taken ⊆ actions) :
    IsLed a actions (taken.foldl Desk.act d) := by
  induction taken generalizing d with
  | nil => exact h
  | cons action taken ih =>
    obtain ⟨haction, hrest⟩ := List.cons_subset.1 htaken
    exact ih (h.act haction) hrest

/-- Whatever is done at a desk, its session comes from a fresh one by events that can happen one
after another. -/
theorem exists_steps (a : Analyst) (actions : List DeskAction) :
    ∃ es, Session.fresh.steps? es = some (actions.foldl act (ofAnalyst a)).session ∧
      ∀ e ∈ es, Happens a actions e :=
  ((isLed_ofAnalyst a actions).foldl (List.Subset.refl actions)).session

/-- Where no caller gives up and every prompt gets a chart, the history of a desk is orderly. -/
theorem exists_orderly_steps (hcancel : ∀ id, .cancel id ∉ actions)
    (hchart : ∀ id p together, .start id p together ∈ actions →
      ∃ chart, (a.ask p.scope p.range none p.prompt).chart = .ok chart) :
    ∃ es, Session.fresh.steps? es = some (actions.foldl act (ofAnalyst a)).session ∧
      ∀ e ∈ es, e.isOrderly = true := by
  obtain ⟨es, hsteps, hes⟩ := exists_steps a actions
  refine ⟨es, hsteps, fun e he => ?_⟩
  cases hes e he with
  | submit | drop | resume => rfl
  | finish place hstart =>
    obtain ⟨chart, hok⟩ := hchart _ _ _ hstart
    rw [hok]
    rfl
  | withdraw place h => exact absurd h (hcancel _)

end Desk

end PromptChart
