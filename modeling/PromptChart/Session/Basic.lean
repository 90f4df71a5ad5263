import PromptChart.Failure

namespace PromptChart

/-- How far the run of a submission is. A run that is to be cancelled may still be at work. -/
inductive RunState (α : Type) where
  | live
  | cancelRequested
  | finished (result : Except Failure α)
  | cancelled

/-- What a submission comes back with. -/
inductive Returned (α : Type) where
  | result (a : α)
  | failed (f : Failure)
  | superseded (number : Nat)
  | cancelled

/-- A submission waits for its run until it comes back. -/
structure Submission (α : Type) where
  number : Nat
  run : RunState α
  returned : Option (Returned α)

namespace Submission

variable {α : Type}

def stop (x : Submission α) : Submission α :=
  match x.run with
  | .live => { x with run := .cancelRequested }
  | _ => x

def finish? (result : Except Failure α) (x : Submission α) : Option (Submission α) :=
  match x.run with
  | .live | .cancelRequested => some { x with run := .finished result }
  | _ => none

def drop? (x : Submission α) : Option (Submission α) :=
  match x.run with
  | .cancelRequested => some { x with run := .cancelled }
  | _ => none

/-- The caller gives up: a run at work is to be cancelled, and one that has ended is no longer
waited for. -/
def withdraw? (x : Submission α) : Option (Submission α) :=
  match x.returned, x.run with
  | some _, _ => none
  | none, .live | none, .cancelRequested => some { x with run := .cancelRequested }
  | none, .finished _ | none, .cancelled => some { x with run := .cancelled }

/-- What a submission comes back with, once its run has ended. -/
def return? (generation : Nat) (x : Submission α) : Option (Returned α) :=
  match x.run with
  | .finished (.error f) => some (.failed f)
  | .finished (.ok a) =>
    some (if x.number = generation then .result a else .superseded x.number)
  | .cancelled => some (if x.number = generation then .cancelled else .superseded x.number)
  | _ => none

def resume? (generation : Nat) (x : Submission α) : Option (Submission α) :=
  match x.returned with
  | some _ => none
  | none => (x.return? generation).map fun r => { x with returned := some r }

end Submission

/-- Of the prompts that a dashboard hands in, only the newest one is answered with its own
result. A session keeps the number of the newest submission, the place of the submission whose
run is kept, and all submissions in the order of their numbers. -/
structure Session (α : Type) where
  generation : Nat
  current : Option Nat
  submissions : List (Submission α)

/-- What can happen in a session, at the place of a submission. -/
inductive SessionEvent (α : Type) where
  | submit
  | finish (place : Nat) (result : Except Failure α)
  | drop (place : Nat)
  | resume (place : Nat)
  | withdraw (place : Nat)

namespace Session

variable {α : Type}

def fresh : Session α := ⟨0, none, []⟩

/-- A new submission; the run that was kept is to be cancelled unless it has ended. -/
def submit (s : Session α) : Session α where
  generation := s.generation + 1
  current := some s.submissions.length
  submissions :=
    (match s.current with
      | some place => s.submissions.modify place Submission.stop
      | none => s.submissions) ++ [⟨s.generation + 1, .live, none⟩]

def update? (s : Session α) (place : Nat) (f : Submission α → Option (Submission α)) :
    Option (Session α) := do
  let changed ← f (← s.submissions[place]?)
  return { s with submissions := s.submissions.set place changed }

/-- The session after an event; `none` if the event cannot happen. -/
def step? (s : Session α) : SessionEvent α → Option (Session α)
  | .submit => some s.submit
  | .finish place result => s.update? place (Submission.finish? result)
  | .drop place => s.update? place Submission.drop?
  | .resume place => s.update? place (Submission.resume? s.generation)
  | .withdraw place => s.update? place Submission.withdraw?

/-- The session after an event, unchanged if the event cannot happen. -/
def after (s : Session α) (e : SessionEvent α) : Session α := (s.step? e).getD s

def steps? (s : Session α) (es : List (SessionEvent α)) : Option (Session α) :=
  es.foldlM step? s

end Session

end PromptChart
