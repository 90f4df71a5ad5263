import PromptChart.Analyst
import PromptChart.Session.Basic

namespace PromptChart

/-- A prompt with the scope and the days that it is asked for. -/
structure Prompted where
  prompt : String
  scope : Scope
  range : Option DateRange

/-- Where a prompt is: handed in, withdrawn before it started, or submitted to the session. -/
inductive Ticket where
  | waiting
  | withdrawn
  | submitted (place : Nat)
  deriving DecidableEq, Repr

/-- A run at work, and how many of its requests have been sent. -/
structure Work where
  inquiry : Inquiry
  sent : Nat

/-- A session, one action after another. While the gate before the store is closed, the
requests of a run wait there. -/
structure Desk where
  analyst : Analyst
  gateOpen : Bool
  session : Session Chart
  /-- What has been handed in and not submitted yet. -/
  waiting : List (String × Prompted)
  /-- The run of the newest submission while it is at work. -/
  work : Option Work
  tickets : Entries String Ticket
  requests : Nat

inductive DeskAction where
  | openGate
  | closeGate
  /-- A prompt is handed in; one that goes together with the next action does not start before
  it. -/
  | start (id : String) (p : Prompted) (together : Bool)
  | cancel (id : String)

inductive Standing where
  | pending
  | cancelled
  | failed (f : Failure)
  | charted (chart : Chart)

def Chart.superseded (number : Nat) : Chart :=
  { status := .superseded, message := "Pipeline run " ++ toString number ++ " was superseded" }

namespace Desk

def ofAnalyst (a : Analyst) : Desk := ⟨a, true, .fresh, [], none, [], 0⟩

/-- A prompt that was handed in is submitted; the run before it does not go on. -/
def submit (d : Desk) (p : String × Prompted) : Desk :=
  { d with
    session := d.session.submit
    work := some ⟨d.analyst.ask p.2.scope p.2.range none p.2.prompt, 0⟩
    tickets := d.tickets.put p.1 (.submitted d.session.submissions.length) }

def submitAll (d : Desk) : Desk := d.waiting.foldl submit { d with waiting := [] }

/-- How many requests of a run have been sent when it cannot go on: all of them through an open
gate, those that may be under way at once to a closed one. -/
def sentBy (d : Desk) (i : Inquiry) : Nat :=
  let all := i.requests.length
  if d.gateOpen then all else min all (FanOut.bound d.analyst.settings.concurrency)

def advance (d : Desk) : Desk :=
  match d.work, d.session.current with
  | some w, some place =>
    let sent := max w.sent (d.sentBy w.inquiry)
    let d := { d with requests := d.requests + (sent - w.sent) }
    if d.gateOpen || w.inquiry.requests.isEmpty then
      { d with work := none, session := d.session.after (.finish place w.inquiry.chart) }
    else { d with work := some { w with sent } }
  | _, _ => d

/-- Runs that are to be cancelled end, and submissions whose run has ended come back. -/
def comeBack (d : Desk) : Desk :=
  let places := List.range d.session.submissions.length
  let dropped := places.foldl (fun s place => s.after (.drop place)) d.session
  { d with session := places.foldl (fun s place => s.after (.resume place)) dropped }

/-- All that can happen does happen: submissions start in the order in which they were handed
in, then runs go on, then submissions come back. -/
def settle (d : Desk) : Desk := d.submitAll.advance.comeBack

/-- A prompt is given up; its run, if it is at work, is cancelled. -/
def cancel (d : Desk) (id : String) : Desk :=
  match d.tickets.get? id with
  | some .waiting =>
    { d with waiting := d.waiting.filter (·.1 ≠ id), tickets := d.tickets.put id .withdrawn }
  | some (.submitted place) =>
    { d with
      session := d.session.after (.withdraw place)
      work := if d.session.current = some place then none else d.work }
  | _ => d

def act (d : Desk) : DeskAction → Desk
  | .openGate => settle { d with gateOpen := true }
  | .closeGate => settle { d with gateOpen := false }
  | .start id p together =>
    let d := { d with waiting := d.waiting ++ [(id, p)], tickets := d.tickets.put id .waiting }
    if together then d else d.settle
  | .cancel id => (d.cancel id).settle

def standingOf (x : Submission Chart) : Standing :=
  match x.returned with
  | none => .pending
  | some (.result chart) => .charted chart
  | some (.failed f) => .failed f
  | some (.superseded number) => .charted (.superseded number)
  | some .cancelled => .cancelled

def standing (d : Desk) : Ticket → Standing
  | .waiting => .pending
  | .withdrawn => .cancelled
  | .submitted place =>
    match d.session.submissions[place]? with
    | some x => standingOf x
    | none => .pending

def standings (d : Desk) : List (String × Standing) :=
  d.tickets.map fun (id, t) => (id, d.standing t)

end Desk

end PromptChart
