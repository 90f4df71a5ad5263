import PromptChart.Entries
import PromptChart.Query.Request

namespace PromptChart

abbrev Answer := Except Failure (List PartialRow)

/-- The rows of every term whose query did not fail, or the first fatal failure, in the order of
the requests. -/
def collect {α : Type} (answer : String → Request → Except Failure α) :
    Entries String Request → Except Failure (Entries String α)
  | [] => .ok []
  | (term, request) :: rest =>
    match answer term request with
    | .ok rows => ((term, rows) :: ·) <$> collect answer rest
    | .error (.query ..) => collect answer rest
    | .error f => .error f

/-- Does a failure end the whole run? That of a query does not. -/
def Failure.isFatal : Failure → Bool
  | .query .. => false
  | _ => true

/-- Round trips on their way: those that have not started, those under way, and the answers, the
latest first. -/
structure FanOut where
  pending : Entries String Request
  underWay : Entries String Request
  answered : Entries String Answer

namespace FanOut

def bound (concurrency : Int) : Nat := (max 1 concurrency).toNat

def start (requests : Entries String Request) : FanOut := ⟨requests, [], []⟩

/-- What happens to the round trip of a term. -/
inductive Event where
  | sent (term : String) (request : Request)
  | answered (term : String)

def sent (events : List Event) : Entries String Request :=
  events.filterMap fun
    | .sent term request => some (term, request)
    | .answered _ => none

/-- A round trip starts while there is room for it, or one that is under way is answered. -/
inductive Step (room : Nat) (answer : Request → Answer) : FanOut → Event → FanOut → Prop
  | send {before after underWay answered term request} (free : underWay.length < room) :
    Step room answer ⟨before ++ (term, request) :: after, underWay, answered⟩
      (.sent term request) ⟨before ++ after, underWay ++ [(term, request)], answered⟩
  | finish {pending before after answered term request} :
    Step room answer ⟨pending, before ++ (term, request) :: after, answered⟩ (.answered term)
      ⟨pending, before ++ after, (term, answer request) :: answered⟩

/-- Any number of steps, with what happens in them. -/
inductive Steps (room : Nat) (answer : Request → Answer) : FanOut → List Event → FanOut → Prop
  | done {s} : Steps room answer s [] s
  | more {s t u event events} (first : Step room answer s event t)
    (rest : Steps room answer t events u) : Steps room answer s (event :: events) u

def isOver (s : FanOut) : Bool := s.pending.isEmpty && s.underWay.isEmpty

def fatal? (s : FanOut) : Option Failure :=
  s.answered.reverse.findSome? fun
    | (_, .error f) => if f.isFatal then some f else none
    | (_, .ok _) => none

/-- What is gathered once everything has been answered: the fatal failure that came first, or
else the rows of the requests that have any, in the order of the requests. -/
def gathered (requests : Entries String Request) (s : FanOut) :
    Except Failure (Entries String (List PartialRow)) :=
  match s.fatal? with
  | some f => .error f
  | none => .ok (requests.filterMap fun trip =>
      ((s.answered.get? trip.1).bind (·.toOption)).map (trip.1, ·))

end FanOut

end PromptChart
