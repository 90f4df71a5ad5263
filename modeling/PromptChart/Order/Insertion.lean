namespace PromptChart.Order

variable {α : Type}

/-- The sorted items with one more, behind those that it is not less than. -/
def insert (lt : α → α → Bool) (x : α) (xs : List α) : List α :=
  match _h : xs.drop (xs.length / 2) with
  | [] => [x]
  | y :: above =>
    if lt x y then insert lt x (xs.take (xs.length / 2)) ++ y :: above
    else xs.take (xs.length / 2) ++ y :: insert lt x above
termination_by xs.length
decreasing_by
  all_goals
    have := congrArg List.length _h
    simp only [List.length_drop, List.length_cons, List.length_take] at *
    omega

/-- Items that go on without falling: the run, reversed, and the rest. -/
def rising (lt : α → α → Bool) (last : α) (run : List α) : List α → List α × List α
  | [] => (last :: run, [])
  | x :: rest => if lt x last then (last :: run, x :: rest) else rising lt x (last :: run) rest

def falling (lt : α → α → Bool) (last : α) (run : List α) : List α → List α × List α
  | [] => (last :: run, [])
  | x :: rest => if lt x last then falling lt x (last :: run) rest else (last :: run, x :: rest)

def firstRun (lt : α → α → Bool) : List α → List α × List α
  | [] => ([], [])
  | [x] => ([x], [])
  | x :: y :: rest =>
    if lt y x then falling lt y [x] rest
    else
      let (run, rest) := rising lt y [x] rest
      (run.reverse, rest)

/-- A stable sort by binary insertion behind the first run. Where `lt` does not order all
items, as with nan, these steps decide the result. -/
def sort (lt : α → α → Bool) (xs : List α) : List α :=
  let (run, rest) := firstRun lt xs
  rest.foldl (fun sorted x => insert lt x sorted) run

end PromptChart.Order
