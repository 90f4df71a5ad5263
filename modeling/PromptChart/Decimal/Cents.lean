import PromptChart.Decimal.Shortest

namespace PromptChart

def Decimal.cents (d : Decimal) : Nat :=
  roundHalfUp (d.num * 100) d.den

namespace Binary64

def centLimit : Nat := Nat.pow 10 15

/-- A chart value: the shortest decimal rounded to cents, half away from zero. Non-finite
numbers and those at or above the limit stay as they are. -/
def roundCents : Binary64 → Binary64
  | .finite s i =>
    if units i < centLimit * unitsPerOne then ofRatio s (Decimal.shortest i).cents 100
    else .finite s i
  | x => x

def roundHundredths : Binary64 → Binary64
  | .finite s i => ofRatio s (Decimal.roundHalfEven (units i * 100) unitsPerOne) 100
  | x => x

end Binary64

end PromptChart
