import PromptChart.Text.Cased
import PromptChart.Text.CaseMap

namespace PromptChart.Text

def lowerChar (c : Char) : Char :=
  if c = 'İ' then 'i' else Char.ofNat (shiftIn c.toNat lowerRuns)

/-- Does a word end here? What comes before ends in a cased character, and what follows does not
start with one, characters that do not bear on case left out. -/
def endsWord (before after : List Char) : Bool :=
  ((before.dropWhile isCaseIgnorable).head?.any isCased) &&
    !((after.dropWhile isCaseIgnorable).head?.any isCased)

/-- The lower-case form of a character between its neighbours, those before it read backwards: a
sigma that ends a word takes its final form, and a dotted capital keeps its dot. -/
def lowerAt (before : List Char) (c : Char) (after : List Char) : List Char :=
  if c = 'Σ' then [if endsWord before after then 'ς' else 'σ']
  else if c = 'İ' then ['i', '\u0307']
  else [lowerChar c]

def lowerFrom (before : List Char) : List Char → List Char
  | [] => []
  | c :: after => lowerAt before c after ++ lowerFrom (c :: before) after

def lower (s : String) : String := String.ofList (lowerFrom [] s.toList)

def titleChar (c : Char) : List Char :=
  (titleExpansion? c.toNat).getD [Char.ofNat (shiftIn c.toNat titleRuns)]

def titleFrom (before : List Char) : List Char → List Char
  | [] => []
  | c :: after =>
    (if before.head?.any isCased then lowerAt before c after else titleChar c) ++
      titleFrom (c :: before) after

/-- Every run of cased characters starts in title form and goes on in lower case. -/
def title (s : String) : String := String.ofList (titleFrom [] s.toList)

def letterShapes : List (Nat × List Nat) :=
  [(105, [305]), (115, [383]), (181, [956]), (305, [105]), (383, [115]), (837, [953, 8126]),
   (912, [8147]), (944, [8163]), (946, [976]), (949, [1013]), (952, [977]), (953, [837, 8126]),
   (954, [1008]), (956, [181]), (960, [982]), (961, [1009]), (962, [963]), (963, [962]),
   (966, [981]), (976, [946]), (977, [952]), (981, [966]), (982, [960]), (1008, [954]),
   (1009, [961]), (1013, [949]), (1074, [7296]), (1076, [7297]), (1086, [7298]), (1089, [7299]),
   (1090, [7300, 7301]), (1098, [7302]), (1123, [7303]), (7296, [1074]), (7297, [1076]),
   (7298, [1086]), (7299, [1089]), (7300, [1090, 7301]), (7301, [1090, 7300]), (7302, [1098]),
   (7303, [1123]), (7304, [42571]), (7777, [7835]), (7835, [7777]), (8126, [837, 953]),
   (8147, [912]), (8163, [944]), (42571, [7304]), (64261, [64262]), (64262, [64261])]

/-- Does `c` stand for the letter `letter`, whatever the case? -/
def sameLetter (letter c : Char) : Bool :=
  let low := (lowerChar letter).toNat
  (low :: ((letterShapes.lookup low).getD [])).contains (lowerChar c).toNat

end PromptChart.Text
