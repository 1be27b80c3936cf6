/-!
How alike two words are by the measure of Jaro: the mean of the shares of matching characters in
each word and of the matching characters that stand in the same order.
-/

namespace RowScan.Similarity

/-- Marks in `other` the first unmarked occurrence of a character no further than `range` from a
position; `none` when there is none. -/
def claim (char : Char) (position range : Nat) (other : Array Char) (marked : Array Bool) :
    Option Nat :=
  (List.range other.size).find? fun candidate =>
    position ≤ candidate + range && candidate ≤ position + range &&
      other[candidate]? == some char && marked[candidate]? == some false

def matchFrom (range : Nat) (other : Array Char) :
    List Char → Nat → Array Bool → List Char × Array Bool
  | [], _, marked => ([], marked)
  | char :: rest, position, marked =>
    match claim char position range other marked with
    | none => matchFrom range other rest (position + 1) marked
    | some found =>
      let (matched, marked) :=
        matchFrom range other rest (position + 1) (marked.setIfInBounds found true)
      (char :: matched, marked)

def degree (left right : String) : Float :=
  let leftChars := left.toList
  let rightChars := right.toList.toArray
  let range := max leftChars.length rightChars.size / 2 - 1
  let (matched, marked) :=
    matchFrom range rightChars leftChars 0 (Array.replicate rightChars.size false)
  let others := (rightChars.toList.zip marked.toList).filterMap fun (char, mark) =>
    if mark then some char else none
  let displaced := ((matched.zip others).countP fun (first, second) => first != second) / 2
  let share (part whole : Nat) : Float := Float.ofNat part / Float.ofNat whole
  if leftChars.length = 0 ∧ rightChars.size = 0 then 1
  else if matched.length = 0 then 0
  else
    (share matched.length leftChars.length + share matched.length rightChars.size +
      share (matched.length - displaced) matched.length) / 3

/-- Of the words that resemble a word the one most like it, the last of several; a word resembles
another when they are more than seven tenths alike. -/
def mostLike? (word : String) (candidates : List String) : Option String :=
  let rated := candidates.map fun candidate => (degree word candidate, candidate)
  let best := (rated.filter fun entry => 0.7 < entry.1).foldl
    (fun best entry =>
      match best with
      | some other => if entry.1 < other.1 then some other else some entry
      | none => some entry)
    (none : Option (Float × String))
  best.map Prod.snd

end RowScan.Similarity
