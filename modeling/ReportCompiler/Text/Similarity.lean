import ReportCompiler.Text.Basic

/-!
How alike two texts are: the longest block that both have counts, and then, in the same way, what stands
before it in both and what stands after it in both.
-/

namespace ReportCompiler.Text

/-- How far two texts agree from their beginnings. -/
def agreement : List Char → List Char → Nat
  | a :: as, b :: bs => if a == b then agreement as bs + 1 else 0
  | _, _ => 0

/-- A block in both texts: where it begins in each, and its length. -/
structure Block where
  first : Nat
  second : Nat
  length : Nat
deriving Repr

/-- Of two blocks the longer one; the one found before when they are equally long. -/
def Block.better (found block : Block) : Block :=
  if found.length < block.length then block else found

/-- The longest block; of several, the one that begins first in the first text and then in the second. -/
def longestBlock (as bs : List Char) : Block :=
  (List.range as.length).foldl (fun found i =>
    (List.range bs.length).foldl (fun found j =>
      found.better { first := i, second := j, length := agreement (as.drop i) (bs.drop j) }) found)
    { first := 0, second := 0, length := 0 }

/-- How many characters lie in common blocks. -/
def commonLength : Nat → List Char → List Char → Nat
  | 0, _, _ => 0
  | fuel + 1, as, bs =>
      let block := longestBlock as bs
      if block.length = 0 then 0
      else
        commonLength fuel (as.take block.first) (bs.take block.second) + block.length
          + commonLength fuel (as.drop (block.first + block.length))
              (bs.drop (block.second + block.length))

/-- The part of two texts that lies in common blocks, as a fraction. -/
def similarity (first second : String) : Nat × Nat :=
  (2 * commonLength first.length first.toList second.toList, first.length + second.length)

/-- Whether at least six tenths of two texts lie in common blocks. -/
def isSimilar (score : Nat × Nat) : Bool := 6 * score.2 ≤ 10 * score.1

/-- Whether the first candidate is more alike; of equal ones, the later in the alphabet. -/
def outranks (first second : (Nat × Nat) × String) : Bool :=
  let left := first.1.1 * second.1.2
  let right := second.1.1 * first.1.2
  right < left || right == left && !precedes first.2 second.2

/-- The three texts that are most alike, in the order of the alphabet, if they are alike enough. -/
def closest (text : String) (candidates : List String) : List String :=
  let scored := candidates.map fun candidate => (similarity candidate text, candidate)
  let best := ((scored.filter fun entry => isSimilar entry.1).mergeSort outranks).take 3
  (best.map Prod.snd).mergeSort fun a b => !precedes b a

end ReportCompiler.Text
