/-!
# Similar words

The likeness of two words is twice the number of letters that match, divided by the number of letters
of both. Letters match in blocks: the longest common block first, then whatever matches to its left
and to its right. `suggestions` gives the words most like a mistyped one.
-/

namespace InfluxKeeper.Text

/-- The number of letters that two words share from their starts. -/
def commonStart : List Char → List Char → Nat
  | a :: as, b :: bs => if a = b then commonStart as bs + 1 else 0
  | _, _ => 0

/-- A block that two words share: where it starts in each and how long it is. -/
structure Block where
  left : Nat
  right : Nat
  size : Nat

/-- The longest block that two words share, the leftmost in the first word of several, and then the
leftmost in the second. -/
def longestBlock (a b : List Char) : Block :=
  (List.range a.length).foldl (fun best i =>
    (List.range b.length).foldl (fun best j =>
      let size := commonStart (a.drop i) (b.drop j)
      if best.size < size then ⟨i, j, size⟩ else best) best) ⟨0, 0, 0⟩

/-- The number of letters that match, splitting at most `depth` times in a row. -/
def matchingLetters : Nat → List Char → List Char → Nat
  | 0, _, _ => 0
  | depth + 1, a, b =>
    let block := longestBlock a b
    if block.size = 0 then 0
    else block.size + matchingLetters depth (a.take block.left) (b.take block.right) +
      matchingLetters depth (a.drop (block.left + block.size)) (b.drop (block.right + block.size))

/-- The likeness of two words as a numerator and a denominator. -/
def likeness (a b : List Char) : Nat × Nat :=
  (2 * matchingLetters (a.length + 1) a b, max 1 (a.length + b.length))

/-- At most three words of a list that are alike enough to a given word, the most alike first; of words
equally alike, the later in the alphabet first. -/
def suggestions (word : String) (known : List String) : List String :=
  let rated := known.map fun k => (likeness k.toList word.toList, k)
  let alike := rated.filter fun r => 6 * r.1.2 ≤ 10 * r.1.1
  let before (r s : (Nat × Nat) × String) : Bool :=
    let x := r.1.1 * s.1.2
    let y := s.1.1 * r.1.2
    y < x || (x == y && s.2 ≤ r.2)
  ((alike.mergeSort before).take 3).map (·.2)

end InfluxKeeper.Text
