/-!
# Similarity of words

The similarity of two words after Jaro. A character of the first word **matches** the first equal character of
the second word that is not yet matched and not too far away. The similarity is the mean of three shares: of the
first word that is matched, of the second, and of the matches that stand in the same order. It is computed in
double precision, which decides words that lie at a limit.
-/
namespace CartridgeFixture.Text

/-- How far apart matching characters may stand in words of these lengths. -/
def matchDistance (m n : Nat) : Nat := max m n / 2 - 1

/-- The first position of `c` in a word that is free and within reach of position `i`. -/
def freeMatch? (word : List Char) (distance : Nat) (taken : List Nat) (c : Char) (i : Nat) : Option Nat :=
  (List.range word.length).find? fun j =>
    i - distance ≤ j && j ≤ i + distance && word[j]? == some c && !taken.contains j

/-- The matched characters of the first word, in order, and the positions taken in the second. -/
def matchWords (second : List Char) (distance : Nat) :
    List Char → Nat → List Nat → List Char × List Nat
  | [], _, taken => ([], taken)
  | c :: rest, i, taken =>
    match freeMatch? second distance taken c i with
    | none => matchWords second distance rest (i + 1) taken
    | some j =>
      let (matched, all) := matchWords second distance rest (i + 1) (j :: taken)
      (c :: matched, all)

/-- The characters of a word at some positions, in the order of the word. -/
def atPositions (word : List Char) (positions : List Nat) : List Char :=
  (word.zipIdx.filter fun e => positions.contains e.2).map Prod.fst

/-- The similarity of two words, from 0 to 1. -/
def similarity (first second : List Char) : Float :=
  if first.isEmpty && second.isEmpty then 1.0
  else
    let (matched, taken) := matchWords second (matchDistance first.length second.length) first 0 []
    if matched.isEmpty then 0.0
    else
      let swapped := ((matched.zip (atPositions second taken)).filter fun e => e.1 != e.2).length / 2
      let count := matched.length.toFloat
      (count / first.length.toFloat + count / second.length.toFloat +
        (matched.length - swapped).toFloat / count) / 3.0

end CartridgeFixture.Text
