import TextChain.LetterCase

/-!
Similarity of two texts, and the texts that come close to a given one, for the suggestions in errors. The
score of two texts counts the elements in their common runs: the longest common run is found first, then
the same is done with what stands on its left and on its right.
-/

namespace TextChain

variable {α : Type} [BEq α]

/-- Lengths of the common runs that end at one element of the first text and at each position of the
second; `row` holds those of the element before. -/
def runRow (usable : α → Bool) (x : α) (second : List α) (row : List Nat) : List Nat :=
  List.zipWith (fun y left => if x == y && usable y then left + 1 else 0) second (0 :: row)

structure CommonRun where
  first : Nat := 0
  second : Nat := 0
  size : Nat := 0
  deriving DecidableEq, Repr

/-- The best run of a row that ends at `(i, j)` and beyond; an earlier run of the same length stays. -/
def bestInRow (i : Nat) (best : CommonRun) (j : Nat) : List Nat → CommonRun
  | [] => best
  | size :: row =>
      let best := if best.size < size then ⟨i + 1 - size, j + 1 - size, size⟩ else best
      bestInRow i best (j + 1) row

def bestRun (usable : α → Bool) (second : List α) (i : Nat) (row : List Nat) (best : CommonRun) :
    List α → CommonRun
  | [] => best
  | x :: rest =>
      let next := runRow usable x second row
      bestRun usable second (i + 1) next (bestInRow i best 0 next) rest

def commonHead (first second : List α) : Nat :=
  ((first.zip second).takeWhile fun pair => pair.1 == pair.2).length

def longestRun (usable : α → Bool) (first second : List α) : CommonRun :=
  let best := bestRun usable second 0 (second.map fun _ => 0) {} first
  let back := commonHead (first.take best.first).reverse (second.take best.second).reverse
  let ahead := commonHead (first.drop (best.first + best.size)) (second.drop (best.second + best.size))
  ⟨best.first - back, best.second - back, back + best.size + ahead⟩

/-- Elements in common runs. Every run is shorter than the text it is cut from, so the length of the
first text bounds the depth. -/
def sharedUpTo (usable : α → Bool) : Nat → List α → List α → Nat
  | 0, _, _ => 0
  | fuel + 1, first, second =>
      let run := longestRun usable first second
      if run.size = 0 then 0
      else
        sharedUpTo usable fuel (first.take run.first) (second.take run.second) + run.size +
          sharedUpTo usable fuel (first.drop (run.first + run.size))
            (second.drop (run.second + run.size))

/-- In a text of two hundred elements or more, an element that makes up over one per cent of it does
not start a run. -/
def popular (text : List α) : List α :=
  if text.length < 200 then []
  else
    let bound := text.length / 100 + 1
    text.eraseDups.filter fun x => bound < text.count x

def similarity (first second : List α) : Rat :=
  let total := first.length + second.length
  if total = 0 then 1
  else
    let frequent := popular second
    let shared := sharedUpTo (fun x => !frequent.contains x) (first.length + 1) first second
    (2 * shared : Nat) / (total : Nat)

/-! ## Order -/

def textLe : List Char → List Char → Bool
  | [], _ => true
  | _ :: _, [] => false
  | x :: a, y :: b => if x = y then textLe a b else x.toNat < y.toNat

def sortTexts (texts : List String) : List String :=
  texts.mergeSort fun a b => textLe a.toList b.toList

/-! ## Close matches -/

/-- A candidate with its score. A higher score ranks first, and of equal scores the later text. -/
def outranks (le : List α → List α → Bool) (a b : Rat × List α) : Bool :=
  b.1 < a.1 || (a.1 == b.1 && le b.2 a.2)

/-- At most three candidates, best first, whose score is at least one half. `le` orders candidates of
equal scores. -/
def closeMatches (le : List α → List α → Bool) (text : List α) (candidates : List (List α)) :
    List (List α) :=
  let scored := candidates.map fun candidate => (similarity candidate text, candidate)
  let close := scored.filter fun entry => 1 / 2 ≤ entry.1
  ((close.mergeSort (outranks le)).take 3).map (·.2)

end TextChain
