/-!
Cutting a text by position: slices with ends counted from either side, pieces of one length, and the
fill of a padded text.
-/

namespace TextChain

variable {α : Type}

/-- A bound below zero counts from the end, and every bound is brought into the text. -/
def clampBound (length : Nat) (bound : Int) : Nat :=
  if bound < 0 then (bound + length).toNat else min bound.toNat length

def slice (start stop : Option Int) (text : List α) : List α :=
  let first := (start.map (clampBound text.length)).getD 0
  let last := (stop.map (clampBound text.length)).getD text.length
  (text.drop first).take (last - first)

/-- Pieces of `size` elements. `pieces` holds those that are full and `piece` the one being filled, both
last one first; `room` is what the piece still takes. -/
def chunksFrom (size : Nat) (pieces : List (List α)) (room : Nat) (piece : List α) :
    List α → List (List α)
  | [] => (if piece.isEmpty then pieces else piece.reverse :: pieces).reverse
  | c :: rest =>
      match room with
      | 0 => chunksFrom size (piece.reverse :: pieces) (size - 1) [c] rest
      | n + 1 => chunksFrom size pieces n (c :: piece) rest

def chunks (size : Nat) (text : List α) : List (List α) :=
  chunksFrom size [] size [] text

def repeated (count : Nat) (text : List α) : List α :=
  (List.replicate count text).flatten

inductive Side where
  | start
  | finish
  | both
  deriving DecidableEq, Repr

end TextChain
