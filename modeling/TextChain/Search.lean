/-!
Literal search: where a needle first occurs, cutting a text at it, splitting a text at every
occurrence, and putting something else in its place. Occurrences are found from the left and do not
overlap.
-/

namespace TextChain

variable {α : Type} [BEq α]

def dropHead? : List α → List α → Option (List α)
  | [], text => some text
  | _ :: _, [] => none
  | x :: needle, y :: text => if x == y then dropHead? needle text else none

def startsWith (needle text : List α) : Bool :=
  (dropHead? needle text).isSome

def endsWith (needle text : List α) : Bool :=
  startsWith needle.reverse text.reverse

/-- Looks for the needle in what is left of a text; `before` holds the characters that were passed, last
one first. -/
def cutFrom (needle before : List α) : List α → Option (List α × List α)
  | [] => if needle.isEmpty then some (before.reverse, []) else none
  | c :: rest =>
      match dropHead? needle (c :: rest) with
      | some after => some (before.reverse, after)
      | none => cutFrom needle (c :: before) rest

def cut? (needle text : List α) : Option (List α × List α) :=
  cutFrom needle [] text

def occursIn (needle text : List α) : Bool :=
  (cut? needle text).isSome

/-- Splits at every occurrence of a needle. `parts` holds the parts read so far and `part` the one being
read, both last one first; `skip` counts the characters of the needle still to be passed over. -/
def splitFrom (needle : List α) (parts : List (List α)) (skip : Nat) (part : List α) :
    List α → List (List α)
  | [] => (part.reverse :: parts).reverse
  | c :: rest =>
      match skip with
      | n + 1 => splitFrom needle parts n part rest
      | 0 =>
          if startsWith needle (c :: rest) then
            splitFrom needle (part.reverse :: parts) (needle.length - 1) [] rest
          else splitFrom needle parts 0 (c :: part) rest

def split (needle text : List α) : List (List α) :=
  if needle.isEmpty then text.map fun c => [c] else splitFrom needle [] 0 [] text

def replaceFirst (needle replacement text : List α) : List α :=
  match cut? needle text with
  | some (before, after) => before ++ replacement ++ after
  | none => text

def between? (opening closing text : List α) : Option (List α) :=
  (cut? opening text).bind fun parts => (cut? closing parts.2).map (·.1)

end TextChain
