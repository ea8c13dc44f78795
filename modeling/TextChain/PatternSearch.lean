import TextChain.PatternMatch

/-!
Searching a text for the matches of a pattern: the leftmost hit, and all hits with the gaps between
them. A search goes through the whole text from its start.
-/

namespace TextChain

/-! ## Hits -/

structure Hit where
  text : List Char
  extents : List (Nat × Extent)
  deriving DecidableEq, Repr

def Hit.capture? (hit : Hit) (index : Nat) : Option (List Char) :=
  if index = 0 then some hit.text
  else (hit.extents.find? (·.1 == index)).bind fun entry => entry.2.capture?

def Cursor.hit (start stop : Cursor) : Hit :=
  ⟨start.after.take (stop.place - start.place), stop.extents⟩

/-- How a search tries a place: for any match, and for one that is not empty. -/
structure Search where
  any : Cursor → Option Cursor
  proper : Cursor → Option Cursor

def Matcher.search (matcher : Matcher) (lead : CharClass) : Search :=
  let first := matcher.lead?
  let promising := fun cursor : Cursor =>
    -- A quick look at the next character, before anything is tried.
    cursor.meets first && (cursor.after.isEmpty || cursor.meets (some lead))
  { any := fun start =>
      if promising start then matcher.attempt (fun _ => true) start else none
    proper := fun start =>
      if promising start then matcher.attempt (fun stop => stop.place != start.place) start
      else none }

namespace Search

/-- The leftmost hit at or after a place in a text, with what comes before and after it. -/
def findFrom (search : Search) (before : List Char) (place : Nat) :
    List Char → Option (List Char × Hit × List Char)
  | [] =>
      let start : Cursor := { before, after := [], place }
      match search.any start with
      | some stop => some (before.reverse, start.hit stop, stop.after)
      | none => none
  | c :: rest =>
      let start : Cursor := { before, after := c :: rest, place }
      match search.any start with
      | some stop => some (before.reverse, start.hit stop, stop.after)
      | none => findFrom search (c :: before) (place + 1) rest

def find? (search : Search) (text : List Char) : Option (List Char × Hit × List Char) :=
  search.findFrom [] 0 text

structure Cut where
  gap : List Char
  hit : Hit
  deriving DecidableEq, Repr

/-- All hits from left to right and what comes after the last. `cuts` holds the hits found so far and
`gap` the characters since the last of them, both last one first; `skip` counts the characters of that
hit still to be passed over. An empty hit may be followed at the same place by one that is not. -/
def cutsFrom (search : Search) (cuts : List Cut) (gap : List Char) (skip : Nat)
    (before : List Char) (place : Nat) : List Char → List Cut × List Char
  | [] =>
      let start : Cursor := { before, after := [], place }
      match search.any start with
      | some stop => ((⟨gap.reverse, start.hit stop⟩ :: cuts).reverse, [])
      | none => (cuts.reverse, gap.reverse)
  | c :: rest =>
      match skip with
      | n + 1 => cutsFrom search cuts [] n (c :: before) (place + 1) rest
      | 0 =>
          let start : Cursor := { before, after := c :: rest, place }
          match search.any start with
          | none => cutsFrom search cuts (c :: gap) 0 (c :: before) (place + 1) rest
          | some stop =>
              let cuts := ⟨gap.reverse, start.hit stop⟩ :: cuts
              if stop.place != place then
                cutsFrom search cuts [] (stop.place - place - 1) (c :: before) (place + 1) rest
              else
                -- Behind an empty hit the same place may have another one that is not empty.
                match search.proper start with
                | some stop =>
                    cutsFrom search (⟨[], start.hit stop⟩ :: cuts) [] (stop.place - place - 1)
                      (c :: before) (place + 1) rest
                | none => cutsFrom search cuts [c] 0 (c :: before) (place + 1) rest

def cuts (search : Search) (text : List Char) : List Cut × List Char :=
  search.cutsFrom [] [] 0 [] 0 text

/-- The texts between the hits, with the captures of each hit in between; a group that took no part in
a hit leaves a gap. -/
def split (search : Search) (groups : Nat) (text : List Char) : List (Option (List Char)) :=
  let (cuts, rest) := search.cuts text
  cuts.flatMap (fun cut =>
    some cut.gap :: (List.range groups).map fun index => cut.hit.capture? (index + 1)) ++ [some rest]

end Search

end TextChain
