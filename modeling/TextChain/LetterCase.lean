import TextChain.CaseTables
import TextChain.Characters

/-!
Letter case. Capitals and small letters follow the full Unicode mappings: one letter may become
several, and a capital sigma becomes a final one at the end of a word. The single-letter forms serve
patterns that ignore case. Titles and the form for caseless comparison are left out.
-/

namespace TextChain

def expansion? : List (Nat × List Nat) → Nat → Option (List Nat)
  | [], _ => none
  | (letter, letters) :: rest, point =>
      if point < letter then none
      else if point = letter then some letters
      else expansion? rest point

def upperOf (c : Char) : List Char :=
  match expansion? upperExpansions c.toNat with
  | some letters => letters.map Char.ofNat
  | none => [Char.ofNat (Shift.move upperShifts c.toNat)]

def lowerOf (c : Char) : List Char :=
  if c.toNat = 304 then ['i', Char.ofNat 775]
  else [Char.ofNat (Shift.move lowerShifts c.toNat)]

def upper (text : List Char) : List Char :=
  text.flatMap upperOf

/-- Whether the nearest character that the sigma rule does not look through is a cased letter. -/
def meetsLetter : List Char → Bool
  | [] => false
  | c :: rest =>
      if Span.covers transparentSpans c.toNat then meetsLetter rest
      else Span.covers casedSpans c.toNat

/-- A capital sigma ends a word when a letter comes before it and none comes after it. -/
def lowerSigma (before after : List Char) : Char :=
  if meetsLetter before && !meetsLetter after then 'ς' else 'σ'

def lowerWithin (before after : List Char) (c : Char) : List Char :=
  if c = 'Σ' then [lowerSigma before after] else lowerOf c

def lowerOnto (done before : List Char) : List Char → List Char
  | [] => done.reverse
  | c :: rest => lowerOnto ((lowerWithin before rest c).reverse ++ done) (c :: before) rest

def lower (text : List Char) : List Char :=
  lowerOnto [] [] text

/-! ## Single letters -/

def lowerPoint (point : Nat) : Nat :=
  if point = 304 then 105 else Shift.move lowerShifts point

def upperPoint (point : Nat) : Nat :=
  match expansion? upperExpansions point with
  | some (first :: _) => first
  | _ => Shift.move upperShifts point

def hasCase (point : Nat) : Bool :=
  lowerPoint point != point || upperPoint point != point

def letterFamilies : List (List Nat) :=
  [[105, 305], [115, 383], [181, 956], [837, 953, 8126], [912, 8147], [944, 8163], [946, 976],
    [949, 1013], [952, 977], [954, 1008], [960, 982], [961, 1009], [962, 963], [966, 981],
    [1074, 7296], [1076, 7297], [1086, 7298], [1089, 7299], [1090, 7300, 7301], [1098, 7302],
    [1123, 7303], [7304, 42571], [7777, 7835], [64261, 64262]]

/-- The small letters that count as equal to the given small letter when case is ignored. -/
def letterFamily (point : Nat) : List Nat :=
  match letterFamilies.find? (·.contains point) with
  | some family => family
  | none => [point]

def Shift.meets (low high : Nat) (shift : Shift) : Bool :=
  shift.low ≤ high && low ≤ shift.high

/-- Whether a small letter is the small form of a code point between two others. `shifts` are the
shifts that meet the range. -/
def lowersInto (shifts : List Shift) (low high small : Nat) : Bool :=
  (low ≤ small && small ≤ high && lowerPoint small == small) ||
    shifts.any (fun shift =>
      let point := ((small : Int) - shift.distance).toNat
      low ≤ point && point ≤ high && shift.touches point) ||
    (small == 105 && low ≤ 304 && 304 ≤ high)

end TextChain
