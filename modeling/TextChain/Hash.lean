import TextChain.Digits

/-!
The hash of a text: the multiplier 33 over the units of the UTF-16 form, from the seed 5381, kept to 32
bits and read as a signed number at the end.
-/

namespace TextChain

/-- A character above the basic plane has two units, a high and a low surrogate. -/
def units16 (c : Char) : List Nat :=
  let n := c.toNat
  if n ≤ 65535 then [n]
  else [55296 + (n - 65536) / 1024, 56320 + (n - 65536) % 1024]

def hashStep (hash unit : Nat) : Nat :=
  (hash * 33 + unit) % 4294967296

def hashUnits (units : List Nat) : Nat :=
  units.foldl hashStep 5381

def signed32 (word : Nat) : Int :=
  if 2147483648 ≤ word then (word : Int) - 4294967296 else word

def textHash (text : List Char) : Int :=
  signed32 (hashUnits (text.flatMap units16))

def decimal (n : Int) : List Char :=
  if n < 0 then '-' :: digits 10 n.natAbs else digits 10 n.natAbs

end TextChain
