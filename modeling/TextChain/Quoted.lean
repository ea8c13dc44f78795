import TextChain.Digits

/-!
Quoted texts. A text stands between single quotes, or between double quotes when it holds a single
quote and no double one; what has no visible form is written as an escape.
-/

namespace TextChain

/-- An escape by code point: two, four or eight hexadecimal digits, the fewest that hold it. -/
def pointEscape (n : Nat) : List Char :=
  if n < 256 then '\\' :: 'x' :: paddedDigits 16 2 n
  else if n < 65536 then '\\' :: 'u' :: paddedDigits 16 4 n
  else '\\' :: 'U' :: paddedDigits 16 8 n

def quotedChar (mark c : Char) : List Char :=
  if c = mark || c = '\\' then ['\\', c]
  else if c = '\n' then ['\\', 'n']
  else if c = '\r' then ['\\', 'r']
  else if c = '\t' then ['\\', 't']
  else if isHidden c then pointEscape c.toNat
  else [c]

def quoted (text : List Char) : List Char :=
  let mark := if text.contains '\'' && !text.contains '"' then '"' else '\''
  mark :: text.flatMap (quotedChar mark) ++ [mark]

/-- Bytes are quoted like ASCII text under a leading b; other bytes are escapes. -/
def quotedBytes (bytes : List UInt8) : List Char :=
  let text := bytes.map fun byte => Char.ofNat byte.toNat
  let mark := if text.contains '\'' && !text.contains '"' then '"' else '\''
  let shown := fun c : Char =>
    if 127 ≤ c.toNat then pointEscape c.toNat else quotedChar mark c
  'b' :: mark :: text.flatMap shown ++ [mark]

end TextChain
