import TextChain.Digits

/-!
Percent encoding. A text is taken as the bytes of its UTF-8 form; a byte of the unreserved set stands
for itself and any other byte becomes a percent sign with two capital hexadecimal digits.
-/

namespace TextChain

def utf8Of (c : Char) : List Nat :=
  let n := c.toNat
  if n < 128 then [n]
  else if n < 2048 then [192 + n / 64, 128 + n % 64]
  else if n < 65536 then [224 + n / 4096, 128 + n / 64 % 64, 128 + n % 64]
  else [240 + n / 262144, 128 + n / 4096 % 64, 128 + n / 64 % 64, 128 + n % 64]

def isUnreserved (c : Char) : Bool :=
  Ascii.isLetter c || Ascii.isDigit c || "-_.~!'()*".toList.contains c

def hexCapital (n : Nat) : Char :=
  if n < 10 then Char.ofNat (48 + n) else Char.ofNat (55 + n)

def percentByte (byte : Nat) : List Char :=
  ['%', hexCapital (byte / 16), hexCapital (byte % 16)]

def percentChar (c : Char) : List Char :=
  if isUnreserved c then [c] else (utf8Of c).flatMap percentByte

def percentEncode (text : List Char) : List Char :=
  text.flatMap percentChar

/-- Bytes that are no text are encoded one by one. -/
def percentEncodeBytes (bytes : List UInt8) : List Char :=
  bytes.flatMap fun byte =>
    let c := Char.ofNat byte.toNat
    if isUnreserved c then [c] else percentByte byte.toNat

end TextChain
