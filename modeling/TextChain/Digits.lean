import TextChain.Characters

/-!
Whole numbers as digits in a base from two to sixteen, and the reading of a decimal integer, with the
limit on the digits of one that is read or written. Other bases and their prefixes are left out.
-/

namespace TextChain

def digitChar (n : Nat) : Char :=
  if n < 10 then Char.ofNat (48 + n) else Char.ofNat (87 + n)

def digitsOnto (base : Nat) : Nat → Nat → List Char → List Char
  | 0, _, tail => tail
  | fuel + 1, n, tail =>
      let tail := digitChar (n % base) :: tail
      if n < base then tail else digitsOnto base fuel (n / base) tail

def digits (base n : Nat) : List Char :=
  digitsOnto base (n + 1) n []

def paddedDigits (base width n : Nat) : List Char :=
  let written := digits base n
  List.replicate (width - written.length) '0' ++ written

/-! ## Reading -/

def hexValue (c : Char) : Nat :=
  if Ascii.isDigit c then c.toNat - 48
  else if 'a' ≤ c then c.toNat - 87
  else c.toNat - 55

def baseValue (base : Nat) (figures : List Char) : Nat :=
  figures.foldl (fun total c => total * base + hexValue c) 0

inductive IntegerFault where
  | malformed
  | tooManyDigits (count : Nat)
  deriving DecidableEq, Repr

/-- More digits than this are neither read nor written. -/
def digitLimit : Nat := 4300

def digitsExceeded (count : Nat) : String :=
  "Exceeds the limit (" ++ toString digitLimit ++
    " digits) for integer string conversion: value has " ++ toString count ++
    " digits; use sys.set_int_max_str_digits() to increase the limit"

def digitsUnwritable : String :=
  "Exceeds the limit (" ++ toString digitLimit ++
    " digits) for integer string conversion; use sys.set_int_max_str_digits() to increase the limit"

structure DigitRun where
  figures : List Nat
  rest : List Char
  deriving DecidableEq, Repr

/-- Reads digits as far as they go; one low line may stand between two of them. `figures` holds the
digits read so far and `after` says whether the last character was one. -/
def readDigits (figures : List Nat) (after : Bool) : List Char → Option DigitRun
  | [] => if after then some ⟨figures, []⟩ else none
  | c :: rest =>
      if Ascii.isDigit c then readDigits ((c.toNat - 48) :: figures) true rest
      else if c = '_' then if after then readDigits figures false rest else none
      else if after then some ⟨figures, c :: rest⟩
      else none

def figuresValue (figures : List Nat) : Nat :=
  figures.foldr (fun figure total => total * 10 + figure) 0

/-- Digits up to the end, with nothing but blanks behind them. The digits are counted before what
follows them is looked at. -/
def readMagnitude (text : List Char) : Except IntegerFault Int :=
  match readDigits [] false text with
  | none => .error .malformed
  | some run =>
      if digitLimit < run.figures.length then .error (.tooManyDigits run.figures.length)
      else if run.rest.all Ascii.isBlank then .ok (figuresValue run.figures)
      else .error .malformed

def readPlainInteger (text : List Char) : Except IntegerFault Int :=
  match text.dropWhile Ascii.isBlank with
  | '-' :: rest => (readMagnitude rest).map fun n => -n
  | '+' :: rest => readMagnitude rest
  | rest => readMagnitude rest

/-- Beyond ASCII a digit of any script counts as the digit it stands for, white space as a space, and
every other character as one that no integer has. -/
def plainDigit (c : Char) : Char :=
  if c.toNat < 127 then c
  else if isBlank c then ' '
  else
    match digitValue? c with
    | some n => digitChar n
    | none => '?'

def readInteger (text : List Char) : Except IntegerFault Int :=
  readPlainInteger (text.map plainDigit)

end TextChain
