import TextChain.Nearest
import TextChain.ValueText

/-!
Reading JSON text into values. Objects keep the order of their names, numbers with a fraction or an
exponent are floating point, and every fault tells the character where it was found. Texts are made of
characters, so an escape that stands for half of a surrogate pair is refused; however deep a text is
nested, there is room to read it.
-/

namespace TextChain

inductive JsonFault where
  | expectedValue
  | expectedName
  | expectedColon
  | expectedComma
  | extraData
  | unterminatedString
  | controlCharacter
  | badEscape
  | badUnicodeEscape
  | loneSurrogate
  | byteOrderMark
  deriving DecidableEq, Repr

def JsonFault.message : JsonFault → String
  | .expectedValue => "Expecting value"
  | .expectedName => "Expecting property name enclosed in double quotes"
  | .expectedColon => "Expecting ':' delimiter"
  | .expectedComma => "Expecting ',' delimiter"
  | .extraData => "Extra data"
  | .unterminatedString => "Unterminated string starting at"
  | .controlCharacter => "Invalid control character at"
  | .badEscape => "Invalid \\escape"
  | .badUnicodeEscape => "Invalid \\uXXXX escape"
  | .loneSurrogate => "Lone surrogate in \\uXXXX escape"
  | .byteOrderMark => "Unexpected UTF-8 BOM (decode using utf-8-sig)"

/-- A text that is no JSON, or one that holds an integer of too many digits. -/
inductive JsonError where
  | malformed (fault : JsonFault) (place : Nat) (source : List Char)
  | tooManyDigits (count : Nat)
  deriving DecidableEq, Repr

def JsonError.message : JsonError → String
  | .malformed fault place source =>
      let passed := source.take place
      let line := passed.count '\n' + 1
      let column := (passed.reverse.takeWhile (· != '\n')).length + 1
      fault.message ++ ": line " ++ toString line ++ " column " ++ toString column ++
        " (char " ++ toString place ++ ")"
  | .tooManyDigits count => digitsExceeded count

structure JsonRest where
  ahead : List Char
  place : Nat := 0

inductive JsonTrouble where
  | at (fault : JsonFault) (place : Nat)
  | digits (count : Nat)

abbrev JsonReader (α : Type) := JsonRest → Except JsonTrouble (α × JsonRest)

namespace JsonRest

def skip (rest : JsonRest) (count : Nat) : JsonRest :=
  ⟨rest.ahead.drop count, rest.place + count⟩

def isSpace (c : Char) : Bool := c == ' ' || c == '\t' || c == '\n' || c == '\r'

def skipSpace (rest : JsonRest) : JsonRest :=
  rest.skip (rest.ahead.takeWhile isSpace).length

def fault {α : Type} (rest : JsonRest) (what : JsonFault) : Except JsonTrouble α :=
  .error (.at what rest.place)

end JsonRest

/-! ## Strings -/

def hex4? (figures : List Char) : Option Nat :=
  if figures.length = 4 && figures.all Ascii.isHexDigit then some (baseValue 16 figures) else none

def plainEscape? : Char → Option Char
  | '"' => some '"'
  | '\\' => some '\\'
  | '/' => some '/'
  | 'b' => some (Char.ofNat 8)
  | 'f' => some (Char.ofNat 12)
  | 'n' => some '\n'
  | 'r' => some '\r'
  | 't' => some '\t'
  | _ => none

def isHighSurrogate (unit : Nat) : Bool := 55296 ≤ unit && unit ≤ 56319

def isLowSurrogate (unit : Nat) : Bool := 56320 ≤ unit && unit ≤ 57343

def joinSurrogates (high low : Nat) : Nat :=
  65536 + (high - 55296) * 1024 + (low - 56320)

/-- A unicode escape after its letter, which stands before `place`: the character, and how many
characters it took. A high surrogate takes the escape after it along, which has to be a low one. -/
def readUnicodeEscape (ahead : List Char) (place : Nat) : Except JsonTrouble (Char × Nat) :=
  let after := ahead.drop 4
  let alone : Except JsonTrouble (Char × Nat) := .error (.at .loneSurrogate (place - 1))
  match hex4? (ahead.take 4) with
  | none => .error (.at .badUnicodeEscape (place - 1))
  | some unit =>
      if after.isEmpty then .error (.at .badUnicodeEscape (place - 1))
      else if isHighSurrogate unit && !(after.drop 6).isEmpty && after.take 2 == ['\\', 'u'] then
        match hex4? ((after.drop 2).take 4) with
        | none => .error (.at .badUnicodeEscape (place + 5))
        | some low =>
            if isLowSurrogate low then .ok (Char.ofNat (joinSurrogates unit low), 10) else alone
      else if isHighSurrogate unit || isLowSurrogate unit then alone
      else .ok (Char.ofNat unit, 4)

def readJsonEscape (start place : Nat) : List Char → Except JsonTrouble (Char × Nat)
  | [] => .error (.at .unterminatedString start)
  | 'u' :: rest => (readUnicodeEscape rest (place + 2)).map fun found => (found.1, found.2 + 1)
  | c :: _ =>
      match plainEscape? c with
      | some c => .ok (c, 1)
      | none => .error (.at .badEscape place)

/-- The characters of a string after its opening quote, which stands at `start`. `taken` holds those
read so far, last one first, and `skip` counts characters of an escape still to be passed over. -/
def readStringFrom (start place skip : Nat) (taken : List Char) :
    List Char → Except JsonTrouble (List Char × JsonRest)
  | [] => .error (.at .unterminatedString start)
  | c :: rest =>
      match skip with
      | n + 1 => readStringFrom start (place + 1) n taken rest
      | 0 =>
          if c = '"' then .ok (taken.reverse, ⟨rest, place + 1⟩)
          else if c = '\\' then
            match readJsonEscape start place rest with
            | .ok (found, count) => readStringFrom start (place + 1) count (found :: taken) rest
            | .error trouble => .error trouble
          else if c.toNat < 32 then .error (.at .controlCharacter place)
          else readStringFrom start (place + 1) 0 (c :: taken) rest

def readString : JsonReader String := fun rest => do
  let (text, after) ← readStringFrom rest.place (rest.place + 1) 0 [] (rest.ahead.drop 1)
  .ok (String.ofList text, after)

/-! ## Numbers -/

/-- A decimal as floating point. Powers of ten far beyond the range of floating point are settled
before they are computed. -/
def floatOf (negative : Bool) (figures : List Char) (power : Int) : Float :=
  let value := baseValue 10 figures
  let size : Int := (figures.dropWhile (· == '0')).length + power
  if value = 0 then nearestDecimal negative 0 0
  else if 400 < size then nearestDecimal negative 1 400
  else if size < -400 then nearestDecimal negative 0 0
  else nearestDecimal negative value power

def takeDigits (text : List Char) : List Char :=
  text.takeWhile Ascii.isDigit

def fractionOf (text : List Char) : Option (List Char) :=
  match text with
  | '.' :: rest => if (takeDigits rest).isEmpty then none else some (takeDigits rest)
  | _ => none

def exponentOf (text : List Char) : Option (Int × Nat) :=
  match text with
  | e :: rest =>
      if e = 'e' || e = 'E' then
        let (negative, signed, rest) := match rest with
          | '-' :: rest => (true, 1, rest)
          | '+' :: rest => (false, 1, rest)
          | rest => (false, 0, rest)
        let figures := takeDigits rest
        if figures.isEmpty then none
        else
          let power : Int := baseValue 10 figures
          some (if negative then -power else power, 1 + signed + figures.length)
      else none
  | [] => none

def readNumber : JsonReader Value := fun rest =>
  let (negative, body) := match rest.ahead with
    | '-' :: body => (true, body)
    | body => (false, body)
  let whole := match body with
    | '0' :: _ => ['0']
    | body => takeDigits body
  if whole.isEmpty then rest.fault .expectedValue
  else
    let after := body.drop whole.length
    let fraction := fractionOf after
    let after := after.drop ((fraction.map (·.length + 1)).getD 0)
    let exponent := exponentOf after
    let size := (if negative then 1 else 0) + whole.length +
      (fraction.map (·.length + 1)).getD 0 + (exponent.map (·.2)).getD 0
    if fraction.isNone && exponent.isNone then
      if digitLimit < whole.length then .error (.digits whole.length)
      else
        let n : Int := baseValue 10 whole
        .ok (.int (if negative then -n else n), rest.skip size)
    else
      let decimals := fraction.getD []
      let power := (exponent.map (·.1)).getD 0 - decimals.length
      .ok (.float (floatOf negative (whole ++ decimals) power), rest.skip size)

/-! ## Values -/

def keywords : List (List Char × Value) :=
  [("null".toList, .nothing), ("true".toList, .bool true), ("false".toList, .bool false),
    ("NaN".toList, .float (0.0 / 0.0)), ("Infinity".toList, .float (1.0 / 0.0)),
    ("-Infinity".toList, .float (-1.0 / 0.0))]

mutual

def readValue : Nat → JsonReader Value
  | 0, rest => rest.fault .expectedValue
  | fuel + 1, rest =>
      match rest.ahead with
      | '"' :: _ => do
          let (text, rest) ← readString rest
          .ok (.text text, rest)
      | '[' :: _ =>
          let inner := (rest.skip 1).skipSpace
          if inner.ahead.head? == some ']' then .ok (.list [], inner.skip 1)
          else do
            let (items, rest) ← readItemsFrom fuel [] inner
            .ok (.list items, rest)
      | '\x7b' :: _ =>
          let inner := (rest.skip 1).skipSpace
          if inner.ahead.head? == some '\x7d' then .ok (.dict [], inner.skip 1)
          else do
            let (entries, rest) ← readEntriesFrom fuel [] inner
            .ok (.dict entries, rest)
      | text =>
          match keywords.find? fun entry => entry.1.isPrefixOf text with
          | some (word, value) => .ok (value, rest.skip word.length)
          | none => readNumber rest

def readItemsFrom : Nat → List Value → JsonReader (List Value)
  | 0, _, rest => rest.fault .expectedValue
  | fuel + 1, taken, rest => do
      let (item, rest) ← readValue fuel rest
      let rest := rest.skipSpace
      match rest.ahead with
      | ']' :: _ => .ok ((item :: taken).reverse, rest.skip 1)
      | ',' :: _ => readItemsFrom fuel (item :: taken) (rest.skip 1).skipSpace
      | _ => rest.fault .expectedComma

def readEntriesFrom : Nat → Settings → JsonReader Settings
  | 0, _, rest => rest.fault .expectedName
  | fuel + 1, taken, rest => do
      if rest.ahead.head? != some '"' then rest.fault .expectedName
      else
        let (name, rest) ← readString rest
        let rest := rest.skipSpace
        if rest.ahead.head? != some ':' then rest.fault .expectedColon
        else
          let (value, rest) ← readValue fuel (rest.skip 1).skipSpace
          -- Of equal names the last one counts, at the place of the first.
          let taken := taken.put name value
          let rest := rest.skipSpace
          match rest.ahead with
          | '\x7d' :: _ => .ok (taken, rest.skip 1)
          | ',' :: _ => readEntriesFrom fuel taken (rest.skip 1).skipSpace
          | _ => rest.fault .expectedComma

end

/-- Reads a text as one value. An opening bracket takes two units of fuel, and every item or entry that
another one follows takes one, so the fuel lasts for any text. -/
def readDocument (source : List Char) : Except JsonTrouble Value :=
  -- A mark of the byte order is not taken for white space.
  if source.head? == some (Char.ofNat 65279) then .error (.at .byteOrderMark 0)
  else do
    let (value, rest) ← readValue (2 * source.length + 2) (JsonRest.skipSpace ⟨source, 0⟩)
    let rest := rest.skipSpace
    if rest.ahead.isEmpty then .ok value else rest.fault .extraData

def Value.ofJson? (source : String) : Except JsonError Value :=
  match readDocument source.toList with
  | .ok value => .ok value
  | .error (.at fault place) => .error (.malformed fault place source.toList)
  | .error (.digits count) => .error (.tooManyDigits count)

end TextChain
