import TextChain.Value

/-!
The written forms of values: quoted as inside a container, plain as inside a message, and as JSON. An
integer of any size has one; where it is too long to be written, the caller asks first.
-/

namespace TextChain

def commaSeparated (parts : List String) : String :=
  String.intercalate ", " parts

def bracketed (opening closing : String) (parts : List String) : String :=
  opening ++ commaSeparated parts ++ closing

def quotedText (s : String) : String :=
  String.ofList (quoted s.toList)

def flagNames (flags : Flags) : List String :=
  [(flags.ignoreCase, "re.IGNORECASE"), (flags.multiline, "re.MULTILINE"),
    (flags.dotAll, "re.DOTALL"), (flags.verbose, "re.VERBOSE"),
    (flags.ascii, "re.ASCII")].filterMap fun entry => if entry.1 then some entry.2 else none

/-- A pattern is written with its flags; the quoted text is cut after two hundred characters. -/
def patternText (p : Pattern) : String :=
  let source := String.ofList ((quoted p.source).take 200)
  let flags := flagNames p.flags
  if flags.isEmpty then "re.compile(" ++ source ++ ")"
  else "re.compile(" ++ source ++ ", " ++ String.intercalate "|" flags ++ ")"

def presetText (p : PhonePreset) : String :=
  "PhonePreset." ++ p.label

def Routine.label : Routine → String
  | .identity => "identity"
  | .reverse => "reverse"
  | .double => "double"
  | .length => "length"
  | .contains _ => "contains"
  | .constant _ => "return"
  | .raises _ _ => "raise"
  | .spy _ => "spy"

def routineText (r : Routine) : String :=
  "<fn " ++ r.label ++ ">"

def boolText (b : Bool) : String :=
  if b then "True" else "False"

mutual

/-- A value as it is written inside a container. -/
def Value.shown : Value → String
  | .nothing => "None"
  | .bool b => boolText b
  | .int n => toString n
  | .float x => floatText x
  | .text s => quotedText s
  | .bytes content => String.ofList (quotedBytes content)
  | .list items => bracketed "[" "]" (shownItems items)
  | .tuple [item] => "(" ++ item.shown ++ ",)"
  | .tuple items => bracketed "(" ")" (shownItems items)
  | .dict entries => bracketed "\x7b" "\x7d" (shownEntries entries)
  | .pattern p => patternText p
  | .preset p => "<" ++ presetText p ++ ": " ++ quotedText p.label ++ ">"
  | .routine r _ => routineText r

def shownItems : List Value → List String
  | [] => []
  | item :: rest => item.shown :: shownItems rest

def shownEntries : List (String × Value) → List String
  | [] => []
  | (name, value) :: rest => (quotedText name ++ ": " ++ value.shown) :: shownEntries rest

end

def Value.plain : Value → String
  | .text s => s
  | .preset p => presetText p
  | value => value.shown

def Name.plain (name : Name) : String := name.toValue.plain

/-! ## JSON -/

def unicodeEscape (unit : Nat) : List Char :=
  '\\' :: 'u' :: paddedDigits 16 4 unit

def jsonChar (c : Char) : List Char :=
  if c = '"' || c = '\\' then ['\\', c]
  else if c = '\n' then ['\\', 'n']
  else if c = '\r' then ['\\', 'r']
  else if c = '\t' then ['\\', 't']
  else if c.toNat = 8 then ['\\', 'b']
  else if c.toNat = 12 then ['\\', 'f']
  else if 32 ≤ c.toNat && c.toNat ≤ 126 then [c]
  else (units16 c).flatMap unicodeEscape

def jsonString (s : String) : String :=
  String.ofList ('"' :: s.toList.flatMap jsonChar ++ ['"'])

def jsonFloat (x : Float) : String :=
  match binary64 x with
  | .notANumber => "NaN"
  | .infinite negative => if negative then "-Infinity" else "Infinity"
  | finite => String.ofList finite.text

mutual

/-- A value as JSON text. Tuples become arrays, and what JSON cannot hold becomes the string of its
written form. -/
def Value.json : Value → String
  | .nothing => "null"
  | .bool b => if b then "true" else "false"
  | .int n => toString n
  | .float x => jsonFloat x
  | .text s => jsonString s
  | .preset p => jsonString p.label
  | .list items => bracketed "[" "]" (jsonItems items)
  | .tuple items => bracketed "[" "]" (jsonItems items)
  | .dict entries => bracketed "\x7b" "\x7d" (jsonEntries entries)
  | .bytes content => jsonString (String.ofList (quotedBytes content))
  | .pattern p => jsonString (patternText p)
  | .routine r _ => jsonString (routineText r)

def jsonItems : List Value → List String
  | [] => []
  | item :: rest => item.json :: jsonItems rest

def jsonEntries : List (String × Value) → List String
  | [] => []
  | (name, value) :: rest => (jsonString name ++ ": " ++ value.json) :: jsonEntries rest

end

end TextChain
