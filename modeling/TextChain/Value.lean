import TextChain.PatternTemplate
import TextChain.Shortest

/-!
The values that steps are configured with and that pass through a chain, with the names of their
types, their truth and their equality. They are the values of JSON with bytes, tuples, patterns, phone
formats and a few functions. Objects of other classes are left out, and so is which object a value is:
equality is by content.
-/

namespace TextChain

inductive PhonePreset where
  | us
  | ug
  | default
  deriving DecidableEq, Repr

def PhonePreset.all : List PhonePreset := [.us, .ug, .default]

def PhonePreset.label : PhonePreset → String
  | .us => "US"
  | .ug => "UG"
  | .default => "DEFAULT"

inductive ErrorKind where
  | value
  | key
  | runtime
  | type
  | index
  | zeroDivision
  | general
  | step
  | custom
  | configuration
  | bridge
  | unknownOperation
  deriving DecidableEq, Repr

mutual

inductive Value where
  | nothing
  | bool (b : Bool)
  | int (n : Int)
  | float (x : Float)
  | text (s : String)
  | bytes (content : List UInt8)
  | list (items : List Value)
  | tuple (items : List Value)
  | dict (entries : List (String × Value))
  | pattern (p : Pattern)
  | preset (p : PhonePreset)
  | routine (r : Routine) (written : List (String × Value))

/-- A function of one value that a user hands to a step. What it was made from stands beside it where
it is used as a value, so that it can be told again as it came. -/
inductive Routine where
  | identity
  | reverse
  | double
  | length
  | contains (part : Value)
  | constant (answer : Value)
  | raises (kind : ErrorKind) (details : Option (List Value))
  | spy (answer : Option Value)

end

instance : Inhabited Value := ⟨.nothing⟩

abbrev Settings := List (String × Value)

def Settings.get? (settings : Settings) (name : String) : Option Value :=
  (settings.find? (·.1 == name)).map (·.2)

def Settings.has (settings : Settings) (name : String) : Bool :=
  settings.any (·.1 == name)

def Settings.put (settings : Settings) (name : String) (value : Value) : Settings :=
  if settings.has name then
    settings.map fun entry => if entry.1 == name then (name, value) else entry
  else settings ++ [(name, value)]

namespace Value

def ofChars (text : List Char) : Value :=
  .text (String.ofList text)

/-- A byte counts as the character of the same code, and other characters by the rest of theirs. -/
def ofByteChars (text : List Char) : Value :=
  .bytes (text.map fun c => UInt8.ofNat c.toNat)

/-- The characters of a text. A phone format counts as the text of its name. -/
def chars? : Value → Option (List Char)
  | .text s => some s.toList
  | .preset p => some p.label.toList
  | _ => none

def isText (value : Value) : Bool := value.chars?.isSome

def int? : Value → Option Int
  | .int n => some n
  | .bool b => some (if b then 1 else 0)
  | _ => none

def typeName : Value → String
  | .nothing => "NoneType"
  | .bool _ => "bool"
  | .int _ => "int"
  | .float _ => "float"
  | .text _ => "str"
  | .bytes _ => "bytes"
  | .list _ => "list"
  | .tuple _ => "tuple"
  | .dict _ => "dict"
  | .pattern _ => "Pattern"
  | .preset _ => "PhonePreset"
  | .routine _ _ => "Fn"

def faultName : Value → String
  | .pattern _ => "re.Pattern"
  | value => value.typeName

def logName : Value → String
  | .nothing => "None"
  | value => value.typeName

def truthy : Value → Bool
  | .nothing => false
  | .bool b => b
  | .int n => n != 0
  | .float x => x != 0
  | .text s => s != ""
  | .bytes content => !content.isEmpty
  | .list items => !items.isEmpty
  | .tuple items => !items.isEmpty
  | .dict entries => !entries.isEmpty
  | .pattern _ | .preset _ | .routine _ _ => true

/-! ## Equality -/

mutual

/-- Equality by content. Numbers are equal across their types, the order of the entries of a dictionary
does not count, and two functions are never equal. -/
def same : Value → Value → Bool
  | .nothing, .nothing => true
  -- Whatever stands on the left, numbers are compared with numbers of any type.
  | .bool a, other => other.int? == some (if a then 1 else 0) ||
      sameFloat (if a then 1 else 0) other
  | .int n, other => other.int? == some n || sameFloat n other
  | .float x, .float y => x == y
  | .float x, other =>
      match other.int? with
      | some n => compareInt n (binary64 x) == some .eq
      | none => false
  | .text s, other => other.chars? == some s.toList
  | .preset p, other => other.chars? == some p.label.toList
  | .bytes a, .bytes b => a == b
  -- Lists and tuples are never equal to each other.
  | .list a, .list b => sameItems a b
  | .tuple a, .tuple b => sameItems a b
  | .dict a, .dict b => a.length == b.length && sameEntries a b
  | .pattern a, .pattern b => a.source == b.source && a.binary == b.binary && a.flags == b.flags
  | _, _ => false

def sameFloat (n : Int) : Value → Bool
  | .float x => compareInt n (binary64 x) == some .eq
  | _ => false

def sameItems : List Value → List Value → Bool
  | [], [] => true
  | a :: as, b :: bs => same a b && sameItems as bs
  | _, _ => false

def sameEntries : List (String × Value) → List (String × Value) → Bool
  | [], _ => true
  | (name, a) :: rest, entries =>
      (match Settings.get? entries name with
      | some b => same a b
      | none => false) && sameEntries rest entries

end

/-! ## Writings -/

end Value

inductive Script where
  | text
  | bytes
  deriving DecidableEq, Repr

structure Writing where
  script : Script
  chars : List Char
  deriving DecidableEq, Repr

def Value.writing? : Value → Option Writing
  | .text s => some ⟨.text, s.toList⟩
  | .preset p => some ⟨.text, p.label.toList⟩
  | .bytes content => some ⟨.bytes, content.map fun byte => Char.ofNat byte.toNat⟩
  | _ => none

def Script.value : Script → List Char → Value
  | .text, chars => .ofChars chars
  | .bytes, chars => .ofByteChars chars

/-! ## Names -/

/-- What a step is called: a text, or a phone format, which counts as the text of its label. -/
inductive Name where
  | text (s : String)
  | preset (p : PhonePreset)
  deriving DecidableEq, Repr

namespace Name

def label : Name → String
  | .text s => s
  | .preset p => p.label

def toValue : Name → Value
  | .text s => .text s
  | .preset p => .preset p

end Name

def Value.name? : Value → Option Name
  | .text s => some (.text s)
  | .preset p => some (.preset p)
  | _ => none

end TextChain
