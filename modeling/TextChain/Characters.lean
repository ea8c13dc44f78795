import TextChain.CharacterTables

/-!
Character classes: white space, word characters, letters, digits, the characters that names are made
of, and those that have no visible form. Each class comes in full; the common ones also come cut down
to ASCII. Characters are the code points that are no surrogates, and so texts never hold one.
-/

namespace TextChain

def isBlank (c : Char) : Bool :=
  Span.covers
    [⟨9, 13⟩, ⟨28, 32⟩, ⟨133, 133⟩, ⟨160, 160⟩, ⟨5760, 5760⟩, ⟨8192, 8202⟩, ⟨8232, 8233⟩,
      ⟨8239, 8239⟩, ⟨8287, 8287⟩, ⟨12288, 12288⟩] c.toNat

def isWord (c : Char) : Bool :=
  Span.covers wordSpans c.toNat

def isDigit (c : Char) : Bool :=
  Span.covers digitSpans c.toNat

def isLetter (c : Char) : Bool :=
  isWord c && c != '_' && !Span.covers numeralSpans c.toNat

/-- Hidden characters are written by their code point in a quoted text. -/
def isHidden (c : Char) : Bool :=
  Span.covers hiddenSpans c.toNat

/-- The value of a decimal digit of any script: digits come in runs of ten that start at zero. -/
def digitValue? (c : Char) : Option Nat :=
  (digitSpans.find? fun span => span.low ≤ c.toNat && c.toNat ≤ span.high).map
    fun span => (c.toNat - span.low) % 10

/-! ## Names -/

/-- A name begins with a letter, a numeral that is written with letters, or a low line. A few letters
that decompose into something else may not begin one. -/
def beginsName (c : Char) : Bool :=
  c == '_' ||
    (isLetter c && !Span.covers
      [⟨890, 890⟩, ⟨3635, 3635⟩, ⟨3763, 3763⟩, ⟨11823, 11823⟩, ⟨64606, 64611⟩, ⟨65018, 65019⟩,
        ⟨65136, 65136⟩, ⟨65138, 65138⟩, ⟨65140, 65140⟩, ⟨65142, 65142⟩, ⟨65144, 65144⟩,
        ⟨65146, 65146⟩, ⟨65148, 65148⟩, ⟨65150, 65150⟩, ⟨65438, 65439⟩] c.toNat) ||
    Span.covers
      [⟨5870, 5872⟩, ⟨6277, 6278⟩, ⟨8472, 8472⟩, ⟨8494, 8494⟩, ⟨8544, 8578⟩, ⟨8581, 8584⟩,
        ⟨12295, 12295⟩, ⟨12321, 12329⟩, ⟨12344, 12346⟩, ⟨42726, 42735⟩, ⟨65856, 65908⟩,
        ⟨66369, 66369⟩, ⟨66378, 66378⟩, ⟨66513, 66517⟩, ⟨74752, 74862⟩] c.toNat

def continuesName (c : Char) : Bool :=
  beginsName c || isDigit c || Span.covers joiningSpans c.toNat

def isName : List Char → Bool
  | [] => false
  | c :: rest => beginsName c && rest.all continuesName

/-! ## ASCII -/

namespace Ascii

def isUpper (c : Char) : Bool := 'A' ≤ c && c ≤ 'Z'

def isLower (c : Char) : Bool := 'a' ≤ c && c ≤ 'z'

def isLetter (c : Char) : Bool := isUpper c || isLower c

def isDigit (c : Char) : Bool := '0' ≤ c && c ≤ '9'

def isLetterOrDigit (c : Char) : Bool := isLetter c || isDigit c

def isWord (c : Char) : Bool := isLetterOrDigit c || c == '_'

def isBlank (c : Char) : Bool := c == ' ' || ('\t' ≤ c && c ≤ '\r')

def isHexDigit (c : Char) : Bool :=
  isDigit c || ('a' ≤ c && c ≤ 'f') || ('A' ≤ c && c ≤ 'F')

def isOctalDigit (c : Char) : Bool := '0' ≤ c && c ≤ '7'

def isBinaryDigit (c : Char) : Bool := c == '0' || c == '1'

def toLower (c : Char) : Char :=
  if isUpper c then Char.ofNat (c.toNat + 32) else c

def toUpper (c : Char) : Char :=
  if isLower c then Char.ofNat (c.toNat - 32) else c

end Ascii

/-! ## Blank-separated words -/

def trimStartBy (blank : Char → Bool) (text : List Char) : List Char :=
  text.dropWhile blank

def trimBy (blank : Char → Bool) (text : List Char) : List Char :=
  (trimStartBy blank (trimStartBy blank text).reverse).reverse

def trim (text : List Char) : List Char :=
  trimBy isBlank text

/-- Words are the maximal runs of characters that are not blank. -/
def wordsBy (blank : Char → Bool) (text : List Char) : List (List Char) :=
  (text.splitOnP blank).filter fun word => !word.isEmpty

end TextChain
