import TextChain.Search
import TextChain.Layout
import TextChain.Percent
import TextChain.Hash
import TextChain.LetterCase

/-!
What the transformations do to the characters of a text. Chains of pattern substitutions are written as
walks from character to character; results about names in snake and camel case, about escapes and about
what is swept away also say that the substitutions come to the same.
-/

namespace TextChain

namespace Editing

/-! ## Names written in one word -/

def withBefore (text : List Char) : List (Char × Char) :=
  List.zip ('.' :: text) text

def isSeparator (c : Char) : Bool :=
  isBlank c || c == '-' || c == '_'

/-- A hump begins with a capital after a small letter or a digit. -/
def isHump (before c : Char) : Bool :=
  (Ascii.isLower before || Ascii.isDigit before) && Ascii.isUpper c

def pascalCase (text : List Char) : List Char :=
  ((withBefore text).map fun (before, c) =>
    if Ascii.isWord before then Ascii.toLower c else Ascii.toUpper c).filter (!isSeparator ·)

/-- A run of separators becomes one low line, and a hump gets one in front of it. -/
def snakeChar (before c : Char) : List Char :=
  if isSeparator c then if isSeparator before then [] else ['_']
  else if isHump before c then ['_', c]
  else [c]

def snakeCase (text : List Char) : List Char :=
  lower ((withBefore text).flatMap fun (before, c) => snakeChar before c)

/-- Separators go, and the character after them becomes a capital. -/
def camelChar (before c : Char) : List Char :=
  if isSeparator c then []
  else if isSeparator before then upperOf c
  else [c]

def camelCase (text : List Char) : List Char :=
  let joined := (withBefore text).flatMap fun (before, c) => camelChar before c
  lower (joined.take 1) ++ joined.drop 1

/-! ## Codes -/

def toHex (text : List Char) : List Char :=
  text.flatMap fun c => paddedDigits 16 2 c.toNat

def toBinary (text : List Char) : List Char :=
  [' '].intercalate (text.map fun c => paddedDigits 2 8 c.toNat)

def toHash (text : List Char) : List Char :=
  decimal (textHash text)

/-! ## Characters -/

def charLe (a b : Char) : Bool := a.toNat ≤ b.toNat

def sortChars (text : List Char) : List Char :=
  text.mergeSort charLe

def isSpecial (c : Char) : Bool :=
  !Ascii.isWord c && !isBlank c

/-- Removes white space, then digits, then special characters, as far as each is asked for. -/
def sanitize (spaces numerals special : Bool) (text : List Char) : List Char :=
  let text := if spaces then text.filter (!isBlank ·) else text
  let text := if numerals then text.filter (!Ascii.isDigit ·) else text
  if special then text.filter (!isSpecial ·) else text

/-! ## Marks with a meaning in patterns -/

def patternMarks : List Char := "-/\\^$*+?.()|[]\x7b\x7d".toList

def isMark (c : Char) : Bool := patternMarks.contains c

def escapeMarks (text : List Char) : List Char :=
  text.flatMap fun c => if isMark c then ['\\', c] else [c]

/-- Takes the backslash before such marks away. `done` holds the result so far, last character first, and
`pending` says whether a backslash came before that still has to be placed. -/
def unescapeFrom (done : List Char) (pending : Bool) : List Char → List Char
  | [] => (if pending then '\\' :: done else done).reverse
  | c :: rest =>
      if pending then
        -- The mark has used the backslash up, also where it is a backslash itself.
        if isMark c then unescapeFrom (c :: done) false rest
        else unescapeFrom (c :: '\\' :: done) false rest
      else if c = '\\' then unescapeFrom done true rest
      else unescapeFrom (c :: done) false rest

/-- Takes the backslash before every such mark away; a mark that is a backslash itself takes part once. -/
def unescapeMarks (text : List Char) : List Char :=
  unescapeFrom [] false text

/-! ## Text between marks -/

/-- The text enclosed by two marks. The closing mark has to come after the start of the opening one. -/
def enclosed? (opening closing text : List Char) : Option (List Char) :=
  match between? opening closing text with
  -- Behind an empty opening mark an end at once is where the search began, and counts as not found.
  | some [] => if opening.isEmpty then none else some []
  | found => found

end Editing

end TextChain
