import TextChain.CharacterNameTable
import TextChain.Digits
import TextChain.Search

/-!
Finding a character by its name, for escapes in patterns. Most names are listed; those of ideographs end
in their code point, and those of Hangul syllables are put together from the parts of the syllable.
Named sequences of characters are left out.
-/

namespace TextChain

/-! ## Listed names -/

def placeInLine? (name opening : String) (endings : List String) : Option Nat :=
  if name.startsWith opening then endings.findIdx? fun ending => opening ++ ending == name else none

def lineCode? (name line : String) : Option Nat :=
  match line.splitOn "|" with
  | [] => none
  | head :: endings =>
      match head.splitOn " " with
      | [] => none
      | code :: words =>
          (placeInLine? name (" ".intercalate words) endings).map fun place =>
            baseValue 16 code.toList + place

def listedCode? (name : String) : Option Nat :=
  ((characterNameLines.splitOn "\n").findSome? (lineCode? name)).or
    ((characterAliasLines.splitOn "\n").findSome? (lineCode? name))

/-! ## Names by rule -/

def codeNames : List (String × List Span) :=
  [("NUSHU CHARACTER-", [⟨110960, 111355⟩]),
    ("KHITAN SMALL SCRIPT CHARACTER-", [⟨101120, 101589⟩]),
    ("CJK COMPATIBILITY IDEOGRAPH-", [⟨63744, 64109⟩, ⟨64112, 64217⟩, ⟨194560, 195101⟩])]

def unifiedIdeographs : List Span :=
  [⟨13312, 19903⟩, ⟨19968, 40959⟩, ⟨131072, 173791⟩, ⟨173824, 177976⟩, ⟨177984, 178205⟩,
    ⟨178208, 183969⟩, ⟨183984, 191456⟩, ⟨196608, 201546⟩]

def isHexCapital (c : Char) : Bool := Ascii.isDigit c || ('A' ≤ c && c ≤ 'F')

/-- The code point at the end of a name, in four or five figures, when it lies in one of the spans.
`zeros` says whether a zero may stand in front. -/
def codeAfter? (zeros : Bool) (opening : String) (spans : List Span) (name : String) : Option Nat :=
  match dropHead? opening.toList name.toList with
  | none => none
  | some figures =>
      let code := baseValue 16 figures
      if figures.all isHexCapital && (figures.length == 4 || figures.length == 5) &&
          (zeros || figures.head? != some '0') && Span.covers spans code then
        some code
      else none

def leadSounds : List String :=
  ["G", "GG", "N", "D", "DD", "R", "M", "B", "BB", "S", "SS", "", "J", "JJ", "C", "K", "T", "P", "H"]

def vowelSounds : List String :=
  ["A", "AE", "YA", "YAE", "EO", "E", "YEO", "YE", "O", "WA", "WAE", "OE", "YO", "U", "WEO", "WE",
    "WI", "YU", "EU", "YI", "I"]

def tailSounds : List String :=
  ["", "G", "GG", "GS", "N", "NJ", "NH", "D", "L", "LG", "LM", "LB", "LS", "LT", "LP", "LH", "M", "B",
    "BS", "S", "SS", "NG", "J", "C", "K", "T", "P", "H"]

/-- The syllables in the order of their code points. -/
def syllables : List String :=
  leadSounds.flatMap fun lead => vowelSounds.flatMap fun vowel => tailSounds.map fun tail =>
    lead ++ vowel ++ tail

/-- The code point of a name. Listed names may be written in any case. -/
def characterNamed? (name : List Char) : Option Nat :=
  let given := String.ofList name
  let capital := String.ofList (name.map Ascii.toUpper)
  match dropHead? "HANGUL SYLLABLE ".toList name with
  | some syllable => (syllables.findIdx? (· == String.ofList syllable)).map (44032 + ·)
  | none =>
      ((codeAfter? true "CJK UNIFIED IDEOGRAPH-" unifiedIdeographs given).or
        (codeNames.findSome? fun entry => codeAfter? false entry.1 entry.2 capital)).or
        (listedCode? capital)

end TextChain
