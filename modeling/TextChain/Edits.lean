import TextChain.Editing
import TextChain.Form

/-!
The transformations that are built in, with the settings they take. What is left to chance is handed in,
so that results hold for every choice; how likely a choice is does not come into it.
-/

namespace TextChain

/-- A form without settings that maps the characters of a text. `need` says what is asked of the value
first. -/
def plainEdit (label summary : String) (need : Value → Outcome (List Char))
    (edit : List Char → List Char) : Form :=
  { label, summary
    family := .transformation
    work := fun _ _ value => (need value).map fun text => .ofChars (edit text) }

/-- A form without settings that maps the characters of a writing in its own script. `method` is what
values are asked for that are no writings. -/
def scriptEdit (label summary method : String) (edit : Script → List Char → List Char) : Form :=
  { label, summary
    family := .transformation
    work := fun _ _ value => (value.method method).map fun writing =>
      writing.script.value (edit writing.script writing.chars) }

def textParameter (name description : String) (sample : Value) : Parameter :=
  { name, type := some .text, description := some description, sample := some sample }

def integerParameter (name description : String) (sample : Int) : Parameter :=
  { name, type := some .integer, description := some description, sample := some (.int sample) }

def separatorParameter : Parameter :=
  { textParameter "separator" "Separator string or compiled regex (None splits into characters)"
      (.text ",") with standard := some .nothing }

namespace Edit

/-! ## Case and white space -/

def upperCase : Form :=
  scriptEdit "UpperCaseTransformation" "Convert string to uppercase." "upper" Script.upper

def lowerCase : Form :=
  scriptEdit "LowerCaseTransformation" "Convert string to lowercase." "lower" Script.lower

def pascalCase : Form :=
  plainEdit "PascalCaseTransformation" "Convert string to PascalCase." Value.subject
    Editing.pascalCase

def snakeCase : Form :=
  plainEdit "SnakeCaseTransformation" "Convert string to snake_case." Value.subject
    Editing.snakeCase

def camelCase : Form :=
  plainEdit "CamelCaseTransformation" "Convert string to camelCase." Value.subject
    Editing.camelCase

def trimmed : Form :=
  scriptEdit "TrimTransformation" "Strip whitespace from both ends of the string." "strip"
    Script.trim

/-! ## Parts -/

def partAt (name : Name) (settings : Settings) (value : Value) : Outcome Value := do
  let parts ← value.splitBy (settings.either "separator" .nothing)
  let place ← settings.need "index"
  let below ← Value.less "<" place (.int 0)
  let beyond ← if below then .ok true else place.atLeast (.int parts.length)
  if beyond then .error (.step .indexOutOfRange name.toValue)
  else Value.itemAt (.list parts) place

def takeThatAt : Form :=
  { label := "TakeThatAtTransformation"
    family := .transformation
    summary := "Split the string and keep the part at a given index."
    schema :=
      { required := [integerParameter "index" "Index of the part to keep" 1]
        optional := [separatorParameter] }
    work := partAt }

def joined : Form :=
  { label := "JoinTransformation"
    family := .transformation
    summary := "Split the string and join the parts back with another separator."
    schema :=
      { optional := [separatorParameter,
          { textParameter "joiner" "String placed between the joined parts" (.text "-") with
            standard := some (.text "") }] }
    work := fun _ settings value => do
      let parts ← value.splitBy (settings.either "separator" .nothing)
      Value.joinParts (settings.either "joiner" (.text "")) parts }

/-! ## Codes -/

def hex : Form :=
  plainEdit "HexTransformation" "Convert each character to its two-digit (minimum) hex code."
    Value.letters Editing.toHex

def binary : Form :=
  plainEdit "BinaryTransformation"
    "Convert each character to its 8-bit (minimum) binary code, space separated." Value.letters
    Editing.toBinary

def encoded (value : Value) : Outcome Value :=
  match value with
  | .bytes content => .ok (.ofChars (percentEncodeBytes content))
  | value =>
      match value.chars? with
      | some text => .ok (.ofChars (percentEncode text))
      | none => refuse .unquotable

def urlSafe : Form :=
  { label := "UrlSafeTransformation"
    family := .transformation
    summary := "Percent-encode the string for use in a URL component."
    work := fun _ _ value => encoded value }

def hash : Form :=
  plainEdit "HashTransformation"
    "Hash the string with djb2 and return the hash as a decimal string." Value.letters
    Editing.toHash

/-! ## Characters -/

def charAt (_ : Name) (settings : Settings) (value : Value) : Outcome Value := do
  let place ← settings.need "index"
  let reached ← Value.atMost (.int 0) place
  -- A place below zero has no character; it does not count from the end.
  if !reached then .ok (.text "")
  else
    let length ← value.length
    let inside ← Value.less "<" place (.int length)
    if inside then value.itemAt place else .ok (.text "")

def characterAt : Form :=
  { label := "CharacterAtTransformation"
    family := .transformation
    summary := "Return the character at an index, or an empty string if out of range."
    schema := { required := [integerParameter "index" "Position of the character" 2] }
    work := charAt }

/-- What is left to chance: the place that is taken out of so many items, and the order that items are
put into. -/
structure Chance where
  place : Nat → Int
  order : List Value → List Value

namespace Chance

/-- Any choice would do; this one is the first item, and the order in which the items stand. -/
def standing : Chance := ⟨fun _ => 0, id⟩

def item (chance : Chance) (value : Value) : Outcome Value :=
  if value.truthy then do
    let length ← value.length
    value.itemAt (.int (chance.place length))
  else .ok (.text "")

def shuffled (chance : Chance) (value : Value) : Outcome Value :=
  match value with
  -- A dictionary has no order to choose from.
  | .dict _ => refuse .population
  | value => do
      let _ ← value.length
      let items ← value.items
      Value.joinParts (.text "") (chance.order items)

end Chance

def randomCharacter (chance : Chance) : Form :=
  { label := "RandomCharacterTransformation"
    family := .transformation
    summary := "Return a random character from the string (empty string stays empty)."
    work := fun _ _ value => chance.item value }

def randomized (chance : Chance) : Form :=
  { label := "RandomizeTransformation"
    family := .transformation
    summary := "Shuffle the characters of the string."
    work := fun _ _ value => chance.shuffled value }

def mixed (_ : Name) (settings : Settings) (value : Value) : Outcome Value := do
  let other ← settings.need "other"
  let sum ← value.plus other
  match sum.chars? with
  | some text => .ok (.ofChars (Editing.sortChars text))
  | none =>
      let items ← sum.items
      let sorted ← Value.sorted items
      Value.joinParts (.text "") sorted

def anagram : Form :=
  { label := "AnagramTransformation"
    family := .transformation
    summary := "Merge the characters of the string with another string and sort them."
    schema :=
      { required := [textParameter "other" "String whose characters are mixed in" (.text "cab")] }
    work := mixed }

def flagParameter (name description : String) : Parameter :=
  { name, type := some .flag, description := some description, standard := some (.bool false) }

def cleaned (_ : Name) (settings : Settings) (value : Value) : Outcome Value := do
  let spaces := (settings.either "remove_spaces" (.bool false)).truthy
  let numerals := (settings.either "remove_digits" (.bool false)).truthy
  let special := (settings.either "remove_special" (.bool false)).truthy
  -- Nothing is asked for, so a value of any type passes.
  if !spaces && !numerals && !special then .ok value
  else
    let text ← value.subject
    .ok (.ofChars (Editing.sanitize spaces numerals special text))

def sanitized : Form :=
  { label := "SanitizeTransformation"
    family := .transformation
    summary := "Remove spaces, digits and/or special characters from the string."
    schema :=
      { optional := [flagParameter "remove_spaces" "Remove all whitespace",
          flagParameter "remove_digits" "Remove digits 0-9",
          { flagParameter "remove_special"
              "Remove everything except letters, digits, underscore and whitespace" with
            sample := some (.bool true) }] }
    work := cleaned }

/-! ## Replacement -/

def replacementSchema : Schema :=
  { required := [textParameter "search" "Literal string or compiled regex to search for" (.text "foo"),
      textParameter "replacement" "Replacement string" (.text "baz")] }

def replaceLiteral (search replacement value : Value) : Outcome Value := do
  let ⟨script, text⟩ ← value.method "replace"
  let needle ← Value.replaceArgument script 1 search
  let new ← Value.replaceArgument script 2 replacement
  .ok (script.value (replaceFirst needle new text))

def replaceOnce (_ : Name) (settings : Settings) (value : Value) : Outcome Value := do
  let search ← settings.need "search"
  let replacement ← settings.need "replacement"
  match search with
  | .pattern p => p.replaceFirst replacement value
  | search => replaceLiteral search replacement value

def rejoin (glue separator value : Value) : Outcome Value := do
  let _ ← glue.method "join"
  let parts ← value.splitBy separator
  Value.joinParts glue parts

def replaceEach (_ : Name) (settings : Settings) (value : Value) : Outcome Value := do
  let search ← settings.need "search"
  let replacement ← settings.need "replacement"
  match search with
  | .pattern p => p.replaceAll replacement value
  | search => rejoin replacement search value

def replaced : Form :=
  { label := "ReplaceTransformation"
    family := .transformation
    summary := "Replace the first occurrence of a substring or the first regex match."
    schema := replacementSchema
    work := replaceOnce }

def replacedAll : Form :=
  { label := "ReplaceAllTransformation"
    family := .transformation
    summary := "Replace every occurrence of a substring or every regex match."
    schema := replacementSchema
    work := replaceEach }

def removalSchema : Schema :=
  { required := [textParameter "pattern" "Literal string or compiled regex to remove" (.text "foo")] }

def removeOnce (_ : Name) (settings : Settings) (value : Value) : Outcome Value := do
  let search ← settings.need "pattern"
  match search with
  | .pattern p => p.replaceFirst (.text "") value
  | search => replaceLiteral search (.text "") value

def removeEach (_ : Name) (settings : Settings) (value : Value) : Outcome Value := do
  let search ← settings.need "pattern"
  match search with
  | .pattern p => p.replaceAll (.text "") value
  | search => rejoin (.text "") search value

def removedFirst : Form :=
  { label := "RemoveFirstTransformation"
    family := .transformation
    summary := "Remove the first occurrence of a substring or the first regex match."
    schema := removalSchema
    work := removeOnce }

def removedAll : Form :=
  { label := "RemoveAllTransformation"
    family := .transformation
    summary := "Remove every occurrence of a substring or every regex match."
    schema := removalSchema
    work := removeEach }

def added (_ : Name) (settings : Settings) (value : Value) : Outcome Value := do
  let front := settings.either "prefix" .nothing
  let back := settings.either "suffix" .nothing
  let value ← if front.truthy then front.plus value else .ok value
  if back.truthy then value.plus back else .ok value

def add : Form :=
  { label := "AddTransformation"
    family := .transformation
    summary := "Add a prefix and/or a suffix to the string."
    schema :=
      { optional := [
          { textParameter "prefix" "Text placed before the value" (.text "foo") with
            standard := some .nothing },
          { textParameter "suffix" "Text placed after the value" (.text "bar") with
            standard := some .nothing }] }
    work := added }

/-! ## Layout -/

def padSchema : Schema :=
  { required := [integerParameter "length" "Target length of the padded string" 7]
    optional := [
      { textParameter "char" "Fill character (or string)" (.text "*") with
        standard := some (.text " ") },
      { textParameter "where" "Where to pad: start, end, or both" (.text "both") with
        standard := some (.text "end") }] }

def side? (setting : Value) : Option Side :=
  if setting.same (.text "start") then some .start
  else if setting.same (.text "end") then some .finish
  else if setting.same (.text "both") then some .both
  else none

def fillOf (fill missing : Value) : Outcome Value := do
  let long ← fill.times missing
  long.part .nothing missing

/-- Pads on one side with a fill of exactly the missing length. On both sides the fill is repeated,
half as often before as characters are missing and the rest of the times after. -/
def padOn (side : Side) (fill missing value : Value) : Outcome Value :=
  match side with
  | .start => do
      let front ← fillOf fill missing
      front.plus value
  | .finish => do
      let back ← fillOf fill missing
      value.plus back
  | .both => do
      let before ← missing.half
      let after ← missing.minus before
      let front ← fill.times before
      let started ← front.plus value
      let back ← fill.times after
      started.plus back

def pad (name : Name) (settings : Settings) (value : Value) : Outcome Value := do
  let length ← settings.need "length"
  let fill := settings.either "char" (.text " ")
  let place := settings.either "where" (.text "end")
  match side? place with
  | none => do
      place.writable
      .error (.configuration (.padPosition place) name.toValue padSchema.toValue (.dict settings))
  | some side =>
      let present ← value.length
      let missing ← length.minus (.int present)
      let full ← missing.atMost (.int 0)
      if full || !fill.truthy then .ok value else padOn side fill missing value

def padded : Form :=
  { label := "PadTransformation"
    family := .transformation
    summary := "Pad the string to a target length."
    schema := padSchema
    work := pad }

def piecesWith (size glue value : Value) : Outcome Value := do
  let _ ← glue.method "join"
  let _ ← value.length
  let count ← Value.wholePlace (.notWhole size.faultName) size
  let pieces ← value.pieces count.toNat
  Value.joinParts glue pieces

def chunk (name : Name) (settings : Settings) (value : Value) : Outcome Value := do
  let size ← settings.need "size"
  let low ← size.atMost (.int 0)
  if low then do
    size.writable
    .error (.configuration (.chunkSize size) name.toValue .nothing (.dict settings))
  else piecesWith size (settings.either "separator" (.text "|")) value

def chunked : Form :=
  { label := "ChunkTransformation"
    family := .transformation
    summary := "Cut the string into fixed-size chunks joined by a separator."
    schema :=
      { required := [integerParameter "size" "Number of characters per chunk" 2]
        optional := [{ textParameter "separator" "String placed between chunks" (.text "-") with
          standard := some (.text "|") }] }
    work := chunk }

def lines (name : Name) (settings : Settings) (value : Value) : Outcome Value := do
  let width ← settings.need "characters_per_line"
  let low ← width.atMost (.int 0)
  if low then do
    width.writable
    .error (.configuration (.lineWidth width) name.toValue .nothing (.dict settings))
  else piecesWith width (.text "\n") value

def brokenToLines : Form :=
  { label := "BreakToLinesTransformation"
    family := .transformation
    summary := "Break the string into lines of a fixed number of characters."
    schema := { required := [integerParameter "characters_per_line" "Number of characters per line" 2] }
    work := lines }

/-! ## Extraction -/

def firstMatch (name : Name) (settings : Settings) (value : Value) : Outcome Value := do
  let setting ← settings.need "pattern"
  let p ← setting.toPattern
  let text ← value.subjectOf p
  match p.find? text with
  | some (_, hit, _) => .ok (p.script.value hit.text)
  | none => .error (.step .noMatch name.toValue)

def extracted : Form :=
  { label := "ExtractTransformation"
    family := .transformation
    summary := "Extract the first match of a regex pattern."
    schema := { required := [textParameter "pattern" "Regex pattern (string or compiled)" (.text "\\d+")] }
    work := firstMatch }

def range (_ : Name) (settings : Settings) (value : Value) : Outcome Value := do
  let start ← settings.need "start"
  value.part start (settings.either "end" .nothing)

def extractedInRange : Form :=
  { label := "ExtractInRangeTransformation"
    family := .transformation
    summary := "Extract the slice between two indexes (end exclusive, negatives allowed)."
    schema :=
      { required := [integerParameter "start" "Index where the slice starts" 1]
        optional := [{ integerParameter "end" "Index where the slice ends (exclusive)" 4 with
          standard := some .nothing }] }
    work := range }

/-- What stands between two marks. The closing one is only looked at when the opening one is there. -/
def enclosed (name : Name) (settings : Settings) (value : Value) : Outcome Value := do
  let opening ← settings.need "prefix"
  let closing ← settings.need "suffix"
  let ⟨script, text⟩ ← value.method "find"
  let first ← Value.needle script opening
  if !occursIn first text then .error (.step .marksNotFound name.toValue)
  else
    let _ ← opening.length
    let second ← Value.needle script closing
    match Editing.enclosed? first second text with
    | some part => .ok (script.value part)
    | none => .error (.step .marksNotFound name.toValue)

def extractedWhenBetween : Form :=
  { label := "ExtractWhenBetweenTransformation"
    family := .transformation
    summary := "Extract the text between a prefix marker and a suffix marker."
    schema :=
      { required := [textParameter "prefix" "Start marker" (.text "["),
          textParameter "suffix" "End marker" (.text "]")] }
    work := enclosed }

def escaped : Form :=
  plainEdit "EscapeTransformation" "Escape regex metacharacters with a backslash." Value.subject
    Editing.escapeMarks

def unescaped : Form :=
  plainEdit "UnescapeTransformation"
    "Remove the backslash in front of escaped regex metacharacters." Value.subject
    Editing.unescapeMarks

/-! ## Functions of the user -/

def functionParameter (description : String) : Parameter :=
  { name := "function", type := some .callable, description := some description }

def sightings (settings : Settings) (value : Value) : List Remark :=
  match settings.get? "function" with
  | some (.routine (.spy _) _) => [.sighting value]
  | _ => []

/-- What becomes of a call of the function, whose answer has to be a text. What the function raised and what
else it answered are written into the message of the error. -/
def customResult (name : Name) (outcome : Outcome Value) : Outcome Value :=
  match outcome with
  | .error source => do
      source.writable
      .error (.custom .transformRaised name.toValue (some source))
  | .ok answer =>
      if answer.isText then .ok answer
      else do
        answer.writable
        .error (.custom (.transformAnswer answer) name.toValue none)

def customAnswer (name : Name) (settings : Settings) (value : Value) : Outcome Value := do
  let function ← settings.need "function"
  customResult name (function.call value)

def custom : Form :=
  { label := "CustomTransformation"
    family := .transformation
    summary := "Apply a user supplied function."
    schema :=
      { required := [functionParameter
          "Function taking the current string and returning a new string"] }
    work := customAnswer
    remarks := fun _ settings value => sightings settings value }

def all (chance : Chance) : List (String × Form) :=
  [("to_upper_case", upperCase), ("to_lower_case", lowerCase), ("to_pascal_case", pascalCase),
    ("to_snake_case", snakeCase), ("to_camel_case", camelCase), ("trim", trimmed),
    ("take_that_at", takeThatAt), ("join", joined), ("to_hex", hex), ("to_binary", binary),
    ("to_url_safe", urlSafe), ("get_character_at", characterAt),
    ("get_random_from", randomCharacter chance), ("sanitize", sanitized), ("anagram", anagram),
    ("replace", replaced), ("replace_all", replacedAll), ("remove_first", removedFirst),
    ("remove_all", removedAll), ("add", add), ("pad", padded),
    ("randomize", randomized chance), ("chunk", chunked), ("break_to_lines", brokenToLines),
    ("extract", extracted), ("extract_in_range", extractedInRange),
    ("extract_when_between", extractedWhenBetween), ("escape_string", escaped),
    ("un_escape_string", unescaped), ("to_hash", hash), ("custom_transform", custom)]

end Edit

end TextChain
