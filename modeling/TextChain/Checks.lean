import TextChain.Checking
import TextChain.Edits

/-!
The assertions that are built in, with the settings they take. Settings may have any value, so each says
how it fails on those that it is not made for.
-/

namespace TextChain

def plainCheck (label summary : String) (need : Value → Outcome (List Char))
    (holds : List Char → Bool) : Form :=
  { label, summary
    family := .assertion
    work := fun _ _ value => (need value).map fun text => .bool (holds text) }

def textCheck (label summary : String) (holds : List Char → Bool) : Form :=
  plainCheck label summary Value.subject holds

def settingCheck (label summary : String) (schema : Schema)
    (holds : Settings → Value → Outcome Bool) : Form :=
  { label, summary, schema
    family := .assertion
    work := fun _ settings value => (holds settings value).map .bool }

namespace Check

/-! ## Parts -/

def substringSchema : Schema :=
  { required := [textParameter "substring" "Substring to look for" (.text "world")] }

def holdsPart (settings : Settings) (value : Value) : Outcome Bool := do
  let part ← settings.need "substring"
  value.holds part

def has : Form :=
  settingCheck "HasAssertion" "Check that the subject contains a substring." substringSchema holdsPart

def doesNotHave : Form :=
  settingCheck "DoesNotHaveAssertion" "Check that the subject does not contain a substring."
    substringSchema fun settings value => (holdsPart settings value).map (!·)

def begins (settings : Settings) (value : Value) : Outcome Bool := do
  let ⟨script, text⟩ ← value.method "startswith"
  let mark ← settings.need "prefix"
  Value.hasAffix "startswith" script (fun mark => TextChain.startsWith mark text) mark

def startsWith : Form :=
  settingCheck "StartsWithAssertion" "Check that the subject starts with a prefix."
    { required := [textParameter "prefix" "Expected prefix" (.text "he")] } begins

def ends (settings : Settings) (value : Value) : Outcome Bool := do
  let ⟨script, text⟩ ← value.method "endswith"
  let mark ← settings.need "suffix"
  Value.hasAffix "endswith" script (fun mark => TextChain.endsWith mark text) mark

def endsWith : Form :=
  settingCheck "EndsWithAssertion" "Check that the subject ends with a suffix."
    { required := [textParameter "suffix" "Expected suffix" (.text "lo")] } ends

def isExactly : Form :=
  settingCheck "IsExactlyAssertion" "Check that the subject equals a string exactly."
    { required := [textParameter "expected" "Exact expected value" (.text "foo")] }
    fun settings value => (settings.need "expected").map value.same

def isAmong (settings : Settings) (value : Value) : Outcome Bool := do
  let values ← settings.need "values"
  values.holds value

def anyOf : Form :=
  settingCheck "AnyOfAssertion" "Check that the subject equals one of the given values."
    { required := [{
        name := "values"
        type := some .list
        description := some "Allowed values"
        sample := some (.list [.text "bar", .text "foo", .text "baz"]) }] }
    isAmong

/-- The closing mark is only looked at when the opening one is there. -/
def encloses (settings : Settings) (value : Value) : Outcome Bool := do
  let opening ← settings.need "prefix"
  let closing ← settings.need "suffix"
  let ⟨script, text⟩ ← value.method "find"
  let first ← Value.needle script opening
  if !occursIn first text then .ok false
  else
    let _ ← opening.length
    let second ← Value.needle script closing
    .ok (Checking.isEnclosing first second text)

def isBetween : Form :=
  settingCheck "IsBetweenAssertion" "Check that some text sits between a prefix and a suffix marker."
    { required := [textParameter "prefix" "Start marker" (.text "e"),
        textParameter "suffix" "End marker" (.text "o")] }
    encloses

/-! ## Classes of characters -/

def isAlpha : Form :=
  textCheck "IsAlphaAssertion" "Check that the subject has only ASCII letters (and at least one)."
    (Checking.isRunOf Ascii.isLetter)

def isAlphaNumeric : Form :=
  textCheck "IsAlphaNumericAssertion" "Check that the subject has only ASCII letters and digits."
    (Checking.isRunOf Ascii.isLetterOrDigit)

def hasAllUppercase : Form :=
  textCheck "HasAllUppercaseAssertion"
    "Check that every letter in the subject is uppercase (needs one letter)." Checking.allUppercase

def hasAllLowercase : Form :=
  textCheck "HasAllLowercaseAssertion"
    "Check that every letter in the subject is lowercase (needs one letter)." Checking.allLowercase

def isUpperCase : Form :=
  textCheck "IsUpperCaseAssertion" "Check that the subject contains at least one uppercase letter."
    (·.any Ascii.isUpper)

def isLowerCase : Form :=
  textCheck "IsLowerCaseAssertion" "Check that the subject contains at least one lowercase letter."
    (·.any Ascii.isLower)

def isDigit : Form :=
  textCheck "IsDigitAssertion" "Check that the subject has only digits 0-9."
    (Checking.isRunOf Ascii.isDigit)

/-- Blank bytes count as a number like blank texts, but no other bytes can be asked. -/
def figures (value : Value) : Outcome (List Char) := do
  let ⟨script, text⟩ ← value.method "strip"
  let trimmed := script.trim text
  if trimmed.isEmpty then .ok [] else (script.value trimmed).subject

def isNumber : Form :=
  plainCheck "IsNumberConvertibleAssertion" "Check that the subject converts to a number." figures
    Checking.isNumber

def isWhitespace : Form :=
  textCheck "IsWhitespaceAssertion"
    "Check that the subject has only whitespace (and at least one character)."
    (Checking.isRunOf isBlank)

def hasNoEmoji : Form :=
  textCheck "HasNoEmojiAssertion" "Check that the subject has no emoticon (U+1F600 to U+1F64F)."
    fun text => !text.any Checking.isEmoticon

def keys (items : List Value) : Outcome (List Value) := do
  items.forM Value.hashable
  .ok items

def noRepeats (seen : List Value) : List Value → Bool
  | [] => true
  | item :: rest => !seen.any (fun other => other.same item) && noRepeats (item :: seen) rest

def isUnique (value : Value) : Outcome Bool :=
  match value.writing? with
  | some writing => .ok (Checking.allDifferent writing.chars)
  | none => do
      let items ← value.items
      let items ← keys items
      .ok (noRepeats [] items)

def hasUniqueCharacters : Form :=
  settingCheck "HasUniqueCharactersAssertion" "Check that no character appears twice." {}
    fun _ value => isUnique value

/-! ## Formats -/

def isEmail : Form :=
  textCheck "IsEmailAssertion" "Check email address format." Checking.isEmail

def isUrl : Form :=
  textCheck "IsUrlAssertion" "Check URL format." Checking.isUrl

def isUrlSafe : Form :=
  textCheck "IsUrlSafeAssertion" "Check that the subject has only unreserved URL characters."
    (Checking.isRunOf Checking.isUrlSafeChar)

def phoneSchema : Schema :=
  { required := [
      textParameter "preset" "Phone format preset: US, UG, or DEFAULT" (.text "US")] }

def preset? (setting : Value) : Option PhonePreset :=
  PhonePreset.all.find? fun preset => setting.same (.text preset.label)

/-- The default format has no rule, so nothing fits it. -/
def fitsPreset (preset : PhonePreset) (value : Value) : Outcome Bool :=
  match preset with
  | .us => value.subject.map Checking.isAmericanPhone
  | .ug => value.subject.map Checking.isUgandanPhone
  | .default => .ok false

def phone (name : Name) (settings : Settings) (value : Value) : Outcome Value := do
  let setting ← settings.need "preset"
  match preset? setting with
  | some preset => (fitsPreset preset value).map .bool
  | none => do
      setting.writable
      .error (.configuration (.phonePreset setting) name.toValue phoneSchema.toValue (.dict settings))

def phoneRemarks (name : Name) (settings : Settings) (_ : Value) : List Remark :=
  if (settings.get? "preset").bind preset? = some .default then
    [.note (name.plain ++ ": no rule for preset DEFAULT, failing")]
  else []

def isPhone : Form :=
  { label := "IsPhoneAssertion"
    family := .assertion
    summary := "Check phone number format for a preset."
    schema := phoneSchema
    work := phone
    remarks := phoneRemarks }

def isBase64 : Form :=
  textCheck "IsBase64Assertion" "Check that the subject is padded Base64 (the empty string passes)."
    Checking.isBase64

def isStrongPassword : Form :=
  textCheck "IsStrongPasswordAssertion" "Check strong password rules." Checking.isStrongPassword

/-! ## Patterns -/

def patternSchema : Schema :=
  { required := [textParameter "pattern" "Regex pattern (string or compiled)" (.text "\\d\x7b3\x7d")] }

def passes (settings : Settings) (value : Value) : Outcome Bool := do
  let setting ← settings.need "pattern"
  let p ← setting.toPattern
  let text ← value.subjectOf p
  .ok (p.find? text).isSome

def passesRegex : Form :=
  settingCheck "PassesRegexAssertion" "Check that a regex matches somewhere in the subject."
    patternSchema passes

def failsRegex : Form :=
  settingCheck "FailsRegexAssertion" "Check that a regex matches nowhere in the subject."
    patternSchema fun settings value => (passes settings value).map (!·)

/-! ## Structure -/

def withinBound (setting : Option Value) (broken : Value → Outcome Bool) : Outcome Bool :=
  match setting with
  | none => .ok true
  | some .nothing => .ok true
  | some bound => (broken bound).map (!·)

def withinBounds (settings : Settings) (length : Value) : Outcome Bool := do
  let enough ← withinBound (settings.get? "min_length") (Value.less "<" length)
  if enough then withinBound (settings.get? "max_length") length.above else .ok false

def fitsLength (settings : Settings) (value : Value) : Outcome Bool := do
  let count ← value.length
  let length : Value := .int count
  match settings.get? "length" with
  | none => withinBounds settings length
  | some .nothing => withinBounds settings length
  | some exact => .ok (length.same exact)

def lengthIs : Form :=
  settingCheck "LengthIsAssertion" "Check the subject length."
    { optional := [integerParameter "length" "Exact expected length" 3,
        integerParameter "min_length" "Minimum length (inclusive)" 3,
        integerParameter "max_length" "Maximum length (inclusive)" 6] }
    fitsLength

def sortedItems (value : Value) : Outcome (List Value) := do
  let items ← value.items
  Value.sorted items

def sameLetters (settings : Settings) (value : Value) : Outcome Bool := do
  match value.chars?, (settings.get? "other").bind Value.chars? with
  | some text, some other => .ok (Checking.isAnagram text other)
  | _, _ =>
      let items ← sortedItems value
      let other ← settings.need "other"
      let others ← sortedItems other
      .ok (Value.sameItems items others)

def anagram : Form :=
  settingCheck "AnagramAssertion" "Check that the subject is an anagram of another string."
    { required := [textParameter "other" "String to compare with" (.text "silent")] }
    sameLetters

def isPalindrome : Form :=
  textCheck "IsPalindromeAssertion"
    "Check that the subject reads the same backwards, ignoring case and punctuation."
    Checking.isPalindrome

def characterIs (settings : Settings) (value : Value) : Outcome Bool := do
  let place ← settings.need "index"
  let reached ← Value.atMost (.int 0) place
  if !reached then .ok false
  else
    let length ← value.length
    let inside ← Value.less "<" place (.int length)
    if !inside then .ok false
    else
      let character ← value.itemAt place
      let expected ← settings.need "expected"
      .ok (character.same expected)

def valueAt : Form :=
  settingCheck "ValueAtAssertion" "Check the character at an index (out of range never matches)."
    { required := [integerParameter "index" "Position of the character" 1,
        textParameter "expected" "Expected character" (.text "e")] }
    characterIs

def countsWords (settings : Settings) (value : Value) : Outcome Bool := do
  let words ← value.wordsOf
  let count ← settings.need "count"
  .ok ((Value.int words.length).same count)

def wordCount : Form :=
  settingCheck "WordCountAssertion" "Check the number of whitespace separated words."
    { required := [integerParameter "count" "Expected word count" 3] }
    countsWords

/-! ## Functions of the user -/

/-- What becomes of a call of the function, whose answer has to be a truth value. What the function raised is
written into the message of the error. -/
def customResult (name : Name) (outcome : Outcome Value) : Outcome Value :=
  match outcome with
  | .error source => do
      source.writable
      .error (.custom .checkRaised name.toValue (some source))
  | .ok (.bool b) => .ok (.bool b)
  | .ok _ => .error (.custom .checkAnswer name.toValue none)

def customAnswer (name : Name) (settings : Settings) (value : Value) : Outcome Value := do
  let function ← settings.need "function"
  customResult name (function.call value)

def custom : Form :=
  { label := "CustomCheckAssertion"
    family := .assertion
    summary := "Check the subject with a user supplied predicate."
    schema :=
      { required := [
          Edit.functionParameter "Predicate taking the subject and returning a bool"] }
    work := customAnswer
    remarks := fun _ settings value => Edit.sightings settings value }

/-- The forms of the catalogue under their names; the test for a number has two of them. -/
def all : List (String × Form) :=
  [("has", has), ("does_not_have", doesNotHave), ("starts_with", startsWith),
    ("ends_with", endsWith), ("is_exactly", isExactly), ("is_alpha", isAlpha),
    ("is_alpha_numeric", isAlphaNumeric), ("has_all_uppercase", hasAllUppercase),
    ("has_all_lowercase", hasAllLowercase), ("is_upper_case", isUpperCase),
    ("is_lower_case", isLowerCase), ("is_digit", isDigit), ("is_numeric", isNumber),
    ("is_whitespace", isWhitespace), ("is_email", isEmail), ("is_url", isUrl),
    ("is_url_safe", isUrlSafe), ("is_phone", isPhone), ("is_number_convertible", isNumber),
    ("passes_regex", passesRegex), ("fails_regex", failsRegex), ("any_of", anyOf),
    ("length_is", lengthIs), ("is_between", isBetween), ("has_no_emoji", hasNoEmoji),
    ("anagram", anagram), ("is_palindrome", isPalindrome),
    ("has_unique_characters", hasUniqueCharacters), ("where_value_at", valueAt),
    ("word_count", wordCount), ("is_base64", isBase64), ("is_strong_password", isStrongPassword),
    ("custom_check", custom)]

end Check

end TextChain
