import TextChain.JsonText
import TextChain.Similarity

/-!
The errors of the library and those of the runtime that its operations let out: one constructor for each
cause, and one function for the wording. Errors of classes that are defined elsewhere are left out, and so
are traces of the calls, exits, and running out of stack.
-/

namespace TextChain

/-! ## Operands of the wrong type -/

/-- What is wrong with the operands of an operator or with the arguments of a primitive. Types are
given by their names. -/
inductive OperandFault where
  | unsupported (sign left right : String)
  | concatenation (left right : String)
  | bytesConcatenation (right : String)
  | incomparable (sign left right : String)
  | multiplier (type : String)
  | tooLargeForFloat
  | tooLargeForCount
  | textTooLong
  | bytesTooLong
  | outOfMemory
  | textIndex (type : String)
  | itemIndex (family type : String)
  | textOutOfRange
  | itemOutOfRange (family : String)
  | byteOutOfRange
  | sliceBound
  | notWhole (type : String)
  | notSubscriptable (type : String)
  | noLength (type : String)
  | notIterable (type : String)
  | notContainer (type : String)
  | unhashable (type : String)
  | population
  | joinItem (script : Script) (place : Nat) (type : String)
  | part (type : String)
  | bytesNeeded (type : String)
  | byteRange
  | affix (test : String) (script : Script) (type : String)
  | affixItem (test type : String)
  | replaceArgument (place : Nat) (type : String)
  | separator (type : String)
  | emptySeparator
  | needle (type : String)
  | bytesNeedle (type : String)
  | character (type : String)
  | characterCount (count : Nat)
  | unquotable
  | patternType
  | bytesPattern
  | textPattern
  | subject (type : String)
  | noSubject
  | template (type : String)
  | unknownGroupName (name : List Char)
  | noSuchGroup
  | notCallable (type : String)
  | notAClass
  | noAttribute (type name : String)
  | integerText (shown : String)
  | integerType (type : String)
  | tooManyDigits (count : Nat)
  | unwritableInteger
  | integerOfNoNumber
  | integerOfInfinity
  | notAMember (shown family : String)
  deriving DecidableEq, Repr

private def inQuotes (s : String) : String := "'" ++ s ++ "'"

def Script.typeName : Script → String
  | .text => "str"
  | .bytes => "bytes"

def Script.joinPhrase : Script → String
  | .text => "expected str instance"
  | .bytes => "expected a bytes-like object"

def OperandFault.message : OperandFault → String
  | .unsupported sign left right =>
      "unsupported operand type(s) for " ++ sign ++ ": " ++ inQuotes left ++ " and " ++ inQuotes right
  | .concatenation left right =>
      "can only concatenate " ++ left ++ " (not \"" ++ right ++ "\") to " ++ left
  | .bytesConcatenation right => "can't concat " ++ right ++ " to bytes"
  | .incomparable sign left right =>
      inQuotes sign ++ " not supported between instances of " ++ inQuotes left ++ " and " ++
        inQuotes right
  | .multiplier type => "can't multiply sequence by non-int of type " ++ inQuotes type
  | .tooLargeForFloat => "int too large to convert to float"
  | .tooLargeForCount => "cannot fit 'int' into an index-sized integer"
  | .textTooLong => "repeated string is too long"
  | .bytesTooLong => "repeated bytes are too long"
  | .outOfMemory => ""
  | .textIndex type => "string indices must be integers, not " ++ inQuotes type
  | .itemIndex family type => family ++ " indices must be integers or slices, not " ++ type
  | .textOutOfRange => "string index out of range"
  | .itemOutOfRange family => family ++ " index out of range"
  | .byteOutOfRange => "index out of range"
  | .sliceBound => "slice indices must be integers or None or have an __index__ method"
  | .notWhole type => inQuotes type ++ " object cannot be interpreted as an integer"
  | .notSubscriptable type => inQuotes type ++ " object is not subscriptable"
  | .noLength type => "object of type " ++ inQuotes type ++ " has no len()"
  | .notIterable type => inQuotes type ++ " object is not iterable"
  | .notContainer type => "argument of type " ++ inQuotes type ++ " is not iterable"
  | .unhashable type => "unhashable type: " ++ inQuotes type
  | .population => "Population must be a sequence.  For dicts or sets, use sorted(d)."
  | .joinItem script place type =>
      "sequence item " ++ toString place ++ ": " ++ script.joinPhrase ++ ", " ++ type ++ " found"
  | .part type => "'in <string>' requires string as left operand, not " ++ type
  | .bytesNeeded type => "a bytes-like object is required, not " ++ inQuotes type
  | .byteRange => "byte must be in range(0, 256)"
  | .affix test script type =>
      test ++ " first arg must be " ++ script.typeName ++ " or a tuple of " ++ script.typeName ++
        ", not " ++ type
  | .affixItem test type => "tuple for " ++ test ++ " must only contain str, not " ++ type
  | .replaceArgument place type =>
      "replace() argument " ++ toString place ++ " must be str, not " ++ type
  | .separator type => "must be str or None, not " ++ type
  | .emptySeparator => "empty separator"
  | .needle type => "must be str, not " ++ type
  | .bytesNeedle type =>
      "argument should be integer or bytes-like object, not " ++ inQuotes type
  | .character type => "ord() expected string of length 1, but " ++ type ++ " found"
  | .characterCount count =>
      "ord() expected a character, but string of length " ++ toString count ++ " found"
  | .unquotable => "quote_from_bytes() expected bytes"
  | .patternType => "first argument must be string or compiled pattern"
  | .bytesPattern => "cannot use a bytes pattern on a string-like object"
  | .textPattern => "cannot use a string pattern on a bytes-like object"
  | .subject type => "expected string or bytes-like object, got " ++ inQuotes type
  | .noSubject => "split() missing required argument 'string' (pos 1)"
  | .template type => "decoding to str: need a bytes-like object, " ++ type ++ " found"
  | .unknownGroupName name => "unknown group name " ++ String.ofList (quoted name)
  | .noSuchGroup => "no such group"
  | .notCallable type => inQuotes type ++ " object is not callable"
  | .notAClass => "issubclass() arg 1 must be a class"
  | .noAttribute type name => inQuotes type ++ " object has no attribute " ++ inQuotes name
  | .integerText shown =>
      "invalid literal for int() with base 10: " ++ String.ofList (shown.toList.take 200)
  | .integerType type =>
      "int() argument must be a string, a bytes-like object or a real number, not " ++ inQuotes type
  | .tooManyDigits count => digitsExceeded count
  | .unwritableInteger => digitsUnwritable
  | .integerOfNoNumber => "cannot convert float NaN to integer"
  | .integerOfInfinity => "cannot convert float infinity to integer"
  | .notAMember shown family => shown ++ " is not a valid " ++ family

/-! ## Causes -/

inductive StepReason where
  | noMatch
  | indexOutOfRange
  | marksNotFound
  | given (message : Value)

def StepReason.message : StepReason → String
  | .noMatch => "No match found"
  | .indexOutOfRange => "Index out of range"
  | .marksNotFound => "Not found"
  | .given message => message.plain

inductive CustomReason where
  | transformRaised
  | checkRaised
  | transformAnswer (answer : Value)
  | checkAnswer
  | given (message : Value)

inductive ConfigurationReason where
  | emptyName
  | padPosition (found : Value)
  | chunkSize (found : Value)
  | lineWidth (found : Value)
  | phonePreset (found : Value)
  | missing (names : List String)
  | unknownKind (found : Value)
  | unclearKind (form : String)
  | unknownMode (found : Value)
  | misplaced (entry : String) (home : String)
  | given (message : Value)

def padPositions : List String := ["start", "end", "both"]

def kindLabels : List String := ["transformation", "assertion"]

def modeLabels : List String := ["transform", "assert"]

def ConfigurationReason.message : ConfigurationReason → String
  | .emptyName => "Operation name must not be empty"
  | .padPosition found =>
      "Invalid pad position '" ++ found.plain ++ "', expected one of: " ++ commaSeparated padPositions
  | .chunkSize found => "Chunk size must be positive, got " ++ found.plain
  | .lineWidth found => "Characters per line must be positive, got " ++ found.plain
  | .phonePreset found =>
      "Unknown phone preset '" ++ found.plain ++ "', expected one of: " ++
        commaSeparated (PhonePreset.all.map (·.label))
  | .missing names => "Missing required parameter(s): " ++ commaSeparated (names.map quotedText)
  | .unknownKind found =>
      "Unknown operation type '" ++ found.plain ++ "', expected one of: " ++ commaSeparated kindLabels
  | .unclearKind form =>
      "Cannot infer operation type of " ++ form ++
        "; subclass TransformationOperation or AssertionOperation, or pass operation_type"
  | .unknownMode found =>
      "Unknown chain mode '" ++ found.plain ++ "', expected one of: " ++ commaSeparated modeLabels
  | .misplaced entry home => "'" ++ entry ++ "' is only valid in " ++ home
  | .given message => message.plain

inductive BridgeReason where
  | transformationRaised
  | assertionRaised
  | assertionFalse
  | given (message : Value)

inductive DefinitionFault where
  | malformed (chain : String) (error : JsonError)
  | wrongType (type : String)
  | stepType (place : Nat) (chain type : String)
  | noOperation (place : Nat) (chain : String)
  | settingsType (place : Nat) (chain type : String)

def DefinitionFault.message : DefinitionFault → String
  | .malformed chain error =>
      match error with
      | .malformed _ _ _ => "Invalid JSON in chain '" ++ chain ++ "': " ++ error.message
      | .tooManyDigits _ => error.message
  | .wrongType type => "definition must be a JSON string or a list, not " ++ type
  | .stepType place chain type =>
      "Chain step at index " ++ toString place ++ " in '" ++ chain ++ "' must be an object, got " ++
        type ++ "."
  | .noOperation place chain =>
      "Chain step at index " ++ toString place ++ " in '" ++ chain ++
        "' is missing required 'operation' field."
  | .settingsType place chain type =>
      "Chain step at index " ++ toString place ++ " in '" ++ chain ++
        "' has an 'operation_config' that is not an object, got " ++ type ++ "."

/-! ## Close names -/

/-- A writing in small letters, as numbers. The bytes of a writing have numbers of their own, so they
are like no character. -/
def Writing.marks (writing : Writing) : List Nat :=
  match writing.script with
  | .text => (lower writing.chars).map (·.toNat)
  | .bytes => writing.chars.map fun c => 1114112 + (Ascii.toLower c).toNat

def Name.marks (name : Name) : List Nat :=
  Writing.marks ⟨.text, name.label.toList⟩

/-- Order by the first difference; a list comes after each of its proper beginnings. -/
def marksLe : List Nat → List Nat → Bool
  | [], _ => true
  | _ :: _, [] => false
  | x :: a, y :: b => if x = y then marksLe a b else x < y

def closestTo {α : Type} (marks : List Nat) (marksOf : α → List Nat) (candidates : List α) : List α :=
  let close := closeMatches marksLe marks (candidates.map marksOf)
  candidates.filter fun candidate => close.contains (marksOf candidate)

def suggestions (name : Value) (valid : List Name) : List Name :=
  match name.writing? with
  | none => []
  | some writing => closestTo writing.marks Name.marks valid

def sortNames (names : List Name) : List Name :=
  names.mergeSort fun a b => textLe a.label.toList b.label.toList

/-! ## Failures -/

inductive Failure where
  | operand (fault : OperandFault)
  | pattern (error : PatternError)
  | json (error : JsonError)
  | definition (fault : DefinitionFault)
  | subjectType (type : String)
  | raised (kind : ErrorKind) (details : List Value)
  | general (details : List Value)
  | step (reason : StepReason) (operation : Value)
  | custom (reason : CustomReason) (operation : Value) (source : Option Failure)
  | unknownOperation (name : Value) (valid : List Name)
  | configuration (reason : ConfigurationReason) (operation schema provided : Value)
  | bridge (reason : BridgeReason) (operation soFar : Value) (source : Option Failure)
  | caused (failure cause : Failure)

/-- The text of an error that was raised with details: none is empty, one stands by itself, several
form a tuple. A missing key is quoted. -/
def detailsText (kind : ErrorKind) : List Value → String
  | [] => ""
  | [detail] => if kind = .key then detail.shown else detail.plain
  | details => (Value.tuple details).shown

def unknownOperationText (name : Value) (valid : List Name) : String :=
  let close := suggestions name valid
  let hint :=
    if close.isEmpty then "" else " Did you mean: " ++ commaSeparated (close.map Name.label) ++ "?"
  let more :=
    if 10 < valid.length then " ... (" ++ toString (valid.length - 10) ++ " more)" else ""
  "Unknown operation: '" ++ name.plain ++ "'." ++ hint ++ "\nAvailable operations: " ++
    commaSeparated (((sortNames valid).take 10).map Name.label) ++ more

def Failure.message : Failure → String
  | .operand fault => fault.message
  | .pattern error => error.message
  | .json error => error.message
  | .definition fault => fault.message
  | .subjectType type => "Chain subject must be a string, not " ++ type
  | .raised kind details => detailsText kind details
  | .general details => detailsText .general details
  | .step reason _ => reason.message
  | .custom reason _ source =>
      match reason with
      | .transformRaised => "Custom transform function failed: " ++ sourceMessage source
      | .checkRaised => "Error evaluating predicate: " ++ sourceMessage source
      | .transformAnswer answer =>
          "Custom transform function must return a string, but returned " ++ answer.json
      | .checkAnswer => "Custom check function must return a boolean"
      | .given message => message.plain
  | .unknownOperation name valid => unknownOperationText name valid
  | .configuration reason operation _ _ =>
      if operation.truthy then "[" ++ operation.plain ++ "] " ++ reason.message else reason.message
  | .bridge reason operation soFar source =>
      match reason with
      | .transformationRaised =>
          "Transformation failed at step \"" ++ operation.plain ++ "\": " ++ sourceMessage source ++
            "\nValue so far: " ++ soFar.plain
      | .assertionRaised =>
          "Assertion failed at step \"" ++ operation.plain ++ "\": " ++ sourceMessage source ++
            "\nValue so far: " ++ soFar.plain
      | .assertionFalse => "Assertion failed at step \"" ++ operation.plain ++ "\""
      | .given message => message.plain
  | .caused failure _ => failure.message
where
  sourceMessage : Option Failure → String
    | some failure => failure.message
    | none => ""

/-! ## Classes of errors -/

/-- What a failure is an error of: a kind that functions may raise too, or one of those that only come up
at work. -/
inductive FailureClass where
  | kind (kind : ErrorKind)
  | attribute
  | overflow
  | memory
  | pattern
  | json
  deriving DecidableEq, Repr

def OperandFault.failureClass : OperandFault → FailureClass
  | .noAttribute _ _ => .attribute
  | .integerText _ | .tooManyDigits _ | .unwritableInteger | .integerOfNoNumber | .notAMember _ _
  | .byteRange | .emptySeparator => .kind .value
  | .tooLargeForFloat | .tooLargeForCount | .textTooLong | .bytesTooLong | .integerOfInfinity =>
      .overflow
  | .outOfMemory => .memory
  | .unknownGroupName _ | .noSuchGroup | .textOutOfRange | .itemOutOfRange _ | .byteOutOfRange =>
      .kind .index
  | _ => .kind .type

def PatternFault.failureClass : PatternFault → FailureClass
  | .boundTooLarge => .overflow
  | .distantLookbehind => .kind .runtime
  | .kindsOfText | .kindsOfBytes | .tooManyDigits _ => .kind .value
  | _ => .pattern

def DefinitionFault.failureClass : DefinitionFault → FailureClass
  | .wrongType _ => .kind .type
  | _ => .kind .value

def Failure.failureClass : Failure → FailureClass
  | .operand fault => fault.failureClass
  | .pattern error => error.fault.failureClass
  | .json (.malformed _ _ _) => .json
  | .json (.tooManyDigits _) => .kind .value
  | .definition fault => fault.failureClass
  | .subjectType _ => .kind .type
  | .raised kind _ => .kind kind
  | .general _ => .kind .general
  | .step _ _ => .kind .step
  | .custom _ _ _ => .kind .custom
  | .unknownOperation _ _ => .kind .unknownOperation
  | .configuration _ _ _ _ => .kind .configuration
  | .bridge _ _ _ _ => .kind .bridge
  | .caused failure _ => failure.failureClass

/-! ## Causes and details -/

def Failure.cause? : Failure → Option Failure
  | .definition (.malformed _ error) =>
      match error with
      | .malformed _ _ _ => some (.json error)
      | .tooManyDigits _ => none
  | .custom .transformRaised _ source => source
  | .custom .checkRaised _ source => source
  | .configuration (.phonePreset found) _ _ _ =>
      some (.operand (.notAMember found.shown "PhonePreset"))
  | .configuration (.unknownKind found) _ _ _ =>
      some (.operand (.notAMember found.shown "OperationType"))
  | .bridge .transformationRaised _ _ source => source
  | .bridge .assertionRaised _ _ source => source
  | .caused _ cause => some cause
  | _ => none

def Failure.bare : Failure → Failure
  | .caused failure _ => failure.bare
  | failure => failure

/-- A failure as a dictionary; only the failures of this library have one. -/
def Failure.details? (failure : Failure) : Option Value :=
  match failure.bare with
  | .general _ =>
      some (.dict [("error", .text "OperationError"), ("message", .text failure.bare.message)])
  | .step reason operation =>
      let message := match reason with
        | .given message => message
        | _ => .text failure.bare.message
      some (.dict [("error", .text "STEP_ERROR"), ("message", message), ("operation", operation)])
  | .custom reason operation _ =>
      let message := match reason with
        | .given message => message
        | _ => .text failure.bare.message
      let origin := match failure.cause? with
        | some cause => [("original_error", Value.text cause.message)]
        | none => []
      some (.dict ([("error", .text "CUSTOM_OPERATION_ERROR"), ("message", message),
        ("operation", operation)] ++ origin))
  | .unknownOperation name valid =>
      some (.dict [("error", .text "OPERATION_NOT_FOUND"), ("operation", name),
        ("suggestions", .list ((suggestions name valid).map Name.toValue)),
        ("valid_operations", .list ((sortNames valid).map Name.toValue))])
  | .configuration reason operation schema provided =>
      let message := match reason with
        | .given message => message
        | reason => .text reason.message
      some (.dict [("error", .text "CONFIGURATION_ERROR"), ("message", message),
        ("operation", operation), ("config_schema", schema), ("provided_config", provided)])
  | .bridge reason operation soFar source =>
      let message := match reason with
        | .given message => message
        | _ => .text failure.bare.message
      let origin := match source with
        | some source => [("original_error", Value.text source.message)]
        | none => []
      some (.dict ([("error", .text "BRIDGE_ERROR"), ("message", message), ("operation", operation),
        ("value_so_far", soFar)] ++ origin))
  | _ => none

def Failure.withSource (failure source : Failure) : Failure :=
  match failure with
  | .bridge reason operation soFar _ => .bridge reason operation soFar (some source)
  | failure => failure

/-! ## Outcomes -/

abbrev Outcome (α : Type) := Except Failure α

def refuse {α : Type} (fault : OperandFault) : Outcome α :=
  .error (.operand fault)

end TextChain
