import TextChain.Chain

/-!
The fluent methods of both chains. Every form of the catalogue has a method with named arguments, some of
which have standard values. A few methods open a step that a second method closes. Calls give a method
what it needs and no argument that it does not have; how other calls fail is left out.
-/

namespace TextChain

structure Argument where
  name : String
  standard : Option Value := none

/-- The arguments of a method: a fixed list of them, or any number of values under one name. -/
inductive Signature where
  | fixed (arguments : List Argument)
  | gathered (name : String)

structure Method where
  name : String
  signature : Signature

structure Call where
  method : String
  positional : List Value := []
  named : Settings := []

/-- Arguments take the values by position, then those by name, then their standard values. -/
def bindArguments : List Argument → List Value → Settings → Settings
  | [], _, _ => []
  | argument :: rest, value :: positional, named =>
      (argument.name, value) :: bindArguments rest positional named
  | argument :: rest, [], named =>
      match (named.get? argument.name).or argument.standard with
      | some value => (argument.name, value) :: bindArguments rest [] named
      | none => bindArguments rest [] named

def Signature.settings (signature : Signature) (call : Call) : Settings :=
  match signature with
  | .fixed arguments => bindArguments arguments call.positional call.named
  | .gathered name => [(name, .list call.positional)]

namespace Fluent

def needed (name : String) : Argument := { name }

def offered (name : String) (standard : Value) : Argument := { name, standard := some standard }

def plain (name : String) : Method := ⟨name, .fixed []⟩

def taking (name : String) (arguments : List Argument) : Method := ⟨name, .fixed arguments⟩

/-! ## Methods that record a step -/

def transformations : List Method :=
  [plain "to_upper_case", plain "to_lower_case", plain "to_pascal_case", plain "to_snake_case",
    plain "to_camel_case", plain "trim", plain "to_hex", plain "to_binary", plain "to_url_safe",
    plain "to_hash", taking "get_character_at" [needed "index"], plain "get_random_from",
    plain "randomize", taking "anagram" [needed "other"],
    taking "sanitize" [offered "remove_spaces" (.bool false), offered "remove_digits" (.bool false),
      offered "remove_special" (.bool false)],
    taking "replace" [needed "search", needed "replacement"],
    taking "replace_all" [needed "search", needed "replacement"],
    taking "remove_first" [needed "pattern"], taking "remove_all" [needed "pattern"],
    taking "add" [offered "prefix" .nothing, offered "suffix" .nothing],
    taking "pad" [needed "length", offered "char" (.text " "), offered "where" (.text "end")],
    taking "chunk" [needed "size", offered "separator" (.text "|")],
    taking "break_to_lines" [needed "characters_per_line"], taking "extract" [needed "pattern"],
    taking "extract_in_range" [needed "start", offered "end" .nothing],
    taking "extract_when_between" [needed "prefix", needed "suffix"], plain "escape_string",
    plain "un_escape_string", taking "custom_transform" [needed "function"]]

def assertions : List Method :=
  [taking "has" [needed "substring"], taking "does_not_have" [needed "substring"],
    taking "starts_with" [needed "prefix"], taking "ends_with" [needed "suffix"],
    taking "is_exactly" [needed "expected"], ⟨"any_of", .gathered "values"⟩,
    taking "is_between" [needed "prefix", needed "suffix"], plain "is_alpha",
    plain "is_alpha_numeric", plain "has_all_uppercase", plain "has_all_lowercase",
    plain "is_upper_case", plain "is_lower_case", plain "is_digit", plain "is_numeric",
    plain "is_number_convertible", plain "is_whitespace", plain "has_no_emoji",
    plain "has_unique_characters", plain "is_email", plain "is_url", plain "is_url_safe",
    taking "is_phone" [offered "preset" (.preset .default)], plain "is_base64",
    plain "is_strong_password", taking "passes_regex" [needed "pattern"],
    taking "fails_regex" [needed "pattern"],
    taking "length_is" [offered "length" .nothing, offered "min_length" .nothing,
      offered "max_length" .nothing],
    taking "anagram" [needed "other"], plain "is_palindrome",
    taking "custom_check" [needed "function"]]

def methods : Kind → List Method
  | .transformation => transformations
  | .assertion => assertions

/-! ## Methods that open a step -/

/-- What an opened step is called, the method that opens it, and the methods that close it. A closing
method names the form of the step. -/
structure Opener where
  label : String
  method : Method
  closers : List (String × Method)

def openers : Kind → List Opener
  | .transformation =>
      [{ label := "SplitContinuation"
         method := taking "split" [offered "separator" .nothing]
         closers := [("take_that_at", taking "take_that_at" [needed "index"]),
           ("join", taking "join" [offered "joiner" (.text "")])] }]
  | .assertion =>
      [{ label := "WhereValueAtContinuation"
         method := taking "where_value_at" [needed "index"]
         closers := [("is_", taking "where_value_at" [needed "expected"])] },
        { label := "WordCountContinuation"
          method := plain "word_count"
          closers := [("is_", taking "word_count" [needed "count"])] }]

end Fluent

/-! ## Requests -/

inductive Request where
  | record (name : Value) (settings : Settings)
  | negate
  | bridge
  | wait

def closeStep (opener : Fluent.Opener) (call : Call) (closing : Option Call) : Outcome Request :=
  match closing with
  | none => .ok .wait
  | some last =>
      match opener.closers.find? (·.1 == last.method) with
      | some (_, method) =>
          .ok (.record (.text method.name)
            (opener.method.signature.settings call ++ method.signature.settings last))
      | none => refuse (.noAttribute opener.label last.method)

def recordStep (kind : Kind) (call : Call) (closing : Option Call) : Outcome Request :=
  match (Fluent.methods kind).find? (·.name == call.method) with
  | some method => .ok (.record (.text method.name) (method.signature.settings call))
  | none =>
      match (Fluent.openers kind).find? (·.method.name == call.method) with
      | some opener => closeStep opener call closing
      | none => refuse (.noAttribute kind.chainLabel call.method)

def Kind.bridgeMethod : Kind → String
  | .transformation => "assert_that"
  | .assertion => "string_transform"

/-- What a call asks of a chain of a kind. `closing` is the call that closes an opened step. -/
def Call.request (kind : Kind) (call : Call) (closing : Option Call) : Outcome Request :=
  if call.method == "apply" then .ok (.record ((call.positional.head?).getD .nothing) call.named)
  else if call.method == kind.bridgeMethod then .ok .bridge
  else if call.method == "is_not" && kind == .assertion then .ok .negate
  else recordStep kind call closing

def Chain.perform (chain : Chain Operation) (catalogue : Catalogue) :
    Request → Outcome (Chain Operation)
  | .record name settings => chain.apply catalogue name settings
  | .negate => .ok chain.isNot
  | .bridge => chain.bridge
  | .wait => .ok chain

end TextChain
