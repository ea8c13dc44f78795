import TextChain.PatternNode
import TextChain.Quoted

/-!
What can be wrong with a pattern or with a replacement, one constructor for each cause, and the
wording of each.
-/

namespace TextChain

inductive PatternFault where
  | danglingBackslash
  | badEscape (escape : List Char)
  | incompleteEscape (escape : List Char)
  | octalTooLarge (escape : List Char)
  | missing (what : String)
  | unterminatedName (mark : Char)
  | badGroupName (name : List Char)
  | unknownGroup (name : List Char)
  | redefinedGroup (name : List Char) (index earlier : Nat)
  | badGroupNumber
  | noSuchGroup (index : Nat)
  | openGroup
  | lookbehindGroup
  | unknownCharacterName (name : List Char)
  | unterminatedSet
  | badRange (low high : List Char)
  | nothingToRepeat
  | multipleRepeat
  | boundsCrossed
  | boundTooLarge
  | unexpectedEnd
  | unknownExtension (mark : List Char)
  | unterminatedComment
  | unterminatedGroup
  | thirdBranch
  | lateFlags
  | unknownFlag
  | incompatibleFlags
  | textFlag
  | globalFlagOn
  | globalFlagOff
  | kindFlagOff
  | flagOnAndOff
  | binaryFlag
  | kindsOfText
  | kindsOfBytes
  | unbalanced
  | looseLookbehind
  | distantLookbehind
  | repeatedTemplate (appetite : Appetite)
  | tooManyDigits (count : Nat)
  deriving DecidableEq, Repr

private def shown (text : List Char) : String :=
  String.ofList text

def Appetite.label : Appetite → String
  | .greedy => "MAX_REPEAT"
  | .lazy => "MIN_REPEAT"
  | .possessive => "POSSESSIVE_REPEAT"

def PatternFault.message : PatternFault → String
  | .danglingBackslash => "bad escape (end of pattern)"
  | .badEscape escape => "bad escape " ++ shown escape
  | .incompleteEscape escape => "incomplete escape " ++ shown escape
  | .octalTooLarge escape => "octal escape value " ++ shown escape ++ " outside of range 0-0o377"
  | .missing what => "missing " ++ what
  | .unterminatedName mark => "missing " ++ shown [mark] ++ ", unterminated name"
  | .badGroupName name => "bad character in group name " ++ shown (quoted name)
  | .unknownGroup name => "unknown group name " ++ shown (quoted name)
  | .redefinedGroup name index earlier =>
      "redefinition of group name " ++ shown (quoted name) ++ " as group " ++ toString index ++
        "; was group " ++ toString earlier
  | .badGroupNumber => "bad group number"
  | .noSuchGroup index => "invalid group reference " ++ toString index
  | .openGroup => "cannot refer to an open group"
  | .lookbehindGroup => "cannot refer to group defined in the same lookbehind subpattern"
  | .unknownCharacterName name => "undefined character name " ++ shown (quoted name)
  | .unterminatedSet => "unterminated character set"
  | .badRange low high => "bad character range " ++ shown low ++ "-" ++ shown high
  | .nothingToRepeat => "nothing to repeat"
  | .multipleRepeat => "multiple repeat"
  | .boundsCrossed => "min repeat greater than max repeat"
  | .boundTooLarge => "the repetition number is too large"
  | .unexpectedEnd => "unexpected end of pattern"
  | .unknownExtension mark => "unknown extension ?" ++ shown mark
  | .unterminatedComment => "missing ), unterminated comment"
  | .unterminatedGroup => "missing ), unterminated subpattern"
  | .thirdBranch => "conditional backref with more than two branches"
  | .lateFlags => "global flags not at the start of the expression"
  | .unknownFlag => "unknown flag"
  | .incompatibleFlags => "bad inline flags: flags 'a', 'u' and 'L' are incompatible"
  | .textFlag => "bad inline flags: cannot use 'L' flag with a str pattern"
  | .globalFlagOn => "bad inline flags: cannot turn on global flag"
  | .globalFlagOff => "bad inline flags: cannot turn off global flag"
  | .kindFlagOff => "bad inline flags: cannot turn off flags 'a', 'u' and 'L'"
  | .flagOnAndOff => "bad inline flags: flag turned on and off"
  | .binaryFlag => "bad inline flags: cannot use 'u' flag with a bytes pattern"
  | .kindsOfText => "ASCII and UNICODE flags are incompatible"
  | .kindsOfBytes => "ASCII and LOCALE flags are incompatible"
  | .unbalanced => "unbalanced parenthesis"
  | .looseLookbehind => "look-behind requires fixed-width pattern"
  | .distantLookbehind => "invalid SRE code"
  | .repeatedTemplate appetite => "internal: unsupported template operator " ++ appetite.label
  | .tooManyDigits count => digitsExceeded count

/-- A fault in a pattern or in a replacement, with the text and the character where it was found. A
binary text is one that stands for bytes. -/
structure PatternError where
  fault : PatternFault
  place : Option Nat
  source : List Char
  binary : Bool := false
  deriving DecidableEq, Repr

def PatternError.reason (error : PatternError) : String :=
  let message := error.fault.message
  if error.binary then
    String.ofList (message.toList.flatMap fun c => if c.toNat < 128 then [c] else pointEscape c.toNat)
  else message

/-- The line and the column of a place are told when the text has more than one line. -/
def PatternError.message (error : PatternError) : String :=
  match error.place with
  | none => error.reason
  | some place =>
      let text := error.reason ++ " at position " ++ toString place
      if error.source.contains '\n' then
        let passed := error.source.take place
        let line := passed.count '\n' + 1
        let column := (passed.reverse.takeWhile (· != '\n')).length + 1
        text ++ " (line " ++ toString line ++ ", column " ++ toString column ++ ")"
      else text

end TextChain
