import TextChain.PatternSearch
import TextChain.PatternReader

/-!
Patterns that are ready to be searched for. A pattern for bytes takes each byte as the character of the
same code and knows no letters beyond ASCII. Patterns for the letters of a locale are left out.
-/

namespace TextChain

/-! ## Defects -/

/-- A lookbehind cannot go back further than this many characters. -/
def lookbehindLimit : Nat := 2147483648

namespace Node

def inOrder : Node → List Node
  | .sequence first second => first.inOrder ++ second.inOrder
  | .choice first second => first.inOrder ++ second.inOrder
  | .group _ body => body.inOrder
  | .scoped _ body => body.inOrder
  | .atomic body => body.inOrder
  | .ahead _ body => body.inOrder
  | .behind negated width body => .behind negated width body :: body.inOrder
  | .conditional _ present absent => present.inOrder ++ absent.inOrder
  | .loop appetite least most body => .loop appetite least most body :: body.inOrder
  | node => [node]

/-- A lookbehind has to know how far it goes back, and in a template nothing may be repeated. -/
def loose? (template : Bool) : Node → Option PatternFault
  | .behind _ width _ => if width.fixed?.isNone then some .looseLookbehind else none
  | .loop appetite _ _ _ => if template then some (.repeatedTemplate appetite) else none
  | _ => none

def distant? : Node → Option PatternFault
  | .behind _ width _ => if lookbehindLimit ≤ width.least then some .distantLookbehind else none
  | _ => none

/-- The first defect of a pattern; that a lookbehind goes back too far is only seen in the end. -/
def defect? (template : Bool) (node : Node) : Option PatternFault :=
  (node.inOrder.findSome? (loose? template)).or (node.inOrder.findSome? distant?)

end Node

/-! ## Patterns -/

structure Pattern where
  source : List Char
  binary : Bool := false
  flags : Flags
  node : Node
  groups : Nat
  names : List (List Char × Nat)
  deriving DecidableEq, Repr

/-- At most one choice of the characters that classes hold may be made for a whole pattern. -/
def Reading.tornKinds? (reading : Reading) : Option PatternFault :=
  if reading.flags.ascii && reading.unicode then some .kindsOfText
  else if reading.flags.ascii && reading.locale then some .kindsOfBytes
  else none

def Reading.strayCondition? (reading : Reading) : Option (Nat × Nat) :=
  reading.conditions.find? fun entry => reading.groupCount ≤ entry.1

def Reading.pattern? (reading : Reading) (source : List Char) (node : Node) : Except Fault Pattern :=
  match node.defect? reading.template with
  | some defect => .error (defect, none)
  | none =>
      .ok { source, node
            binary := reading.binary
            flags := { reading.flags with ascii := reading.flags.ascii || reading.binary }
            groups := reading.groupCount - 1
            names := reading.names }

def readPattern (binary : Bool) (flags : Flags) (source : List Char) : Except Fault Pattern := do
  let reading ← Reading.settle { ahead := tokens source, binary, flags }
  let (bodies, reading) ←
    readAlternatives (5 * source.length + 5) flags.verbose true true reading
  match reading.tornKinds? with
  | some fault => .error (fault, none)
  | none =>
      if !reading.ahead.isEmpty then reading.fault .unbalanced
      else
        match reading.strayCondition? with
        | some (index, place) => .error (.noSuchGroup index, some place)
        | none => reading.pattern? source (.concat (Node.alternatives bodies))

namespace Pattern

def read (binary : Bool) (flags : Flags) (source : List Char) : Except PatternError Pattern :=
  match readPattern binary flags source with
  | .ok pattern => .ok pattern
  | .error (fault, place) => .error { fault, place, source, binary }

def ofText? (flags : Flags) (source : List Char) : Except PatternError Pattern :=
  read false flags source

/-! ## Search -/

def search (pattern : Pattern) : Search :=
  (pattern.node.matcher pattern.flags none).search (pattern.node.leadClass pattern.flags)

def find? (pattern : Pattern) (text : List Char) : Option (List Char × Hit × List Char) :=
  pattern.search.find? text

def split (pattern : Pattern) (text : List Char) : List (Option (List Char)) :=
  pattern.search.split pattern.groups text

end Pattern

end TextChain
