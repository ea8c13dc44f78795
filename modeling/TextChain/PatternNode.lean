import TextChain.LetterCase

/-!
Patterns as trees, the flags they are read under, and how many characters a node can take.
-/

namespace TextChain

structure Flags where
  ignoreCase : Bool := false
  multiline : Bool := false
  dotAll : Bool := false
  ascii : Bool := false
  verbose : Bool := false
  deriving DecidableEq, Repr

def Flags.join (a b : Flags) : Flags :=
  { ignoreCase := a.ignoreCase || b.ignoreCase
    multiline := a.multiline || b.multiline
    dotAll := a.dotAll || b.dotAll
    ascii := a.ascii || b.ascii
    verbose := a.verbose || b.verbose }

def Flags.overlap (a b : Flags) : Bool :=
  (a.ignoreCase && b.ignoreCase) || (a.multiline && b.multiline) || (a.dotAll && b.dotAll) ||
    (a.ascii && b.ascii) || (a.verbose && b.verbose)

def Flags.letters (flags : Flags) : List Char :=
  [(flags.ascii, 'a'), (flags.ignoreCase, 'i'), (flags.multiline, 'm'), (flags.dotAll, 's'),
    (flags.verbose, 'x')].filterMap fun entry => if entry.1 then some entry.2 else none

/-- A change of flags inside a group. The choice of all of Unicode withdraws a choice of ASCII. -/
structure Scope where
  on : Flags := {}
  off : Flags := {}
  unicode : Bool := false
  deriving DecidableEq, Repr

def Flags.within (flags : Flags) (scope : Scope) : Flags :=
  { ignoreCase := (flags.ignoreCase || scope.on.ignoreCase) && !scope.off.ignoreCase
    multiline := (flags.multiline || scope.on.multiline) && !scope.off.multiline
    dotAll := (flags.dotAll || scope.on.dotAll) && !scope.off.dotAll
    ascii := scope.on.ascii || (flags.ascii && !scope.unicode)
    verbose := (flags.verbose || scope.on.verbose) && !scope.off.verbose }

inductive Category where
  | digit
  | word
  | blank
  deriving DecidableEq, Repr

inductive Member where
  | point (code : Nat)
  | range (low high : Nat)
  | category (kind : Category) (negated : Bool)
  deriving DecidableEq, Repr

/-- How a repetition chooses the number of rounds: as many as possible, as few as possible, or as many
as possible without giving any back. -/
inductive Appetite where
  | greedy
  | lazy
  | possessive
  deriving DecidableEq, Repr

inductive Anchor where
  | lineStart
  | lineEnd
  | textStart
  | textEnd
  | boundary
  | inside
  deriving DecidableEq, Repr

/-! ## Widths -/

/-- The fewest and the most characters that a node can take. Numbers that grow too large are cut to a
limit, so the most stays above the fewest when both are beyond it. -/
structure Width where
  least : Nat
  most : Nat
  deriving DecidableEq, Repr

/-- More rounds or characters than this are not counted. -/
def countLimit : Nat := 4294967295

namespace Width

def cut (least most : Nat) : Width :=
  ⟨min least (countLimit - 1), min most countLimit⟩

def plus (a b : Width) : Width :=
  cut (a.least + b.least) (a.most + b.most)

def either (a b : Width) : Width :=
  ⟨min a.least b.least, max a.most b.most⟩

def times (a : Width) (least : Nat) (most : Option Nat) : Width :=
  cut (a.least * least) (a.most * most.getD countLimit)

def fixed? (width : Width) : Option Nat :=
  if width.least = width.most then some width.least else none

end Width

/-! ## Nodes -/

inductive Node where
  | empty
  | letter (code : Nat)
  | notLetter (code : Nat)
  | any
  | set (negated : Bool) (members : List Member)
  | anchor (kind : Anchor)
  | sequence (first second : Node)
  | choice (first second : Node)
  | group (index : Nat) (body : Node)
  | scoped (scope : Scope) (body : Node)
  | atomic (body : Node)
  | ahead (negated : Bool) (body : Node)
  | behind (negated : Bool) (width : Width) (body : Node)
  | again (index : Nat)
  | conditional (index : Nat) (present absent : Node)
  | loop (appetite : Appetite) (least : Nat) (most : Option Nat) (body : Node)
  deriving DecidableEq, Repr

namespace Node

def concat : List Node → Node
  | [] => .empty
  | [node] => node
  | node :: next :: rest => .sequence node (concat (next :: rest))

def oneOf : List Node → Node
  | [] => .empty
  | [node] => node
  | node :: next :: rest => .choice node (oneOf (next :: rest))

def width (groups : Nat → Width) : Node → Width
  | .empty | .anchor _ | .ahead _ _ | .behind _ _ _ => ⟨0, 0⟩
  | .letter _ | .notLetter _ | .any | .set _ _ => ⟨1, 1⟩
  | .sequence first second => (first.width groups).plus (second.width groups)
  | .choice first second => (first.width groups).either (second.width groups)
  | .group _ body | .scoped _ body | .atomic body => body.width groups
  | .again index => groups index
  | .conditional _ present absent => (present.width groups).either (absent.width groups)
  | .loop _ least most body => (body.width groups).times least most

/-! ## Alternatives -/

def isPlain : Node → Bool
  | .letter _ | .notLetter _ | .any | .set _ _ | .anchor _ | .again _ => true
  | _ => false

/-- Moves the nodes that all alternatives begin with in front of the choice. -/
def factored : List Node → List (List Node) → List Node × List (List Node)
  | [], others => ([], [] :: others)
  | node :: rest, others =>
      if node.isPlain && others.all (fun other => other.head? == some node) then
        let (common, remaining) := factored rest (others.map List.tail)
        (node :: common, remaining)
      else ([], (node :: rest) :: others)

/-- The members of the set that a single character or an ordinary set amounts to. -/
def members? : List Node → Option (List Member)
  | [.letter code] => some [.point code]
  | [.set false members] => some members
  | _ => none

def allMembers? : List (List Node) → Option (List Member)
  | [] => some []
  | alternative :: rest => do
      let members ← members? alternative
      let others ← allMembers? rest
      some (members ++ others)

/-- A choice among alternatives, each a list of nodes. What they begin with in common is read once, and
a choice among single characters is a set. -/
def alternatives : List (List Node) → List Node
  | [] => []
  | [only] => only
  | first :: next :: rest =>
      let (common, remaining) := factored first (next :: rest)
      match allMembers? remaining with
      | some members => common ++ [.set false members.eraseDups]
      | none => common ++ [oneOf (remaining.map concat)]

end Node

end TextChain
