import TextChain.PatternNode

/-!
Classes of characters: what the letters and sets of a pattern stand for under the flags that they are
read under.
-/

namespace TextChain

/-- A class of characters. What does not depend on the character is worked out when the class is made. -/
structure CharClass where
  accepts : Char → Bool

namespace CharClass

def all : CharClass := ⟨fun _ => true⟩

def complement (kind : CharClass) : CharClass := ⟨fun c => !kind.accepts c⟩

end CharClass

def Category.holds (flags : Flags) (c : Char) : Category → Bool
  | .digit => if flags.ascii then Ascii.isDigit c else isDigit c
  | .word => if flags.ascii then Ascii.isWord c else isWord c
  | .blank => if flags.ascii then Ascii.isBlank c else isBlank c

def inRange (low high point : Nat) : Bool :=
  low ≤ point && point ≤ high

/-! ## Letters -/

namespace Flags

def fold (flags : Flags) (c : Char) : Char :=
  if flags.ascii then Ascii.toLower c else Char.ofNat (lowerPoint c.toNat)

def sameFolded (flags : Flags) (c d : Char) : Bool :=
  flags.fold c == flags.fold d

def hasCase (flags : Flags) (point : Nat) : Bool :=
  if flags.ascii then point < 128 && Ascii.isLetter (Char.ofNat point) else TextChain.hasCase point

/-- The folded code points that count as the given one when case is ignored. -/
def mates (flags : Flags) (point : Nat) : List Nat :=
  if flags.ascii then [if inRange 65 90 point then point + 32 else point]
  else letterFamily (lowerPoint point)

def letterClass (flags : Flags) (code : Nat) : CharClass :=
  if flags.ignoreCase && flags.hasCase code then
    let mates := flags.mates code
    ⟨fun c => mates.contains (flags.fold c).toNat⟩
  else ⟨fun c => c.toNat == code⟩

def anyClass (flags : Flags) : CharClass :=
  if flags.dotAll then .all else ⟨fun c => c != '\n'⟩

end Flags

/-! ## Sets -/

def planeEnd : Nat := 65535

/-- The folded characters that a range stands for within the basic plane: one of their mates is the
small form of something in the range. -/
def planeClass (flags : Flags) (low high : Nat) : CharClass :=
  if flags.ascii then
    ⟨fun c =>
      (inRange low high c.toNat && !inRange 65 90 c.toNat) ||
        (inRange 97 122 c.toNat && inRange low high (c.toNat - 32))⟩
  else
    let shifts := lowerShifts.filter (Shift.meets low high)
    ⟨fun c => (letterFamily c.toNat).any (lowersInto shifts low high)⟩

/-- The folded characters that a range stands for. A range that reaches beyond the basic plane also
stands for what is in it as it is or by its capital form. -/
def foldedClass (flags : Flags) (low high : Nat) : CharClass :=
  let within := planeClass flags low (min high planeEnd)
  if planeEnd < high then
    ⟨fun c =>
      inRange low high c.toNat || inRange low high (upperPoint c.toNat) || within.accepts c⟩
  else within

/-- The characters that a member of a set stands for. When case is ignored, members are asked about
folded characters; a code point beyond the basic plane then only stands for itself. -/
def Member.charClass (flags : Flags) : Member → CharClass
  | .category kind negated => ⟨fun c => kind.holds flags c != negated⟩
  | .point code =>
      if flags.ignoreCase && code ≤ planeEnd then
        let mates := flags.mates code
        ⟨fun c => mates.contains c.toNat⟩
      else ⟨fun c => c.toNat == code⟩
  | .range low high =>
      if flags.ignoreCase then foldedClass flags low high
      else ⟨fun c => inRange low high c.toNat⟩

def setClass (flags : Flags) (negated : Bool) (members : List Member) : CharClass :=
  let classes := members.map (Member.charClass flags)
  if flags.ignoreCase then
    ⟨fun c =>
      let folded := flags.fold c
      classes.any (fun kind => kind.accepts folded) != negated⟩
  else ⟨fun c => classes.any (fun kind => kind.accepts c) != negated⟩

/-! ## Leading sets -/

namespace Node

def leadingSet? (flags : Flags) : Node → Option (Flags × Bool × List Member)
  | .set negated members => some (flags, negated, members)
  | .sequence first _ => first.leadingSet? flags
  | .group _ body => body.leadingSet? flags
  | .scoped scope body => body.leadingSet? (flags.within scope)
  | _ => none

def isCaseless (flags : Flags) : Member → Bool
  | .point code => !flags.hasCase code
  | .range low high =>
      high ≤ planeEnd && !(List.range (high + 1 - low)).any fun n => flags.hasCase (low + n)
  | .category _ _ => true

/-- What a search asks of the next character before it tries a place. A set that every match begins
with is looked for under the flags of the whole pattern, even where it stands under other flags. -/
def leadClass (flags : Flags) (node : Node) : CharClass :=
  match node.leadingSet? flags with
  | none => .all
  | some (inner, negated, members) =>
      if inner.ignoreCase && !members.all (isCaseless inner) then .all
      else setClass { flags with ignoreCase := false } negated members

end Node

end TextChain
