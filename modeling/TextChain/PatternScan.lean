import TextChain.PatternFault

/-!
The text of a pattern as tokens, and what is known while they are read from left to right. A token is a
character, or a backslash with the character that it escapes.
-/

namespace TextChain

inductive Token where
  | plain (c : Char)
  | escaped (c : Char)
  | dangling
  deriving DecidableEq, Repr

namespace Token

def text : Token → List Char
  | .plain c => [c]
  | .escaped c => ['\\', c]
  | .dangling => ['\\']

def isLetter : Token → Bool
  | .plain c => TextChain.isLetter c
  | _ => false

end Token

def tokensOnto (done : List Token) : List Char → List Token
  | [] => done.reverse
  | ['\\'] => (.dangling :: done).reverse
  | '\\' :: c :: rest => tokensOnto (.escaped c :: done) rest
  | c :: rest => tokensOnto (.plain c :: done) rest

def tokens (text : List Char) : List Token :=
  tokensOnto [] text

/-- What is known while a pattern is read: the tokens ahead and where they begin, the flags set for the
whole pattern, and the groups. An entry of `widths` is empty while its group is open. `conditions` holds
the groups that were asked for by number before they were known, and where. -/
structure Reading where
  ahead : List Token
  place : Nat := 0
  binary : Bool := false
  flags : Flags := {}
  unicode : Bool := false
  locale : Bool := false
  template : Bool := false
  widths : List (Option Width) := [none]
  names : List (List Char × Nat) := []
  lookbehind : Option Nat := none
  conditions : List (Nat × Nat) := []
  deriving Repr

abbrev Fault := PatternFault × Option Nat

abbrev Reader (α : Type) := Reading → Except Fault (α × Reading)

namespace Reading

def nextIs (reading : Reading) (c : Char) : Bool :=
  reading.ahead.head? == some (.plain c)

def fault {α : Type} (reading : Reading) (what : PatternFault) (back : Nat := 0) : Except Fault α :=
  .error (what, some (reading.place - back))

/-- A backslash at the very end is a fault as soon as it comes next. -/
def settle (reading : Reading) : Except Fault Reading :=
  match reading.ahead with
  | .dangling :: _ => reading.fault .danglingBackslash
  | _ => .ok reading

def take : Reader (Option Token) := fun reading =>
  match reading.ahead with
  | [] => .ok (none, reading)
  | token :: rest => do
      let moved ← settle { reading with ahead := rest, place := reading.place + token.text.length }
      .ok (some token, moved)

def accept (c : Char) : Reader Bool := fun reading =>
  if reading.nextIs c then do
    let (_, moved) ← take reading
    .ok (true, moved)
  else .ok (false, reading)

def takeWhileOnto (accepts : Char → Bool) (taken : List Char) : Nat → Reader (List Char)
  | 0, reading => .ok (taken.reverse, reading)
  | n + 1, reading =>
      match reading.ahead with
      | .plain c :: _ =>
          if accepts c then
            match take reading with
            | .ok (_, moved) => takeWhileOnto accepts (c :: taken) n moved
            | .error fault => .error fault
          else .ok (taken.reverse, reading)
      | _ => .ok (taken.reverse, reading)

def takeWhile (accepts : Char → Bool) (count : Nat) : Reader (List Char) :=
  takeWhileOnto accepts [] count

def takeName (mark : Char) (what : String) : Nat → List Char → Reader (List Char)
  | 0, _, reading => reading.fault (.missing what)
  | fuel + 1, name, reading => do
      let (token, moved) ← take reading
      match token with
      | none =>
          if name.isEmpty then moved.fault (.missing what)
          else moved.fault (.unterminatedName mark) name.length
      | some token =>
          if token = .plain mark then
            if name.isEmpty then moved.fault (.missing what) 1 else .ok (name, moved)
          else takeName mark what fuel (name ++ token.text) moved

def nameUpTo (mark : Char) (what : String) : Reader (List Char) := fun reading =>
  takeName mark what (reading.ahead.length + 1) [] reading

/-! ## Groups -/

def groupCount (reading : Reading) : Nat :=
  reading.widths.length

def widthOf? (reading : Reading) (index : Nat) : Option Width :=
  (reading.widths[index]?).join

def isClosed (reading : Reading) (index : Nat) : Bool :=
  (reading.widthOf? index).isSome

def widthOf (reading : Reading) (node : Node) : Width :=
  node.width fun index => (reading.widthOf? index).getD ⟨0, 0⟩

def nameOf? (reading : Reading) (name : List Char) : Option Nat :=
  (reading.names.find? (·.1 == name)).map (·.2)

/-- Inside a lookbehind only groups from before it may be referred to. -/
def checkLookbehind (reading : Reading) (index : Nat) : Except Fault Unit :=
  match reading.lookbehind with
  | none => .ok ()
  | some first =>
      if !reading.isClosed index then reading.fault .openGroup
      else if first ≤ index then reading.fault .lookbehindGroup
      else .ok ()

def openGroup (name : Option (List Char)) : Reader Nat := fun reading =>
  let index := reading.groupCount
  let reading := { reading with widths := reading.widths ++ [none] }
  match name with
  | none => .ok (index, reading)
  | some name =>
      match reading.nameOf? name with
      | some earlier => reading.fault (.redefinedGroup name index earlier) (name.length + 1)
      | none => .ok (index, { reading with names := reading.names ++ [(name, index)] })

def closeGroup (index : Nat) (body : Node) (reading : Reading) : Reading :=
  { reading with widths := reading.widths.set index (some (reading.widthOf body)) }

end Reading

/-! ## Names and numbers of groups -/

def groupNumber? (name : List Char) : Option Nat :=
  match readInteger name with
  | .ok (.ofNat index) => some index
  | _ => none

def groupLimit : Nat := 1073741823

def checkName (name : List Char) : Reader Unit := fun reading =>
  if isName name then .ok ((), reading) else reading.fault (.badGroupName name) (name.length + 1)

/-- The group that a condition asks for. A number may name a group that comes later. -/
def readCondition : Reader Nat := fun reading => do
  let (name, reading) ← reading.nameUpTo ')' "group name"
  let back := name.length + 1
  let (index, reading) ←
    if isName name then
      match reading.nameOf? name with
      | some index => .ok (index, reading)
      | none => reading.fault (.unknownGroup name) back
    else
      match groupNumber? name with
      | none => reading.fault (.badGroupName name) back
      | some index =>
          if index = 0 then reading.fault .badGroupNumber back
          else if groupLimit ≤ index then reading.fault (.noSuchGroup index) back
          else
            let known := reading.conditions.any (·.1 == index)
            let conditions :=
              if known then reading.conditions
              else reading.conditions ++ [(index, reading.place - back)]
            .ok (index, { reading with conditions })
  reading.checkLookbehind index
  .ok (index, reading)

def readNamedReference : Reader Node := fun reading => do
  let (name, reading) ← reading.nameUpTo ')' "group name"
  let (_, reading) ← checkName name reading
  match reading.nameOf? name with
  | none => reading.fault (.unknownGroup name) (name.length + 1)
  | some index =>
      if !reading.isClosed index then reading.fault .openGroup (name.length + 1)
      else do
        reading.checkLookbehind index
        .ok (.again index, reading)

/-- A reference to a group by number, which has to be closed by then. -/
def referTo (index back : Nat) : Reader Node := fun reading =>
  if reading.groupCount ≤ index then reading.fault (.noSuchGroup index) (back - 1)
  else if !reading.isClosed index then reading.fault .openGroup back
  else do
    reading.checkLookbehind index
    .ok (.again index, reading)

end TextChain
