import TextChain.CharacterNames
import TextChain.PatternScan

/-!
Escapes in patterns, and the sets in brackets that they may stand in. Warnings about what a set may come
to mean one day are left out.
-/

namespace TextChain

/-! ## Escapes -/

def categoryOf? : Char → Option Member
  | 'd' => some (.category .digit false)
  | 'D' => some (.category .digit true)
  | 's' => some (.category .blank false)
  | 'S' => some (.category .blank true)
  | 'w' => some (.category .word false)
  | 'W' => some (.category .word true)
  | _ => none

def controlOf? : Char → Option Nat
  | 'a' => some 7
  | 'b' => some 8
  | 'f' => some 12
  | 'n' => some 10
  | 'r' => some 13
  | 't' => some 9
  | 'v' => some 11
  | '\\' => some 92
  | _ => none

def anchorOf? : Char → Option Anchor
  | 'A' => some .textStart
  | 'b' => some .boundary
  | 'B' => some .inside
  | 'Z' => some .textEnd
  | _ => none

/-- The number of hexadecimal digits after the letter of an escape. Only texts have code points of more
than two digits. -/
def hexWidth? (binary : Bool) : Char → Option Nat
  | 'x' => some 2
  | 'u' => if binary then none else some 4
  | 'U' => if binary then none else some 8
  | _ => none

def readHex (lead : Char) (count : Nat) : Reader Nat := fun reading => do
  let (figures, moved) ← reading.takeWhile Ascii.isHexDigit count
  let escape := '\\' :: lead :: figures
  if figures.length < count then moved.fault (.incompleteEscape escape) escape.length
  else if 1114111 < baseValue 16 figures then moved.fault (.badEscape escape) escape.length
  else .ok (baseValue 16 figures, moved)

def readCharacterName : Reader Nat := fun reading => do
  let (opened, reading) ← reading.accept '\x7b'
  if !opened then reading.fault (.missing "\x7b")
  else
    let (name, moved) ← reading.nameUpTo '\x7d' "character name"
    match characterNamed? name with
    | some code => .ok (code, moved)
    | none => moved.fault (.unknownCharacterName name) (name.length + 4)

def readCode? (c : Char) : Reader (Option Nat) := fun reading =>
  match hexWidth? reading.binary c with
  | some count => do
      let (code, moved) ← readHex c count reading
      .ok (some code, moved)
  | none =>
      if c = 'N' && !reading.binary then do
        let (code, moved) ← readCharacterName reading
        .ok (some code, moved)
      else .ok (none, reading)

def readOctalRest (lead : Char) : Reader (List Char) := fun reading => do
  let (more, moved) ← reading.takeWhile Ascii.isOctalDigit 2
  .ok (lead :: more, moved)

def readSetEscape (c : Char) : Reader Member := fun reading =>
  match controlOf? c, categoryOf? c with
  | some code, _ => .ok (.point code, reading)
  | none, some member => .ok (member, reading)
  | none, none => do
      let (code, reading) ← readCode? c reading
      match code with
      | some code => .ok (.point code, reading)
      | none =>
          if Ascii.isOctalDigit c then
            let (figures, moved) ← readOctalRest c reading
            let code := baseValue 8 figures
            if 255 < code then moved.fault (.octalTooLarge ('\\' :: figures)) (figures.length + 1)
            else .ok (.point code, moved)
          else if Ascii.isLetterOrDigit c then reading.fault (.badEscape ['\\', c]) 2
          else .ok (.point c.toNat, reading)

/-- A digit other than zero begins a group reference of up to two digits, or an octal escape if three
octal digits follow each other. -/
def readNumberEscape (c : Char) : Reader Node := fun reading => do
  let (second, reading) ← reading.takeWhile Ascii.isDigit 1
  match second with
  | [] => referTo (baseValue 10 [c]) 2 reading
  | d :: _ =>
      let (third, reading) ←
        if Ascii.isOctalDigit c && Ascii.isOctalDigit d then
          reading.takeWhile Ascii.isOctalDigit 1
        else .ok ([], reading)
      match third with
      | [] => referTo (baseValue 10 [c, d]) 3 reading
      | e :: _ =>
          let code := baseValue 8 [c, d, e]
          if 255 < code then reading.fault (.octalTooLarge ['\\', c, d, e]) 4
          else .ok (.letter code, reading)

def readEscape (c : Char) : Reader Node := fun reading =>
  match anchorOf? c, categoryOf? c, controlOf? c with
  | some anchor, _, _ => .ok (.anchor anchor, reading)
  | none, some member, _ => .ok (.set false [member], reading)
  | none, none, some code => .ok (.letter code, reading)
  | none, none, none => do
      let (code, reading) ← readCode? c reading
      match code with
      | some code => .ok (.letter code, reading)
      | none =>
          if c = '0' then
            let (figures, moved) ← readOctalRest c reading
            .ok (.letter (baseValue 8 figures), moved)
          else if Ascii.isDigit c then readNumberEscape c reading
          else if Ascii.isLetter c then reading.fault (.badEscape ['\\', c]) 2
          else .ok (.letter c.toNat, reading)

/-! ## Sets -/

def readSetItem (token : Token) : Reader Member := fun reading =>
  match token with
  | .escaped c => readSetEscape c reading
  | .plain c => .ok (.point c.toNat, reading)
  | .dangling => reading.fault .danglingBackslash

/-- The range between two members, which have to be code points in ascending order. -/
def readRange (first last : Token) (low high : Member) : Reader Member := fun reading =>
  let crossed : Except Fault (Member × Reading) :=
    reading.fault (.badRange first.text last.text) (first.text.length + 1 + last.text.length)
  match low, high with
  | .point a, .point b => if b < a then crossed else .ok (.range a b, reading)
  | _, _ => crossed

/-- Reads members up to the closing bracket. A bracket that comes first is a member itself. `start` is
where the set began, and `members` holds those read so far, last one first. -/
def readMembers (start : Nat) : Nat → List Member → Reader (List Member)
  | 0, _, reading => reading.fault .unterminatedSet (reading.place - start)
  | fuel + 1, members, reading => do
      let (token, reading) ← reading.take
      match token with
      | none => reading.fault .unterminatedSet (reading.place - start)
      | some token =>
          if token = .plain ']' && !members.isEmpty then .ok (members.reverse, reading)
          else
            let (low, reading) ← readSetItem token reading
            let (dash, reading) ← reading.accept '-'
            if !dash then readMembers start fuel (low :: members) reading
            else
              let (other, reading) ← reading.take
              match other with
              | none => reading.fault .unterminatedSet (reading.place - start)
              | some other =>
                  if other = .plain ']' then
                    .ok ((Member.point 45 :: low :: members).reverse, reading)
                  else
                    let (high, reading) ← readSetItem other reading
                    let (range, reading) ← readRange token other low high reading
                    readMembers start fuel (range :: members) reading

/-- Reads a set whose opening bracket has been taken. A set of one code point is that letter. -/
def readSet : Reader Node := fun reading => do
  let start := reading.place - 1
  let (negated, reading) ← reading.accept '^'
  let (members, reading) ← readMembers start (reading.ahead.length + 1) [] reading
  match members.eraseDups, negated with
  | [.point code], false => .ok (.letter code, reading)
  | [.point code], true => .ok (.notLetter code, reading)
  | members, negated => .ok (.set negated members, reading)

end TextChain
