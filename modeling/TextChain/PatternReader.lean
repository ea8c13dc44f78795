import TextChain.PatternEscapes

/-!
Reading a pattern from its text: repetition, flags, groups and alternatives. Every fault tells what is
wrong and at which character. The whole syntax is read, but for warnings.
-/

namespace TextChain

/-! ## Items -/

/-- An item of a pattern. A group that neither captures nor sets flags is kept apart until it is known
whether it is repeated as a whole; else it dissolves into what is around it. -/
inductive Item where
  | single (node : Node)
  | grouped (nodes : List Node)

namespace Item

def nodes : Item → List Node
  | .single node => [node]
  | .grouped nodes => nodes

def node (item : Item) : Node := .concat item.nodes

end Item

def itemNodes (items : List Item) : List Node :=
  items.reverse.flatMap Item.nodes

/-! ## Repetition -/

def readBounds (reading : Reading) :
    Except Fault (Option (List Char × List Char) × Reading) := do
  let (low, after) ← reading.takeWhile Ascii.isDigit reading.ahead.length
  let (comma, after) ← after.accept ','
  let (high, after) ←
    if comma then after.takeWhile Ascii.isDigit after.ahead.length else .ok (low, after)
  let (closed, after) ← after.accept '\x7d'
  if closed then .ok (some (low, high), after) else .ok (none, reading)

/-- A number of rounds, which is bounded in its digits and in its size. -/
def roundsOf (figures : List Char) : Except Fault Nat :=
  if digitLimit < figures.length then .error (.tooManyDigits figures.length, none)
  else
    let count := baseValue 10 figures
    if countLimit ≤ count then .error (.boundTooLarge, none) else .ok count

def boundsOf (start : Nat) (low high : List Char) : Reader (Nat × Option Nat) := fun reading => do
  let least ← roundsOf low
  if high.isEmpty then .ok ((least, none), reading)
  else
    let most ← roundsOf high
    if most < least then reading.fault .boundsCrossed (reading.place - start)
    else .ok ((least, some most), reading)

def isRepeatSign (c : Char) : Bool := c == '*' || c == '+' || c == '?' || c == '\x7b'

def readRepeat (c : Char) : Reader (Option (Nat × Option Nat)) := fun reading =>
  if c = '?' then .ok (some (0, some 1), reading)
  else if c = '*' then .ok (some (0, none), reading)
  else if c = '+' then .ok (some (1, none), reading)
  else if reading.nextIs '\x7d' then .ok (none, reading)
  else do
    let (bounds, moved) ← readBounds reading
    match bounds with
    | none => .ok (none, moved)
    | some (low, high) => do
        let (found, moved) ← boundsOf reading.place low high moved
        .ok (some found, moved)

def readAppetite : Reader Appetite := fun reading => do
  let (few, reading) ← reading.accept '?'
  if few then .ok (.lazy, reading)
  else
    let (kept, reading) ← reading.accept '+'
    .ok (if kept then .possessive else .greedy, reading)

def repeatItem (start : Nat) (bounds : Nat × Option Nat) (items : List Item) :
    Reader (List Item) := fun reading =>
  match items with
  | [] => reading.fault .nothingToRepeat (reading.place - start + 1)
  | .single (.anchor _) :: _ => reading.fault .nothingToRepeat (reading.place - start + 1)
  | .single (.loop _ _ _ _) :: _ => reading.fault .multipleRepeat (reading.place - start + 1)
  | item :: rest => do
      let (appetite, reading) ← readAppetite reading
      .ok (.single (.loop appetite bounds.1 bounds.2 item.node) :: rest, reading)

/-! ## Flags inside a pattern -/

inductive FlagLetter where
  | plain (flags : Flags)
  | unicode
  | template
  | locale
  deriving DecidableEq

def flagOf? : Char → Option FlagLetter
  | 'i' => some (.plain { ignoreCase := true })
  | 'm' => some (.plain { multiline := true })
  | 's' => some (.plain { dotAll := true })
  | 'x' => some (.plain { verbose := true })
  | 'a' => some (.plain { ascii := true })
  | 'u' => some .unicode
  | 't' => some .template
  | 'L' => some .locale
  | _ => none

def tokenFlag? : Token → Option FlagLetter
  | .plain c => flagOf? c
  | _ => none

/-- Flags collected from letters. Three of them choose which characters the classes hold, and at most
one of these may be set. -/
structure Collected where
  flags : Flags := {}
  unicode : Bool := false
  locale : Bool := false
  template : Bool := false

namespace Collected

def put (found : Collected) : FlagLetter → Collected
  | .plain flags => { found with flags := found.flags.join flags }
  | .unicode => { found with unicode := true }
  | .template => { found with template := true }
  | .locale => { found with locale := true }

def isTorn (found : Collected) : Bool :=
  (found.flags.ascii && found.unicode) || (found.flags.ascii && found.locale) ||
    (found.unicode && found.locale)

/-- The choice of a locale is a choice of ASCII here. -/
def scope (on off : Collected) : Scope :=
  { on := { on.flags with ascii := on.flags.ascii || on.locale }
    off := off.flags
    unicode := on.unicode }

end Collected

def strangeFlag? (binary : Bool) : FlagLetter → Option PatternFault
  | .locale => if binary then none else some .textFlag
  | .unicode => if binary then some .binaryFlag else none
  | _ => none

/-- A fault at a token that is no flag letter; `otherwise` is missing when it is no letter at all. -/
def noFlag {α : Type} (token : Token) (otherwise : String) (reading : Reading) : Except Fault α :=
  reading.fault (if token.isLetter then .unknownFlag else .missing otherwise) token.text.length

def readFlagsOn : Nat → FlagLetter → Collected → Reader (Collected × Char)
  | 0, _, _, reading => reading.fault .unknownFlag
  | fuel + 1, letter, found, reading =>
      match strangeFlag? reading.binary letter with
      | some fault => reading.fault fault
      | none => do
          let found := found.put letter
          if found.isTorn then reading.fault .incompatibleFlags
          else
            let (next, reading) ← reading.take
            match next with
            | none => reading.fault (.missing "-, : or )")
            | some (.plain ')') => .ok ((found, ')'), reading)
            | some (.plain '-') => .ok ((found, '-'), reading)
            | some (.plain ':') => .ok ((found, ':'), reading)
            | some next =>
                match tokenFlag? next with
                | some letter => readFlagsOn fuel letter found reading
                | none => noFlag next "-, : or )" reading

def FlagLetter.isKind : FlagLetter → Bool
  | .plain flags => flags.ascii
  | .unicode | .locale => true
  | .template => false

def readFlagsOff : Nat → FlagLetter → Collected → Reader Collected
  | 0, _, _, reading => reading.fault .unknownFlag
  | fuel + 1, letter, found, reading => do
      if letter.isKind then reading.fault .kindFlagOff
      else
        let found := found.put letter
        let (next, reading) ← reading.take
        match next with
        | none => reading.fault (.missing ":")
        | some (.plain ':') => .ok (found, reading)
        | some next =>
            match tokenFlag? next with
            | some letter => readFlagsOff fuel letter found reading
            | none => noFlag next ":" reading

def Reading.setFlags (reading : Reading) (found : Collected) : Reading :=
  { reading with
    flags := reading.flags.join found.flags
    unicode := reading.unicode || found.unicode
    locale := reading.locale || found.locale
    template := reading.template || found.template }

/-- Letters that switch flags on and a mark; a hyphen alone switches none on. -/
def readSwitches (token : Token) (letter : Option FlagLetter) : Reader (Collected × Char) :=
  fun reading =>
    match letter with
    | some letter => readFlagsOn (reading.ahead.length + 1) letter {} reading
    | none => .ok (({}, if token = .plain '-' then '-' else ':'), reading)

/-- Flags for a group, or nothing when they are set for the whole pattern. -/
def readScope (token : Token) : Reader (Option Scope) := fun reading => do
  let ((on, mark), reading) ← readSwitches token (tokenFlag? token) reading
  if mark = ')' then .ok (none, reading.setFlags on)
  else if on.template then reading.fault .globalFlagOn 1
  else if mark = ':' then .ok (some (on.scope {}), reading)
  else
    let (next, reading) ← reading.take
    match next with
    | none => reading.fault (.missing "flag")
    | some next =>
        match tokenFlag? next with
        | none => noFlag next "flag" reading
        | some letter =>
            let (off, reading) ← readFlagsOff (reading.ahead.length + 1) letter {} reading
            if off.template then reading.fault .globalFlagOff 1
            else if on.flags.overlap off.flags then reading.fault .flagOnAndOff 1
            else .ok (some (on.scope off), reading)

/-! ## Groups -/

def skipComment (start : Nat) : Nat → Reader Unit
  | 0, reading => reading.fault .unterminatedComment (reading.place - start)
  | fuel + 1, reading => do
      let (token, moved) ← reading.take
      match token with
      | none => moved.fault .unterminatedComment (moved.place - start)
      | some (.plain ')') => .ok ((), moved)
      | some _ => skipComment start fuel moved

def skipLine : Nat → Reader Unit
  | 0, reading => .ok ((), reading)
  | fuel + 1, reading => do
      let (token, moved) ← reading.take
      match token with
      | none => .ok ((), moved)
      | some (.plain '\n') => .ok ((), moved)
      | some _ => skipLine fuel moved

inductive Opening where
  | group (name : Option (List Char))
  | plain
  | scoped (scope : Scope)
  | atomic
  | look (behind negated : Bool)
  | condition
  | reference (node : Node)
  | comment
  | whole
  deriving DecidableEq

def unknownMark {α : Type} (lead : List Char) (token : Token) (reading : Reading) : Except Fault α :=
  let mark := lead ++ token.text
  reading.fault (.unknownExtension mark) (mark.length + 1)

def takeSome : Reader Token := fun reading => do
  let (token, reading) ← reading.take
  match token with
  | none => reading.fault .unexpectedEnd
  | some token => .ok (token, reading)

def readNamedOpening : Reader Opening := fun reading => do
  let (named, reading) ← reading.accept '<'
  if named then
    let (name, reading) ← reading.nameUpTo '>' "group name"
    let (_, reading) ← checkName name reading
    .ok (.group (some name), reading)
  else
    let (back, reading) ← reading.accept '='
    if back then
      let (node, reading) ← readNamedReference reading
      .ok (.reference node, reading)
    else
      let (token, reading) ← takeSome reading
      unknownMark ['P'] token reading

def readBehind : Reader Opening := fun reading => do
  let (token, reading) ← takeSome reading
  match token with
  | .plain '=' => .ok (.look true false, reading)
  | .plain '!' => .ok (.look true true, reading)
  | token => unknownMark ['<'] token reading

/-- A scope without any flag is no scope. -/
def openingOf : Option Scope → Opening
  | none => .whole
  | some scope => if scope = {} then .plain else .scoped scope

def readOpening (start : Nat) : Reader Opening := fun reading => do
  let (extended, reading) ← reading.accept '?'
  if !extended then .ok (.group none, reading)
  else
    let (token, reading) ← takeSome reading
    match token with
    | .plain 'P' => readNamedOpening reading
    | .plain ':' => .ok (.plain, reading)
    | .plain '#' =>
        let (_, reading) ← skipComment start (reading.ahead.length + 1) reading
        .ok (.comment, reading)
    | .plain '=' => .ok (.look false false, reading)
    | .plain '!' => .ok (.look false true, reading)
    | .plain '<' => readBehind reading
    | .plain '(' => .ok (.condition, reading)
    | .plain '>' => .ok (.atomic, reading)
    | token =>
        if token = .plain '-' || (tokenFlag? token).isSome then
          let (scope, reading) ← readScope token reading
          .ok (openingOf scope, reading)
        else unknownMark [] token reading

def expectClose (start : Nat) : Reader Unit := fun reading => do
  let (closed, reading) ← reading.accept ')'
  if closed then .ok ((), reading) else reading.fault .unterminatedGroup (reading.place - start)

/-- What is read of a lookbehind may only refer to groups from before it. -/
def Reading.enterLook (reading : Reading) (behind : Bool) : Reading :=
  if behind && reading.lookbehind.isNone then
    { reading with lookbehind := some reading.groupCount }
  else reading

def Reading.lookNode (reading : Reading) (behind negated : Bool) (body : Node) : Node :=
  if behind then .behind negated (reading.widthOf body) body else .ahead negated body

/-! ## Alternatives and items -/

def Scope.verbose (scope : Scope) (outer : Bool) : Bool :=
  (outer || scope.on.verbose) && !scope.off.verbose

mutual

/-- Alternatives up to a closing parenthesis or the end. `top` marks the outermost level, where only
the first alternative may set flags for the whole pattern. -/
def readAlternatives : Nat → Bool → Bool → Bool → Reader (List (List Node))
  | 0, _, _, _, reading => .ok ([], reading)
  | fuel + 1, verbose, top, first, reading => do
      let (items, reading) ← readItems fuel verbose (top && first) [] reading
      let (more, reading) ← reading.accept '|'
      if more then
        let verbose := if top then reading.flags.verbose else verbose
        let (rest, reading) ← readAlternatives fuel verbose top false reading
        .ok (itemNodes items :: rest, reading)
      else .ok ([itemNodes items], reading)

def readBody : Nat → Nat → Bool → Reader (List Node)
  | 0, _, _, reading => .ok ([], reading)
  | fuel + 1, start, verbose, reading => do
      let (bodies, reading) ← readAlternatives fuel verbose false true reading
      let (_, reading) ← expectClose start reading
      .ok (Node.alternatives bodies, reading)

/-- Items up to a bar, a closing parenthesis or the end, last one first. `leading` says whether flags
for the whole pattern may still be set. -/
def readItems : Nat → Bool → Bool → List Item → Reader (List Item)
  | 0, _, _, items, reading => .ok (items, reading)
  | fuel + 1, verbose, leading, items, reading =>
      match reading.ahead with
      | [] => .ok (items, reading)
      | token :: _ =>
          if token = .plain '|' || token = .plain ')' then .ok (items, reading)
          else do
            let (_, reading) ← reading.take
            match token with
            | .dangling => reading.fault .danglingBackslash
            | .escaped c =>
                let (node, reading) ← readEscape c reading
                readItems fuel verbose leading (.single node :: items) reading
            | .plain c =>
                if verbose && Ascii.isBlank c then readItems fuel verbose leading items reading
                else if verbose && c == '#' then
                  let (_, reading) ← skipLine (reading.ahead.length + 1) reading
                  readItems fuel verbose leading items reading
                else if c = '[' then
                  let (node, reading) ← readSet reading
                  readItems fuel verbose leading (.single node :: items) reading
                else if isRepeatSign c then
                  let (bounds, moved) ← readRepeat c reading
                  match bounds with
                  | none =>
                      readItems fuel verbose leading (.single (.letter c.toNat) :: items) moved
                  | some bounds =>
                      let (items, moved) ← repeatItem reading.place bounds items moved
                      readItems fuel verbose leading items moved
                else if c = '.' then
                  readItems fuel verbose leading (.single .any :: items) reading
                else if c = '^' then
                  readItems fuel verbose leading (.single (.anchor .lineStart) :: items) reading
                else if c = '$' then
                  readItems fuel verbose leading (.single (.anchor .lineEnd) :: items) reading
                else if c = '(' then
                  readGroup fuel verbose leading items (reading.place - 1) reading
                else readItems fuel verbose leading (.single (.letter c.toNat) :: items) reading

def readGroup : Nat → Bool → Bool → List Item → Nat → Reader (List Item)
  | 0, _, _, items, _, reading => .ok (items, reading)
  | fuel + 1, verbose, leading, items, start, reading => do
      let (opening, reading) ← readOpening start reading
      match opening with
      | .comment => readItems fuel verbose leading items reading
      | .reference node => readItems fuel verbose leading (.single node :: items) reading
      | .whole =>
          if !leading || !items.isEmpty then reading.fault .lateFlags (reading.place - start)
          else readItems fuel reading.flags.verbose leading items reading
      | .condition =>
          let (index, reading) ← readCondition reading
          let (present, reading) ← readItems fuel verbose false [] reading
          let (more, reading) ← reading.accept '|'
          let (absent, reading) ←
            if more then readItems fuel verbose false [] reading else .ok ([], reading)
          if more && reading.nextIs '|' then reading.fault .thirdBranch
          else
            let (_, reading) ← expectClose start reading
            let node := Node.conditional index (.concat (itemNodes present))
              (.concat (itemNodes absent))
            readItems fuel verbose leading (.single node :: items) reading
      | .look behind negated =>
          let (body, inner) ← readBody fuel start verbose (reading.enterLook behind)
          let reading := { inner with lookbehind := reading.lookbehind }
          let node := reading.lookNode behind negated (.concat body)
          readItems fuel verbose leading (.single node :: items) reading
      | .group name =>
          let (index, reading) ← reading.openGroup name
          let (body, reading) ← readBody fuel start verbose reading
          let body := Node.concat body
          readItems fuel verbose leading (.single (.group index body) :: items)
            (reading.closeGroup index body)
      | .plain =>
          let (body, reading) ← readBody fuel start verbose reading
          readItems fuel verbose leading (.grouped body :: items) reading
      | .atomic =>
          let (body, reading) ← readBody fuel start verbose reading
          readItems fuel verbose leading (.single (.atomic (.concat body)) :: items) reading
      | .scoped scope =>
          let (body, reading) ← readBody fuel start (scope.verbose verbose) reading
          readItems fuel verbose leading (.single (.scoped scope (.concat body)) :: items) reading

end

end TextChain
