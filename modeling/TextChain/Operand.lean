import TextChain.Failure
import TextChain.Search
import TextChain.Layout
import TextChain.Percent

/-!
Operators on values whose types are only known when a step runs. Each says what it does to the types
it is made for and how it fails on the others. Texts and bytes go through the same operators, each in
their own script. Only the operators that steps use are here, and none changes a value in place.
-/

namespace TextChain

/-! ## Scripts at work -/

namespace Script

def upper : Script → List Char → List Char
  | .text, chars => TextChain.upper chars
  | .bytes, chars => chars.map Ascii.toUpper

def lower : Script → List Char → List Char
  | .text, chars => TextChain.lower chars
  | .bytes, chars => chars.map Ascii.toLower

def isBlank : Script → Char → Bool
  | .text => TextChain.isBlank
  | .bytes => Ascii.isBlank

def trim (script : Script) (chars : List Char) : List Char :=
  trimBy script.isBlank chars

def words (script : Script) (chars : List Char) : List (List Char) :=
  wordsBy script.isBlank chars

end Script

namespace Value

/-! ## Containers -/

/-- The writing that is asked for a method; other values do not have it. -/
def method (value : Value) (name : String) : Outcome Writing :=
  match value.writing? with
  | some writing => .ok writing
  | none => refuse (.noAttribute value.faultName name)

/-- The items that a value consists of: the characters of a text, the codes of bytes, the names of a
dictionary. -/
def items (value : Value) : Outcome (List Value) :=
  match value with
  | .text s => .ok (s.toList.map fun c => ofChars [c])
  | .preset p => .ok (p.label.toList.map fun c => ofChars [c])
  | .bytes content => .ok (content.map fun byte => .int byte.toNat)
  | .list items => .ok items
  | .tuple items => .ok items
  | .dict entries => .ok (entries.map fun entry => .text entry.1)
  | other => refuse (.notIterable other.faultName)

def length (value : Value) : Outcome Nat :=
  match value with
  | .text s => .ok s.toList.length
  | .preset p => .ok p.label.toList.length
  | .bytes content => .ok content.length
  | .list items => .ok items.length
  | .tuple items => .ok items.length
  | .dict entries => .ok entries.length
  | other => refuse (.noLength other.faultName)

def character (value : Value) : Outcome Char :=
  match value.writing? with
  | some ⟨_, [c]⟩ => .ok c
  | some writing => refuse (.characterCount writing.chars.length)
  | none => refuse (.character value.faultName)

def letters (value : Value) : Outcome (List Char) :=
  match value with
  | .text s => .ok s.toList
  | value => do
      let items ← value.items
      items.mapM character

/-- The first part of a value that cannot be a key. -/
def unhashable? : Value → Option String
  | .list _ => some "list"
  | .dict _ => some "dict"
  | .tuple items => unhashableItem? items
  | _ => none
where
  unhashableItem? : List Value → Option String
    | [] => none
    | item :: rest =>
        match item.unhashable? with
        | some type => some type
        | none => unhashableItem? rest

def hashable (value : Value) : Outcome Unit :=
  match value.unhashable? with
  | some type => refuse (.unhashable type)
  | none => .ok ()

def overlong : Value → Bool
  | .int n => digitLimit < (digits 10 n.natAbs).length
  | .list items => overlongItem items
  | .tuple items => overlongItem items
  | .dict entries => overlongEntry entries
  | _ => false
where
  overlongItem : List Value → Bool
    | [] => false
    | item :: rest => item.overlong || overlongItem rest
  overlongEntry : List (String × Value) → Bool
    | [] => false
    | (_, value) :: rest => value.overlong || overlongEntry rest

def writable (value : Value) : Outcome Unit :=
  if value.overlong then refuse .unwritableInteger else .ok ()

/-! ## Order -/

def numberLess? (a b : Value) : Option Bool :=
  match a, b with
  | .float x, .float y => some (x < y)
  -- The comparison is exact; an integer is not made a floating point number for it.
  | .float x, other => other.int?.map fun n => compareInt n (binary64 x) == some .gt
  | other, .float y => other.int?.map fun n => compareInt n (binary64 y) == some .lt
  | a, b => a.int?.bind fun m => b.int?.map fun n => decide (m < n)

def numberLe? (a b : Value) : Option Bool :=
  (numberLess? a b).map fun below => below || a.same b

def textLess (a b : List Char) : Bool :=
  textLe a b && a != b

mutual

/-- The order of numbers, of texts, and of lists and tuples by their first difference. `sign` is how
the comparison was written. -/
def less (sign : String) : Value → Value → Outcome Bool
  | .list a, .list b => itemsLess sign a b
  | .tuple a, .tuple b => itemsLess sign a b
  | .bytes a, .bytes b => .ok (a < b)
  | a, b =>
      match numberLess? a b, a.chars?, b.chars? with
      | some below, _, _ => .ok below
      | none, some s, some t => .ok (textLess s t)
      | none, _, _ => refuse (.incomparable sign a.faultName b.faultName)

def itemsLess (sign : String) : List Value → List Value → Outcome Bool
  | [], [] => .ok false
  | [], _ :: _ => .ok true
  | _ :: _, [] => .ok false
  | a :: as, b :: bs => if a.same b then itemsLess sign as bs else less sign a b

end

def atMost (a b : Value) : Outcome Bool :=
  match numberLe? a b with
  | some holds => .ok holds
  | none => refuse (.incomparable "<=" a.faultName b.faultName)

def atLeast (a b : Value) : Outcome Bool :=
  match numberLe? b a with
  | some holds => .ok holds
  | none => refuse (.incomparable ">=" a.faultName b.faultName)

def above (a b : Value) : Outcome Bool :=
  match numberLess? b a with
  | some holds => .ok holds
  | none => refuse (.incomparable ">" a.faultName b.faultName)

/-! ## Sorting -/

/-- Splits off the first run of items, each of which stands to the one before it as the first two do. -/
def leadingRun (falling : Bool) (taken : List Value) : List Value → Outcome (List Value × List Value)
  | [] => .ok (taken, [])
  | item :: rest =>
      match taken with
      | [] => leadingRun falling [item] rest
      | last :: _ => do
          let below ← less "<" item last
          if below == falling then leadingRun falling (item :: taken) rest
          else .ok (taken, item :: rest)

def sortedPlace (item : Value) (sorted : List Value) : Nat → Nat → Nat → Outcome Nat
  | 0, low, _ => .ok low
  | fuel + 1, low, high =>
      if low < high then do
        let middle := low + (high - low) / 2
        let below ← less "<" item ((sorted[middle]?).getD .nothing)
        -- An item goes behind all that it is not below.
        if below then sortedPlace item sorted fuel low middle
        else sortedPlace item sorted fuel (middle + 1) high
      else .ok low

def insertSorted (sorted : List Value) : List Value → Outcome (List Value)
  | [] => .ok sorted
  | item :: rest => do
      let place ← sortedPlace item sorted (sorted.length + 1) 0 sorted.length
      insertSorted (sorted.take place ++ item :: sorted.drop place) rest

def sorted (items : List Value) : Outcome (List Value) :=
  match items with
  | first :: second :: rest => do
      let falling ← less "<" second first
      let (run, rest) ← leadingRun falling [second, first] rest
      -- A run was taken from its last item on, so a falling one stands in order.
      insertSorted (if falling then run else run.reverse) rest
  | items => .ok items

/-! ## Arithmetic -/

def floatOfInt (n : Int) : Outcome Float :=
  match nearestToInt? n with
  | some x => .ok x
  | none => refuse .tooLargeForFloat

/-- An operation on two numbers; `sign` is how it was written. An integer beside a floating point number
becomes one too. -/
def arithmetic (sign : String) (whole : Int → Int → Int) (real : Float → Float → Float)
    (a b : Value) : Outcome Value :=
  match a, b with
  | .float x, .float y => .ok (.float (real x y))
  | .float x, b =>
      match b.int? with
      | some n => (floatOfInt n).map fun y => .float (real x y)
      | none => refuse (.unsupported sign a.faultName b.faultName)
  | a, .float y =>
      match a.int? with
      | some m => (floatOfInt m).map fun x => .float (real x y)
      | none => refuse (.unsupported sign a.faultName b.faultName)
  | a, b =>
      match a.int?, b.int? with
      | some m, some n => .ok (.int (whole m n))
      | _, _ => refuse (.unsupported sign a.faultName b.faultName)

def minus (a b : Value) : Outcome Value :=
  arithmetic "-" (· - ·) (· - ·) a b

def half (a : Value) : Outcome Value :=
  match a with
  | .float x => .ok (.float (x / 2).floor)
  | a =>
      match a.int? with
      | some n => .ok (.int (n / 2))
      | none => refuse (.unsupported "//" a.faultName "int")

def plus (a b : Value) : Outcome Value :=
  match a, b with
  | .list s, .list t => .ok (.list (s ++ t))
  | .list _, b => refuse (.concatenation "list" b.faultName)
  | .tuple s, .tuple t => .ok (.tuple (s ++ t))
  | .tuple _, b => refuse (.concatenation "tuple" b.faultName)
  | .bytes s, .bytes t => .ok (.bytes (s ++ t))
  | .bytes _, b => refuse (.bytesConcatenation b.faultName)
  | a, b =>
      match a.chars?, b.chars? with
      | some s, some t => .ok (ofChars (s ++ t))
      | some _, none => refuse (.concatenation "str" b.faultName)
      | none, _ => arithmetic "+" (· + ·) (· + ·) a b

/-- The largest number of repetitions that can be asked for, and the longest sequence there is. -/
def indexLimit : Int := 9223372036854775807

/-- Repeats a sequence. `tooLong` is the fault of a sequence that would be longer than any may be. -/
def repeatItems {α : Type} (tooLong : OperandFault) (items : List α) (count : Int) :
    Outcome (List α) :=
  if indexLimit < count || count < -indexLimit - 1 then refuse .tooLargeForCount
  -- Nothing is nothing however often it is repeated.
  else if items.isEmpty then .ok []
  else
    let total := items.length * count
    if indexLimit < total then refuse tooLong else .ok (repeated count.toNat items)

def repeatBy {α : Type} (tooLong : OperandFault) (items : List α) (count : Value) :
    Outcome (List α) :=
  match count.int? with
  | some n => repeatItems tooLong items n
  | none => refuse (.multiplier count.faultName)

def times (a count : Value) : Outcome Value :=
  match a with
  | .list items => (repeatBy .outOfMemory items count).map .list
  | .tuple items => (repeatBy .outOfMemory items count).map .tuple
  | .bytes content => (repeatBy .bytesTooLong content count).map .bytes
  | a =>
      match a.chars? with
      | some chars => (repeatBy .textTooLong chars count).map ofChars
      | none => arithmetic "*" (· * ·) (· * ·) a count

/-! ## Positions -/

/-- The element at a place; places below zero count from the end. -/
def pick {α : Type} (fault : OperandFault) (items : List α) (place : Int) : Outcome α :=
  let found := if place < 0 then items.reverse[(-place - 1).toNat]? else items[place.toNat]?
  match found with
  | some item => .ok item
  | none => refuse fault

def wholePlace (fault : OperandFault) (place : Value) : Outcome Int :=
  match place.int? with
  | some n => .ok n
  | none => refuse fault

def itemAt (value place : Value) : Outcome Value :=
  match value with
  | .list items => do
      let n ← wholePlace (.itemIndex "list" place.faultName) place
      pick (.itemOutOfRange "list") items n
  | .tuple items => do
      let n ← wholePlace (.itemIndex "tuple" place.faultName) place
      pick (.itemOutOfRange "tuple") items n
  | .bytes content => do
      let n ← wholePlace (.itemIndex "byte" place.faultName) place
      (pick .byteOutOfRange content n).map fun byte => .int byte.toNat
  | .dict entries => do
      place.hashable
      match entries.find? fun entry => (Value.text entry.1).same place with
      | some entry => .ok entry.2
      | none => .error (.raised .key [place])
  | value =>
      match value.chars? with
      | some chars => do
          let n ← wholePlace (.textIndex place.faultName) place
          (pick .textOutOfRange chars n).map fun c => ofChars [c]
      | none => refuse (.notSubscriptable value.faultName)

def sliceBound (bound : Value) : Outcome (Option Int) :=
  match bound with
  | .nothing => .ok none
  | bound =>
      match bound.int? with
      | some n => .ok (some n)
      | none => refuse .sliceBound

def part (value start stop : Value) : Outcome Value :=
  match value with
  | .list items => (bounds start stop).map fun ends => .list (slice ends.1 ends.2 items)
  | .tuple items => (bounds start stop).map fun ends => .tuple (slice ends.1 ends.2 items)
  | .dict _ => refuse (.unhashable "slice")
  | value =>
      match value.writing? with
      | some ⟨script, chars⟩ =>
          (bounds start stop).map fun ends => script.value (slice ends.1 ends.2 chars)
      | none => refuse (.notSubscriptable value.faultName)
where
  bounds (start stop : Value) : Outcome (Option Int × Option Int) := do
    let first ← sliceBound start
    let last ← sliceBound stop
    .ok (first, last)

def reversed (value : Value) : Outcome Value :=
  match value with
  | .list items => .ok (.list items.reverse)
  | .tuple items => .ok (.tuple items.reverse)
  | .dict _ => refuse (.unhashable "slice")
  | value =>
      match value.writing? with
      | some ⟨script, chars⟩ => .ok (script.value chars.reverse)
      | none => refuse (.notSubscriptable value.faultName)

def pieces (value : Value) (size : Nat) : Outcome (List Value) :=
  match value with
  | .list items => .ok ((chunks size items).map .list)
  | .tuple items => .ok ((chunks size items).map .tuple)
  -- No slice is taken of something empty, so its type does not matter.
  | .dict entries => if entries.isEmpty then .ok [] else refuse (.unhashable "slice")
  | value =>
      match value.writing? with
      | some ⟨script, chars⟩ => .ok ((chunks size chars).map script.value)
      | none => refuse (.notSubscriptable value.faultName)

/-! ## Parts -/

/-- The characters of a part that is joined in a script; the place of the part is told if it has none. -/
def joinable (script : Script) (place : Nat) (value : Value) : Outcome (List Char) :=
  match value.writing? with
  | some writing =>
      if writing.script = script then .ok writing.chars
      else refuse (.joinItem script place value.faultName)
  | none => refuse (.joinItem script place value.faultName)

def joinableFrom (script : Script) (place : Nat) (done : List (List Char)) :
    List Value → Outcome (List (List Char))
  | [] => .ok done.reverse
  | value :: rest =>
      match joinable script place value with
      | .ok chars => joinableFrom script (place + 1) (chars :: done) rest
      | .error failure => .error failure

def joinParts (glue : Value) (parts : List Value) : Outcome Value := do
  let writing ← glue.method "join"
  let texts ← joinableFrom writing.script 0 [] parts
  .ok (writing.script.value (writing.chars.intercalate texts))

def byteChar (n : Int) : Outcome Char :=
  if 0 ≤ n && n < 256 then .ok (Char.ofNat n.toNat) else refuse .byteRange

def byteNeedle (fault : OperandFault) (value : Value) : Outcome (List Char) :=
  match value with
  | .bytes content => .ok (content.map fun byte => Char.ofNat byte.toNat)
  | value =>
      match value.int? with
      | some n => (byteChar n).map fun c => [c]
      | none => refuse fault

/-- What is looked for in a writing when the place of it is asked for. -/
def needle (script : Script) (value : Value) : Outcome (List Char) :=
  match script with
  | .bytes => byteNeedle (.bytesNeedle value.faultName) value
  | .text =>
      match value.chars? with
      | some chars => .ok chars
      | none => refuse (.needle value.faultName)

/-- What is looked for in a writing when only its presence is asked for. -/
def member (script : Script) (value : Value) : Outcome (List Char) :=
  match script with
  | .bytes => byteNeedle (.bytesNeeded value.faultName) value
  | .text =>
      match value.chars? with
      | some chars => .ok chars
      | none => refuse (.part value.faultName)

def holds (container part : Value) : Outcome Bool :=
  match container with
  | .list items => .ok (items.any fun item => item.same part)
  | .tuple items => .ok (items.any fun item => item.same part)
  | .dict entries => do
      part.hashable
      .ok (entries.any fun entry => (Value.text entry.1).same part)
  | container =>
      match container.writing? with
      | some ⟨script, whole⟩ => (member script part).map fun part => occursIn part whole
      | none => refuse (.notContainer container.faultName)

def inScript (script : Script) (fault : OperandFault) (value : Value) : Outcome (List Char) :=
  match value.writing? with
  | some writing => if writing.script = script then .ok writing.chars else refuse fault
  | none => refuse fault

/-- Whether a writing begins or ends with a mark, or with one of several; `test` names the question. -/
def hasAffix (test : String) (script : Script) (has : List Char → Bool) (mark : Value) :
    Outcome Bool :=
  match mark with
  | .tuple marks => anyAffix marks
  | mark => (inScript script (.affix test script mark.faultName) mark).map has
where
  fault (mark : Value) : OperandFault :=
    match script with
    | .text => .affixItem test mark.faultName
    | .bytes => .bytesNeeded mark.faultName
  anyAffix : List Value → Outcome Bool
    | [] => .ok false
    | mark :: rest => do
        let chars ← inScript script (fault mark) mark
        if has chars then .ok true else anyAffix rest

/-- The characters of an argument of a replacement, which is numbered from one. -/
def replaceArgument (script : Script) (place : Nat) (value : Value) : Outcome (List Char) :=
  let type := match value with
    | .nothing => "None"
    | value => value.faultName
  match script with
  | .text => inScript script (.replaceArgument place type) value
  | .bytes => inScript script (.bytesNeeded value.faultName) value

/-- The separator at which a writing is split. Only a text that is split has no fault in an empty one. -/
def separatorOf (script : Script) (value : Value) : Outcome (List Char) :=
  match script with
  | .text => inScript script (.separator value.faultName) value
  | .bytes => do
      let mark ← inScript script (.bytesNeeded value.faultName) value
      if mark.isEmpty then refuse .emptySeparator else .ok mark

/-! ## Patterns -/

def subject (value : Value) : Outcome (List Char) :=
  match value.writing? with
  | some ⟨.text, chars⟩ => .ok chars
  | some ⟨.bytes, _⟩ => refuse .textPattern
  | none => refuse (.subject value.faultName)

/-- The characters of a writing that a pattern is applied to. A pattern for one script does not apply to
the other. -/
def subjectOf (p : Pattern) (value : Value) : Outcome (List Char) :=
  match value.writing? with
  | some ⟨.text, chars⟩ => if p.binary then refuse .bytesPattern else .ok chars
  | some ⟨.bytes, chars⟩ => if p.binary then .ok chars else refuse .textPattern
  | none => refuse (.subject value.faultName)

def toPattern (value : Value) : Outcome Pattern :=
  match value with
  | .pattern p => .ok p
  | value => do
      value.hashable
      match value.writing? with
      | none => refuse .patternType
      | some ⟨script, chars⟩ => (Pattern.read (script == .bytes) {} chars).mapError .pattern

end Value

def Pattern.script (p : Pattern) : Script :=
  if p.binary then .bytes else .text

namespace Value

/-- Splits a writing at the hits of a pattern; a group that took no part in a hit leaves a gap. -/
def splitAtHits (p : Pattern) (value : Value) : Outcome (List Value) := do
  let chars ← value.subjectOf p
  .ok ((p.split chars).map fun
    | some part => p.script.value part
    | none => .nothing)

/-- Splits a writing at a mark. A phone format that has no room for the mark, or no character beyond the
first 256 for it, is not taken apart. -/
def splitAtMark (value : Value) (writing : Writing) (mark : List Char) : List Value :=
  match value with
  | .preset p =>
      if p.label.length < mark.length || mark.any (255 < ·.toNat) then [.preset p]
      else (split mark writing.chars).map writing.script.value
  | _ => (split mark writing.chars).map writing.script.value

/-- Splits a value. Without a separator it falls into its items, and so it does at an empty text. A
pattern in the place of the value splits the separator. -/
def splitBy (value separator : Value) : Outcome (List Value) :=
  match separator, value with
  | .nothing, _ => value.items
  | .text "", _ => value.items
  | .pattern p, _ => value.splitAtHits p
  -- The pattern has the method that is asked for, and splits the separator.
  | _, .pattern p => separator.splitAtHits p
  | _, _ => do
      let writing ← value.method "split"
      let mark ← separatorOf writing.script separator
      .ok (splitAtMark value writing mark)

def wordsOf (value : Value) : Outcome (List (List Char)) :=
  match value with
  | .pattern _ => refuse .noSubject
  | value => (value.method "split").map fun writing => writing.script.words writing.chars

/-! ## Whole numbers -/

def toInteger (value : Value) : Outcome Int :=
  match value with
  | .float x =>
      match binary64 x with
      | .notANumber => refuse .integerOfNoNumber
      | .infinite _ => refuse .integerOfInfinity
      | finite => .ok (finite.truncate?.getD 0)
  | value =>
      match value.int?, value.writing? with
      | some n, _ => .ok n
      | none, some ⟨.text, chars⟩ => settle (readInteger chars)
      | none, some ⟨.bytes, chars⟩ => settle (readPlainInteger chars)
      | none, none => refuse (.integerType value.faultName)
where
  settle : Except IntegerFault Int → Outcome Int
    | .ok n => .ok n
    | .error .malformed => refuse (.integerText value.shown)
    | .error (.tooManyDigits count) => refuse (.tooManyDigits count)

end Value

end TextChain
