import TextChain.PatternClass

/-!
Matching by backtracking. A pattern is turned into a matcher, in which every flag has done its work.
A matcher runs at a cursor with two continuations: one for what follows, and one for what is left to
try when that fails. The first way through wins. How long a match takes is left out.
-/

namespace TextChain

/-! ## Cursors -/

/-- What a group has captured: where it was entered last, the characters from there on, and where it
was left last. A group that was entered again and not left since has its old end. -/
structure Extent where
  start : Nat
  text : List Char
  stop : Option Nat
  deriving DecidableEq, Repr

/-- The captured text, unless the group was not left yet or its end lies before its start. -/
def Extent.capture? (extent : Extent) : Option (List Char) :=
  match extent.stop with
  | none => none
  | some stop => if stop < extent.start then none else some (extent.text.take (stop - extent.start))

structure Cursor where
  before : List Char := []
  after : List Char
  place : Nat := 0
  extents : List (Nat × Extent) := []
  deriving DecidableEq, Repr

namespace Cursor

def extent? (cursor : Cursor) (index : Nat) : Option Extent :=
  (cursor.extents.find? (·.1 == index)).map (·.2)

def capture? (cursor : Cursor) (index : Nat) : Option (List Char) :=
  (cursor.extent? index).bind Extent.capture?

def setExtent (cursor : Cursor) (index : Nat) (extent : Extent) : Cursor :=
  { cursor with extents := (index, extent) :: cursor.extents.filter (·.1 != index) }

def enter (cursor : Cursor) (index : Nat) : Cursor :=
  cursor.setExtent index
    ⟨cursor.place, cursor.after, (cursor.extent? index).bind Extent.stop⟩

def leave (cursor : Cursor) (index : Nat) : Cursor :=
  match cursor.extent? index with
  | some extent => cursor.setExtent index { extent with stop := some cursor.place }
  | none => cursor

def onto (cursor : Cursor) (c : Char) (rest : List Char) : Cursor :=
  { cursor with before := c :: cursor.before, after := rest, place := cursor.place + 1 }

def backOne (cursor : Cursor) : Cursor :=
  match cursor.before with
  | [] => cursor
  | c :: rest =>
      { cursor with before := rest, after := c :: cursor.after, place := cursor.place - 1 }

def back (cursor : Cursor) : Nat → Cursor
  | 0 => cursor
  | n + 1 => back cursor.backOne n

def back? (cursor : Cursor) (width : Nat) : Option Cursor :=
  if cursor.place < width then none else some (cursor.back width)

end Cursor

/-! ## Matchers -/

inductive Matcher where
  | done
  | step (kind : CharClass)
  | stretch (kind : CharClass) (appetite : Appetite) (least : Nat) (most : Option Nat)
      (lead : Option CharClass)
  | test (holds : Cursor → Bool)
  | sequence (first second : Matcher)
  | choice (first second : Matcher)
  | group (index : Nat) (body : Matcher)
  | atomic (body : Matcher)
  | ahead (negated : Bool) (body : Matcher)
  | behind (negated : Bool) (width : Nat) (body : Matcher)
  | again (index : Nat) (same : Char → Char → Bool)
  | conditional (index : Nat) (present absent : Matcher)
  | loop (appetite : Appetite) (least : Nat) (most : Option Nat) (body : Matcher)

/-- An attempt at a match, which is over or has further to go. The rest is handed back and not run, so
that however long an attempt is, no part of it waits for another one to end. -/
inductive Attempt where
  | over (answer : Option Cursor)
  | further (rest : Unit → Attempt)

def Attempt.answer : Attempt → Option Cursor
  | .over answer => answer
  | .further rest => (rest ()).answer

abbrev Fallback := Unit → Attempt

abbrev Next := Cursor → Fallback → Attempt

abbrev Run := Next → Cursor → Fallback → Attempt

def Run.first (run : Run) (cursor : Cursor) : Option Cursor :=
  (run (fun stop _ => .over (some stop)) cursor fun _ => .over none).answer

def Cursor.take? (same : Char → Char → Bool) : List Char → Cursor → Option Cursor
  | [], cursor => some cursor
  | c :: text, cursor =>
      match cursor.after with
      | [] => none
      | d :: rest => if same c d then take? same text (cursor.onto d rest) else none

/-! ### Rounds of a loop

Every optional round has to begin at another place than the round before, so a loop makes at most one
round more than there are characters left. That list of characters is what the optional rounds use
up. -/

structure Tally where
  most : Option Nat
  last : Option Nat := none
  deriving DecidableEq, Repr

namespace Tally

def after (tally : Tally) (place : Nat) : Tally :=
  { most := tally.most.map (· - 1), last := some place }

/-- No more rounds may follow when the bound is reached or the last round got nowhere. -/
def isOver (tally : Tally) (cursor : Cursor) : Bool :=
  match tally.most, tally.last with
  | some 0, _ => true
  | _, some place => place == cursor.place
  | _, none => false

end Tally

variable (round : Run)

def rounds : Nat → Run
  | 0, next, cursor, fallback => next cursor fallback
  | n + 1, next, cursor, fallback =>
      round (fun stop fallback => .further fun _ => rounds n next stop fallback) cursor fallback

def manyRounds : List Char → Tally → Run
  | [], _, next, cursor, fallback => next cursor fallback
  | _ :: room, tally, next, cursor, fallback =>
      if tally.isOver cursor then next cursor fallback
      else
        let tally := tally.after cursor.place
        round (fun stop fallback => .further fun _ => manyRounds room tally next stop fallback) cursor
          fun _ => next cursor fallback

def fewRounds : List Char → Tally → Run
  | [], _, next, cursor, fallback => next cursor fallback
  | _ :: room, tally, next, cursor, fallback =>
      if tally.isOver cursor then next cursor fallback
      else
        let tally := tally.after cursor.place
        next cursor fun _ =>
          round (fun stop fallback => .further fun _ => fewRounds room tally next stop fallback)
            cursor fallback

/-- Rounds that each keep the first way through. -/
def keptRounds : List Char → Tally → Cursor → Cursor
  | [], _, cursor => cursor
  | _ :: room, tally, cursor =>
      if tally.isOver cursor then cursor
      else
        match Run.first round cursor with
        | some stop => keptRounds room (tally.after cursor.place) stop
        | none => cursor

def keptExactly : Nat → Cursor → Option Cursor
  | 0, cursor => some cursor
  | n + 1, cursor =>
      match Run.first round cursor with
      | some stop => keptExactly n stop
      | none => none

/-- Room for one optional round more than there are characters left. -/
def roomAt (cursor : Cursor) : List Char := ' ' :: cursor.after

def loopRounds (appetite : Appetite) (least : Nat) (most : Option Nat) : Run :=
  fun next cursor fallback =>
    let tally : Tally := { most := most.map (· - least) }
    match appetite with
    | .greedy =>
        rounds round least
          (fun stop fallback => manyRounds round (roomAt stop) tally next stop fallback)
          cursor fallback
    | .lazy =>
        rounds round least
          (fun stop fallback => fewRounds round (roomAt stop) tally next stop fallback)
          cursor fallback
    | .possessive =>
        match keptExactly round least cursor with
        | some stop => next (keptRounds round (roomAt stop) tally stop) fallback
        | none => .further fallback

/-! ### Loops over single characters

A loop whose rounds each take one character runs ahead as far as it can and then goes back step by
step. Where it is known which characters can come next, other places are passed over. -/

def Cursor.meets (cursor : Cursor) : Option CharClass → Bool
  | none => true
  | some kind =>
      match cursor.after with
      | [] => false
      | c :: _ => kind.accepts c

def isBelow (count : Nat) : Option Nat → Bool
  | none => true
  | some bound => count < bound

structure Stride where
  count : Nat
  cursor : Cursor
  deriving DecidableEq, Repr

/-- Takes characters of a class, at most `most` in all. `count` of them have been taken since `start`. -/
def strideFrom (kind : CharClass) (start : Cursor) (most : Option Nat) (count : Nat)
    (before : List Char) : List Char → Stride
  | [] => ⟨count, { start with before, after := [], place := start.place + count }⟩
  | c :: rest =>
      if isBelow count most && kind.accepts c then
        strideFrom kind start most (count + 1) (c :: before) rest
      else ⟨count, { start with before, after := c :: rest, place := start.place + count }⟩

def stride (kind : CharClass) (most : Option Nat) (start : Cursor) : Stride :=
  strideFrom kind start most 0 start.before start.after

def giveBack (lead : Option CharClass) (next : Next) : Nat → Cursor → Fallback → Attempt
  | 0, cursor, fallback => if cursor.meets lead then next cursor fallback else .further fallback
  | n + 1, cursor, fallback =>
      if cursor.meets lead then
        next cursor fun _ => giveBack lead next n cursor.backOne fallback
      else giveBack lead next n cursor.backOne fallback

def takeMore (kind : CharClass) (lead : Option CharClass) (next : Next) :
    List Char → Option Nat → Cursor → Fallback → Attempt
  | [], _, cursor, fallback => if cursor.meets lead then next cursor fallback else .further fallback
  | c :: rest, most, cursor, fallback =>
      if isBelow 0 most && kind.accepts c then
        let more := most.map (· - 1)
        if cursor.meets lead then
          next cursor fun _ => takeMore kind lead next rest more (cursor.onto c rest) fallback
        else takeMore kind lead next rest more (cursor.onto c rest) fallback
      else if cursor.meets lead then next cursor fallback
      else .further fallback

/-- A loop over the characters of a class, after which only characters of the class `lead` may come. -/
def stretchRounds (kind : CharClass) (appetite : Appetite) (least : Nat) (most : Option Nat)
    (lead : Option CharClass) : Run :=
  fun next cursor fallback =>
    match appetite with
    | .greedy =>
        let run := stride kind most cursor
        if run.count < least then .further fallback
        -- All that can be taken is taken, and given back as far as the rounds reach.
        else giveBack lead next (run.count - least) run.cursor fallback
    | .lazy =>
        -- The least number of rounds is not up for choice.
        let run := stride kind (some least) cursor
        if run.count < least then .further fallback
        else
          takeMore kind lead next run.cursor.after (most.map (· - least)) run.cursor fallback
    | .possessive =>
        let run := stride kind most cursor
        if least ≤ run.count && run.cursor.meets lead then next run.cursor fallback
        else .further fallback

/-! ### Running -/

namespace Matcher

/-- The class of the character that a matcher has to take first. -/
def lead? : Matcher → Option CharClass
  | .step kind => some kind
  | .stretch kind _ least _ _ => if 0 < least then some kind else none
  -- A test takes nothing.
  | .sequence (.test _) second => second.lead?
  | .sequence first _ => first.lead?
  | .group _ body => body.lead?
  | .loop _ least _ body => if 0 < least then body.lead? else none
  | _ => none

def run : Matcher → Run
  | .done, next, cursor, fallback => next cursor fallback
  | .step kind, next, cursor, fallback =>
      match cursor.after with
      | [] => .further fallback
      | c :: rest => if kind.accepts c then next (cursor.onto c rest) fallback else .further fallback
  | .test holds, next, cursor, fallback =>
      if holds cursor then next cursor fallback else .further fallback
  | .sequence first second, next, cursor, fallback =>
      first.run (fun stop fallback => second.run next stop fallback) cursor fallback
  | .choice first second, next, cursor, fallback =>
      first.run next cursor fun _ => second.run next cursor fallback
  | .group index body, next, cursor, fallback =>
      body.run (fun stop fallback => next (stop.leave index) fallback) (cursor.enter index) fallback
  -- What was matched for itself is not tried in another way.
  | .atomic body, next, cursor, fallback =>
      match Run.first body.run cursor with
      | some stop => next stop fallback
      | none => .further fallback
  | .ahead negated body, next, cursor, fallback =>
      match Run.first body.run cursor with
      | some stop =>
          if negated then .further fallback else next { cursor with extents := stop.extents } fallback
      | none => if negated then next cursor fallback else .further fallback
  | .behind negated width body, next, cursor, fallback =>
      match (cursor.back? width).bind (Run.first body.run) with
      | some stop =>
          if negated then .further fallback else next { cursor with extents := stop.extents } fallback
      | none => if negated then next cursor fallback else .further fallback
  | .again index same, next, cursor, fallback =>
      match cursor.capture? index with
      | some text =>
          match cursor.take? same text with
          | some stop => next stop fallback
          | none => .further fallback
      | none => .further fallback
  | .conditional index present absent, next, cursor, fallback =>
      if (cursor.capture? index).isSome then present.run next cursor fallback
      else absent.run next cursor fallback
  | .stretch kind appetite least most lead, next, cursor, fallback =>
      stretchRounds kind appetite least most lead next cursor fallback
  | .loop appetite least most body, next, cursor, fallback =>
      loopRounds body.run appetite least most next cursor fallback

def attempt (matcher : Matcher) (accepts : Cursor → Bool) (cursor : Cursor) : Option Cursor :=
  (matcher.run
    (fun stop fallback => if accepts stop then .over (some stop) else .further fallback) cursor
    fun _ => .over none).answer

end Matcher

/-! ## Matchers of nodes -/

/-- Whether an anchor holds at a cursor. In an empty text there is neither a boundary nor an inside. -/
def Anchor.holds (flags : Flags) (cursor : Cursor) : Anchor → Bool
  | .lineStart =>
      cursor.before.isEmpty || (flags.multiline && cursor.before.head? == some '\n')
  | .lineEnd =>
      cursor.after.isEmpty || cursor.after == ['\n'] ||
        (flags.multiline && cursor.after.head? == some '\n')
  | .textStart => cursor.before.isEmpty
  | .textEnd => cursor.after.isEmpty
  | .boundary => wordBefore != wordAfter
  | .inside => !(cursor.before.isEmpty && cursor.after.isEmpty) && wordBefore == wordAfter
where
  wordBefore : Bool := cursor.before.head?.any fun c => Category.word.holds flags c
  wordAfter : Bool := cursor.after.head?.any fun c => Category.word.holds flags c

def Matcher.repeated (appetite : Appetite) (least : Nat) (most : Option Nat) (lead : Option CharClass) :
    Matcher → Matcher
  | .step kind => .stretch kind appetite least most lead
  | body => .loop appetite least most body

/-- The matcher of a node under flags. `lead` is the class of the character that has to come after it, as
far as that is known; nothing is known inside of nodes that are matched for themselves. -/
def Node.matcher (flags : Flags) (lead : Option CharClass) : Node → Matcher
  | .empty => .done
  | .letter code => .step (flags.letterClass code)
  | .notLetter code => .step (flags.letterClass code).complement
  | .any => .step flags.anyClass
  | .set negated members => .step (setClass flags negated members)
  | .anchor kind => .test fun cursor => kind.holds flags cursor
  | .sequence first second =>
      let after := second.matcher flags lead
      -- The second part is made first, since the first one asks what comes after it.
      .sequence (first.matcher flags after.lead?) after
  | .choice first second => .choice (first.matcher flags lead) (second.matcher flags lead)
  | .group index body => .group index (body.matcher flags lead)
  | .scoped scope body => body.matcher (flags.within scope) lead
  | .atomic body => .atomic (body.matcher flags none)
  | .ahead negated body => .ahead negated (body.matcher flags none)
  | .behind negated width body => .behind negated width.least (body.matcher flags none)
  | .again index =>
      .again index (if flags.ignoreCase then flags.sameFolded else fun c d => c == d)
  | .conditional index present absent =>
      .conditional index (present.matcher flags lead) (absent.matcher flags lead)
  | .loop appetite least most body =>
      -- After the body comes another round or what follows, so nothing is known.
      Matcher.repeated appetite least most lead (body.matcher flags none)

end TextChain
