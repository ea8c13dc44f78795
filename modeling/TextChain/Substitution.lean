import TextChain.Raising

/-!
Putting something else in the place of the hits of a pattern: a writing as it stands, a template that
refers to the groups of the hit, or the answer of a function. A hit is nothing that a step can keep, so
functions do little with it.
-/

namespace TextChain

/-! ## Replacements -/

inductive Replacement where
  | literal (value : Value)
  | template (script : Script) (parts : Template)
  | function (r : Routine)

def Template.replacement (script : Script) : Template → Replacement
  | [.literal text] => .literal (script.value text)
  | parts => .template script parts

/-- Reads a replacement against the pattern whose hits it is for. A writing without a backslash is taken
as it stands. -/
def Value.toReplacement (p : Pattern) (value : Value) : Outcome Replacement :=
  match value with
  | .routine r _ => .ok (.function r)
  | value =>
      match value.writing? with
      | none => do
          -- A template is looked up before its type is asked for.
          value.hashable
          refuse (.template value.faultName)
      | some ⟨script, chars⟩ =>
          -- Without a backslash nothing is read, whatever script the pattern is for.
          if !chars.contains '\\' then .ok (.literal value)
          else
            match Template.read p (script == .bytes) chars with
            | .ok parts => .ok (parts.replacement script)
            | .error (.malformed error) => .error (.pattern error)
            | .error (.unknownName name) => refuse (.unknownGroupName name)

/-! ## Hits -/

/-- A part of the result: characters, or something that cannot be joined, of which the type is kept. -/
inductive Piece where
  | chars (text : List Char)
  | stray (type : String)
  deriving DecidableEq, Repr

def Value.piece (script : Script) (value : Value) : Piece :=
  match value.writing? with
  | some writing =>
      if writing.script = script then .chars writing.chars else .stray value.faultName
  | none => .stray value.faultName

/-- How a function answers when it is called with a hit: hits are no values, but they can be handed
back. -/
def Routine.callWithHit (script : Script) (r : Routine) : Outcome (Option Piece) :=
  match r with
  | .identity | .spy none => .ok (some (.stray hitType))
  | .reverse => refuse .noSuchGroup
  | .double => refuse (.unsupported "+" hitType hitType)
  | .length => refuse (.noLength hitType)
  | .contains _ => refuse (.notContainer hitType)
  | .constant answer | .spy (some answer) => .ok (answered answer)
  | .raises kind details => raise kind (details.getD [])
where
  hitType : String := "re.Match"
  answered : Value → Option Piece
    | .nothing => none
    | answer => some (answer.piece script)

/-- The text of a template for a hit. The literal parts have to be of the script of the hit. -/
def expandIn (script : Script) (origin : Script) (parts : Template) (hit : Hit) :
    Outcome (List Char) :=
  let literal := parts.findIdx? fun
    | .literal _ => true
    | .group _ => false
  match literal with
  | some place =>
      if script = origin then .ok (parts.expand hit)
      else refuse (.joinItem script place origin.typeName)
  | none => .ok (parts.expand hit)

/-- What comes into the place of a hit. A function that answers with nothing leaves it empty. -/
def Replacement.piece (script : Script) (replacement : Replacement) (hit : Hit) :
    Outcome (Option Piece) :=
  match replacement with
  | .literal value => .ok (some (value.piece script))
  | .template origin parts => (expandIn script origin parts hit).map fun text => some (.chars text)
  | .function r => r.callWithHit script

/-! ## Results -/

def gapPieces (gap : List Char) : List Piece :=
  if gap.isEmpty then [] else [.chars gap]

def piecesFrom (script : Script) (replacement : Replacement) (done : List Piece) :
    List Search.Cut → Outcome (List Piece)
  | [] => .ok done
  | cut :: rest => do
      let piece ← replacement.piece script cut.hit
      piecesFrom script replacement (piece.toList ++ gapPieces cut.gap ++ done) rest

def joinPiecesFrom (script : Script) (place : Nat) (done : List (List Char)) :
    List Piece → Outcome (List Char)
  | [] => .ok done.reverse.flatten
  | .chars text :: rest => joinPiecesFrom script (place + 1) (text :: done) rest
  | .stray type :: _ => refuse (.joinItem script place type)

def substituteCuts (script : Script) (replacement : Replacement) (cuts : List Search.Cut)
    (last : List Char) : Outcome (List Char) := do
  let pieces ← piecesFrom script replacement [] cuts
  joinPiecesFrom script 0 [] ((gapPieces last ++ pieces).reverse)

namespace Pattern

/-- The first hit with the texts before and after it; without a hit the whole text comes after. -/
def firstCut (p : Pattern) (text : List Char) : List Search.Cut × List Char :=
  match p.find? text with
  | some (before, hit, after) => ([⟨before, hit⟩], after)
  | none => ([], text)

def replaceBy (p : Pattern) (cuts : List Char → List Search.Cut × List Char)
    (replacement value : Value) : Outcome Value := do
  let replacement ← replacement.toReplacement p
  let text ← value.subjectOf p
  let (found, last) := cuts text
  let chars ← substituteCuts p.script replacement found last
  .ok (p.script.value chars)

def replaceFirst (p : Pattern) (replacement value : Value) : Outcome Value :=
  p.replaceBy p.firstCut replacement value

def replaceAll (p : Pattern) (replacement value : Value) : Outcome Value :=
  p.replaceBy p.search.cuts replacement value

end Pattern

end TextChain
