import TextChain.Fluent

/-!
The parser of definitions, and the specifications of steps that are its data. A definition is a JSON text
or a list; every entry names an operation, its settings and, if it likes, its place. Reading gives every
entry a place of its own, and replaying does what the entries say in the order of their places. The kind
of chain is given by a mode; other ways to write a definition down are left out.
-/

namespace TextChain

/-! ## Steps written by hand -/

/-- A step as somebody wrote it down; nothing of it has been checked. -/
structure Sketch where
  operation : Value
  settings : Value := .nothing
  order : Value := .int 0

namespace Sketch

def toValue (sketch : Sketch) : Value :=
  .dict [("operation", sketch.operation),
    ("operation_config", if sketch.settings.truthy then sketch.settings else .dict []),
    ("order_index", sketch.order)]

def shown (sketch : Sketch) : String :=
  "OperationSpec(operation=" ++ sketch.operation.plain ++ ", order=" ++ sketch.order.plain ++ ")"

def same (a b : Sketch) : Bool := a.toValue.same b.toValue

/-- Which sketches of a list are equal to which. Each is equal to itself, whatever it holds. -/
def equalities (sketches : List Sketch) : List (List Bool) :=
  sketches.zipIdx.map fun (a, i) => sketches.zipIdx.map fun (b, j) => i == j || a.same b

end Sketch

/-! ## Steps with a place -/

structure Step where
  operation : Value
  settings : Settings
  order : Int

namespace Step

def toSketch (step : Step) : Sketch := ⟨step.operation, .dict step.settings, .int step.order⟩

def toValue (step : Step) : Value := step.toSketch.toValue

def shown (step : Step) : String := step.toSketch.shown

def le (a b : Step) : Bool := a.order ≤ b.order

end Step

/-! ## Places -/

/-- Taken places in a row: those from `first` up to and without `stop`. -/
structure Row where
  first : Int
  stop : Int
  deriving DecidableEq, Repr

/-- Puts a row in front of those that come after it. Rows that touch become one. -/
def Row.before (row : Row) : List Row → List Row
  | [] => [row]
  | next :: rest =>
      if row.stop = next.first then ⟨row.first, next.stop⟩ :: rest else row :: next :: rest

/-- Takes the first free place at or after the wanted one. The rows come in ascending order with free
places between them, so the place after a row is free. -/
def takePlace (wanted : Int) : List Row → Int × List Row
  | [] => (wanted, [⟨wanted, wanted + 1⟩])
  | row :: rest =>
      if wanted < row.first then (wanted, Row.before ⟨wanted, wanted + 1⟩ (row :: rest))
      else if wanted < row.stop then
        -- The place is taken, and so is every other one of the row.
        (row.stop, Row.before ⟨row.first, row.stop + 1⟩ rest)
      else
        let (place, rows) := takePlace wanted rest
        (place, row.before rows)

/-! ## Reading -/

def fault {α : Type} (found : DefinitionFault) : Outcome α := .error (.definition found)

/-- The settings of an entry; none are given by leaving them out or by giving nothing. -/
def entrySettings (place : Nat) (chain : String) (entry : Settings) : Outcome Settings :=
  match entry.either "operation_config" .nothing with
  | .nothing => .ok []
  | .dict settings => .ok settings
  | other => fault (.settingsType place chain other.typeName)

def readEntry (chain : String) (position : Nat) (entry : Value) : Outcome Step :=
  match entry with
  | .dict fields => do
      let operation := Settings.either fields "operation" .nothing
      if !operation.truthy then fault (.noOperation position chain)
      else
        let settings ← entrySettings position chain fields
        -- A place that is written down as nothing is no place, and is refused.
        let order ← (Settings.either fields "order_index" (.int position)).toInteger
        .ok { operation, settings, order }
  | other => fault (.stepType position chain other.typeName)

def readEntries (chain : String) (position : Nat) (taken : List Row) :
    List Value → Outcome (List Step)
  | [] => .ok []
  | entry :: rest => do
      let step ← readEntry chain position entry
      let (order, taken) := takePlace step.order taken
      let steps ← readEntries chain (position + 1) taken rest
      .ok ({ step with order } :: steps)

def loadDefinition (definition : Value) (chain : String) : Outcome Value :=
  match definition with
  | .list items => .ok (.list items)
  | definition =>
      match definition.chars? with
      | none => fault (.wrongType definition.typeName)
      | some text =>
          match Value.ofJson? (String.ofList text) with
          | .ok data => .ok data
          | .error error => fault (.malformed chain error)

/-- The steps of a definition in the order of their places. Empty data of any type has no steps. -/
def readDefinition (definition : Value) (chain : String) : Outcome (List Step) := do
  let data ← loadDefinition definition chain
  if !data.truthy then .ok []
  else
    -- Data other than a list falls into texts, if into anything, and a text is no entry.
    let entries ← data.items
    let steps ← readEntries chain 0 [] entries
    .ok (steps.mergeSort Step.le)

/-! ## Replaying -/

def kindOfMode (mode : Value) : Outcome Kind := do
  mode.hashable
  if mode.same (.text "transform") then .ok .transformation
  else if mode.same (.text "assert") then .ok .assertion
  else do
    mode.writable
    .error (.configuration (.unknownMode mode) .nothing .nothing .nothing)

/-- An entry that belongs to chains of one kind only. -/
inductive Control where
  | negate
  | toAssertion
  | toTransformation
  deriving DecidableEq, Repr

namespace Control

def label : Control → String
  | .negate => "is_not"
  | .toAssertion => "assert_that"
  | .toTransformation => "string_transform"

def home : Control → Kind
  | .negate => .assertion
  | .toAssertion => .transformation
  | .toTransformation => .assertion

def request : Control → Request
  | .negate => .negate
  | .toAssertion => .bridge
  | .toTransformation => .bridge

def all : List Control := [.negate, .toAssertion, .toTransformation]

def ofValue? (operation : Value) : Option Control :=
  all.find? fun control => operation.same (.text control.label)

end Control

def Kind.chainPhrase : Kind → String
  | .transformation => "a transformation chain"
  | .assertion => "an assertion chain"

def Control.misplaced (control : Control) : ConfigurationReason :=
  .misplaced control.label control.home.chainPhrase

def Step.request (step : Step) (kind : Kind) : Outcome Request :=
  match Control.ofValue? step.operation with
  | some control =>
      if control.home = kind then .ok control.request
      else .error (.configuration control.misplaced (.text control.label) .nothing .nothing)
  | none => .ok (.record step.operation step.settings)

namespace Chain

def replayStep (catalogue : Catalogue) (chain : Chain Operation) (step : Step) :
    Outcome (Chain Operation) := do
  let request ← step.request chain.kind
  chain.perform catalogue request

def replay (catalogue : Catalogue) : Chain Operation → List Step → Outcome (Chain Operation)
  | chain, [] => .ok chain
  | chain, step :: rest => do
      let next ← chain.replayStep catalogue step
      replay catalogue next rest

def build (catalogue : Catalogue) (subject definition mode : Value) (name : String) :
    Outcome (Chain Operation) := do
  let kind ← kindOfMode mode
  let chain ← start kind subject
  let steps ← readDefinition definition name
  replay catalogue chain steps

end Chain

end TextChain
