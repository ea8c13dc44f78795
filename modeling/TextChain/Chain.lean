import TextChain.Catalogue
import TextChain.Evaluation

/-!
Chains of both kinds: a subject, the steps recorded for it, and whether the next step is to be negated.
Recording a step runs nothing; a bridge runs a chain and starts one of the other kind. The steps of a
chain are operations, or whatever stands for operations that several chains share. A chain is a value, so
that no caller sees another one's changes; chains that are changed in place are those of a session.
-/

namespace TextChain

def Kind.other : Kind → Kind
  | .transformation => .assertion
  | .assertion => .transformation

def Kind.chainLabel : Kind → String
  | .transformation => "TransformChain"
  | .assertion => "AssertionChain"

structure Chain (step : Type) where
  kind : Kind
  subject : Value
  steps : List step := []
  negateNext : Bool := false

/-- The name under which a step is reported when it differs from the name of its form. It may tell a
setting, which has to be written then. -/
def stepName? (kind : Kind) (name : Value) (settings : Settings) : Outcome (Option Name) :=
  match kind with
  | .transformation => .ok none
  | .assertion =>
      if name.same (.text "where_value_at") then
        match settings.get? "index" with
        | some index => index.writable.map fun _ =>
            some (.text ("where_value_at(" ++ index.plain ++ ").is"))
        -- Without an index the step is refused later, for want of it.
        | none => .ok none
      else if name.same (.text "word_count") then .ok (some (.text "word_count.is"))
      else .ok none

/-- A step for chains of a kind. It is given its name before anything is looked up. -/
def Catalogue.step (catalogue : Catalogue) (kind : Kind) (name : Value) (settings : Settings) :
    Outcome Operation := do
  let stepName ← stepName? kind name settings
  catalogue.prepare kind name settings stepName

namespace Chain

variable {step : Type}

def start (kind : Kind) (subject : Value) : Outcome (Chain step) :=
  if subject.isText then .ok { kind, subject } else .error (.subjectType subject.typeName)

def isNot (chain : Chain step) : Chain step := { chain with negateNext := true }

/-- Appends a step. A pending negation is used up by it. -/
def push (chain : Chain step) (next : step) : Chain step :=
  { chain with steps := chain.steps ++ [next], negateNext := false }

def subjectText (chain : Chain step) : Value :=
  match chain.subject.chars? with
  | some chars => .ofChars chars
  | none => chain.subject

def shown (chain : Chain step) (names : List String) : String :=
  chain.kind.chainLabel ++ "(subject=" ++ chain.subject.shown ++ ", steps=" ++
    bracketed "[" "]" names ++ ")"

/-- The failure of a bridge behind a step that raised. Its text tells the failure of the step and the value
that the step was given, and both have to be written. -/
def barred (reason : BridgeReason) (name : Name) (soFar : Value) (failure : Failure) : Outcome Value := do
  failure.writable
  soFar.writable
  .error (.bridge reason name.toValue soFar (some failure))

/-- The subject of the chain that a bridge starts. A chain that failed cannot be left. A transformation
hands on its answer and an assertion its own subject. `last` is the name of the last step. -/
def crossed (chain : Chain step) (last : Name) (verdict : Verdict) : Outcome Value :=
  match chain.kind, verdict with
  | .transformation, .errored name soFar failure => barred .transformationRaised name soFar failure
  -- Transformations do not fail, so what is left is a run that passed.
  | .transformation, verdict => .ok verdict.answer
  | .assertion, .errored name soFar failure => barred .assertionRaised name soFar failure
  | .assertion, .failed _ _ => .error (.bridge .assertionFalse last.toValue chain.subject none)
  | .assertion, .passed _ => .ok chain.subject

/-- A chain that cannot be left is complained about, once the complaint is written. -/
def crossingRemarks : Outcome Value → List Remark
  | .error (.bridge reason operation soFar source) =>
      [.complaint (Failure.bridge reason operation soFar source).message]
  | _ => []

end Chain

namespace Operation

def listed (operation : Operation) : Value :=
  .list [.text operation.name.label, match operation.negated with
    | some negated => .bool negated
    | none => .nothing]

end Operation

def lastName (operations : List Operation) : Name :=
  match operations.getLast? with
  | some operation => operation.name
  | none => .text ""

/-! ## Chains of operations -/

namespace Chain

def add (chain : Chain Operation) (operation : Operation) : Chain Operation :=
  chain.push (if chain.negateNext then operation.negate else operation)

def apply (chain : Chain Operation) (catalogue : Catalogue) (name : Value) (settings : Settings) :
    Outcome (Chain Operation) :=
  (catalogue.step chain.kind name settings).map chain.add

def run (chain : Chain Operation) : Report :=
  evaluate chain.kind chain.steps chain.subject

def attempt (chain : Chain Operation) (handler : Option Handler) : Delivery :=
  chain.run.verdict.deliver handler

def bridge (chain : Chain Operation) : Outcome (Chain Operation) := do
  let subject ← chain.crossed (lastName chain.steps) chain.run.verdict
  start chain.kind.other subject

def names (chain : Chain Operation) : List String := chain.steps.map (·.name.label)

end Chain

end TextChain
