import TextChain.Proofs.Reading
import TextChain.Proofs.Replay

/-!
Definitions read as segments. A bridge ends a segment: all entries of the segment are recorded, then it
is run on the text at hand, and the segment behind the bridge goes on with what comes out. Building the
chain of a definition and running it answers what the segments answer, and fails as they do.
-/

namespace TextChain

/-! ## Cutting a definition at its bridges -/

/-- A step whose operation is a text. -/
structure Entry where
  name : Name
  settings : Settings

/-- What an entry is for that is no bridge. -/
inductive Directive where
  | negation
  | step (entry : Entry)

inductive Segments where
  | last (directives : List Directive)
  | upTo (directives : List Directive) (exit : Control) (rest : Segments)

def Segments.push (directive : Directive) : Segments → Segments
  | .last directives => .last (directive :: directives)
  | .upTo directives exit rest => .upTo (directive :: directives) exit rest

def cut : List Entry → Segments
  | [] => .last []
  | entry :: rest =>
      match Control.ofValue? entry.name.toValue with
      | none => (cut rest).push (.step entry)
      | some .negate => (cut rest).push .negation
      | some bridge => .upTo [] bridge (cut rest)

/-! ## Recording a segment -/

/-- A step of a segment that is to be run. -/
structure Task where
  form : Form
  name : Name
  settings : Settings
  negated : Bool

/-- The task of an entry: its name has to be bound, the step has to be named and made, and everything that
it requires has to be given. -/
def Catalogue.task (catalogue : Catalogue) (kind : Kind) (negated : Bool) (entry : Entry) :
    Outcome Task :=
  if unnameable kind entry.name entry.settings then refuse .unwritableInteger
  else
    match catalogue.bound? kind entry.name with
    | none => .error (catalogue.unknown kind entry.name)
    | some form => do
        let reported := reportedName kind entry.name entry.settings
        let schema ← form.schemaFor reported entry.settings
        match schema.missing entry.settings with
        | [] => .ok ⟨form, reported, entry.settings, negated⟩
        | missing => .error (.configuration (.missing missing) entry.name.toValue schema.toValue
            (.dict entry.settings))

/-- Records directives in order. A negation is for the step that comes next. -/
def Catalogue.record (catalogue : Catalogue) (kind : Kind) : Bool → List Directive → Outcome (List Task)
  | _, [] => .ok []
  | _, .negation :: rest =>
      match kind with
      | .transformation => .error Control.negate.misuse
      | .assertion => catalogue.record kind true rest
  | negated, .step entry :: rest => do
      let task ← catalogue.task kind negated entry
      let tasks ← catalogue.record kind false rest
      .ok (task :: tasks)

/-! ## Running a segment -/

/-- What ends a segment early: a task that raises, or one that tests and does not hold. A failure whose text
cannot be written gives way to the failure to write it. -/
inductive Stop where
  | raised (name : Name) (soFar : Value) (failure : Failure)
  | refuted (name : Name)

namespace Task

def work (task : Task) (text : Value) : Outcome Value :=
  task.form.work task.name task.settings text

def change (text : Value) (task : Task) : Except Stop Value :=
  (task.work text).mapError fun failure => .raised task.name text failure.logged

/-- A negated task holds if its answer counts as false. -/
def test (text : Value) (task : Task) : Except Stop Unit :=
  match task.work text with
  | .error failure => .error (.raised task.name text failure.logged)
  | .ok answer => if answer.truthy = task.negated then .error (.refuted task.name) else .ok ()

end Task

/-- The text that comes out of a segment: transformations fold it, assertions leave it as it is. -/
def runTasks (kind : Kind) (tasks : List Task) (text : Value) : Except Stop Value :=
  match kind with
  | .transformation => tasks.foldlM Task.change text
  | .assertion => do
      tasks.forM (Task.test text)
      .ok text

def Kind.raisedReason : Kind → BridgeReason
  | .transformation => .transformationRaised
  | .assertion => .assertionRaised

def lastTask (tasks : List Task) : Name :=
  match tasks.getLast? with
  | some task => task.name
  | none => .text ""

/-- The text that a bridge takes out of a segment. A segment that does not hold is told by the name of
its last task. -/
def leave (kind : Kind) (tasks : List Task) (text : Value) : Outcome Value :=
  match runTasks kind tasks text with
  | .ok next => .ok next
  | .error (.raised name soFar failure) =>
      .error (.bridge kind.raisedReason name.toValue soFar (some failure))
  | .error (.refuted _) => .error (.bridge .assertionFalse (lastTask tasks).toValue text none)

namespace Task

def made (task : Task) : Operation := task.form.operation task.name task.settings

def operation (task : Task) : Operation :=
  if task.negated then task.made.negate else task.made

@[simp] theorem operation_name (task : Task) : task.operation.name = task.name := by
  unfold operation
  split <;> rfl

theorem made_execute (task : Task) (text : Value) : task.made.execute text = task.work text := by
  cases outcome : task.work text with
  | error failure =>
      unfold work at outcome
      simp [made, Operation.execute, Form.operation, outcome]
  | ok answer =>
      unfold work at outcome
      cases family : task.form.family <;>
        simp [made, Operation.execute, Form.operation, Operation.isNegated, outcome, family]

theorem operation_execute {task : Task} (family : task.form.family = .assertion) (text : Value) :
    task.operation.execute text =
      (task.work text).map fun answer => if task.negated then .bool (!answer.truthy) else answer := by
  cases negated : task.negated with
  | false =>
      rw [operation, negated]
      simp only [Bool.false_eq_true, ↓reduceIte, made_execute]
      cases task.work text <;> rfl
  | true =>
      rw [operation, negated]
      simp only [↓reduceIte, Operation.negate, made, Form.operation, Operation.execute, family]
      rw [work]
      cases task.form.work task.name task.settings text <;> rfl

end Task

def chainOf (kind : Kind) (text : Value) (tasks : List Task) (negated : Bool) : Chain Operation :=
  ⟨kind, text, tasks.map Task.operation, negated⟩

section Recording
variable {kind : Kind} {text : Value} {tasks : List Task} {negated : Bool}

end Recording

/-! ## Recording and replaying -/

section Resume
variable (catalogue : Catalogue) (text : Value) (tasks : List Task) (negated : Bool)

end Resume

/-- The transformations that the catalogue makes for the steps answer texts with texts. -/
def Catalogue.KeepsTexts (catalogue : Catalogue) (steps : List Step) : Prop :=
  ∀ step ∈ steps, ∀ operation,
    catalogue.step .transformation step.operation step.settings = .ok operation →
      ∀ text answer, text.isText = true → operation.execute text = .ok answer → answer.isText = true

section Replay
variable {catalogue : Catalogue} {kind : Kind} {text : Value} {tasks : List Task} {negated : Bool}

section Step
variable {step : Step}

end Step

end Replay

end TextChain
