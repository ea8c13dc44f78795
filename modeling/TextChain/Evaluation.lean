import TextChain.Form

/-!
The executor with its log and its results. Transformations are folded over the subject, each taking the
answer of the one before; assertions all test the subject, up to the first that does not hold. A run
ends at the first failure. It gives a verdict and a log with one entry for each step that ran, and hands
a failure to a handler. The time and the duration in an entry are left out.
-/

namespace TextChain

/-! ## Log -/

/-- What is known of a step that ran. A step that failed is logged with the value that it was given. -/
structure LogEntry where
  value : Value
  operation : Name
  kind : Kind
  success : Bool := true
  error : Option String := none
  metadata : Settings := []

namespace LogEntry

def completed (operation : Operation) (value answer : Value) : LogEntry :=
  { value := answer
    operation := operation.name
    kind := operation.kind
    metadata := [("input_type", .text value.logName), ("output_type", .text answer.logName),
      ("config", .dict operation.settings)] }

def failed (operation : Operation) (value : Value) (failure : Failure) : LogEntry :=
  { value
    operation := operation.name
    kind := operation.kind
    success := false
    error := some failure.message }

def toValue (entry : LogEntry) : Value :=
  .dict [("operation_name", entry.operation.toValue), ("operation_type", .text entry.kind.label),
    ("success", .bool entry.success),
    ("error", match entry.error with
      | some message => .text message
      | none => .nothing),
    ("metadata", .dict entry.metadata), ("value_type", .text entry.value.logName)]

end LogEntry

def logValue (log : List LogEntry) : Value :=
  .list (log.map LogEntry.toValue)

def lastValue (log : List LogEntry) : Value :=
  match log.getLast? with
  | some entry => entry.value
  | none => .nothing

/-! ## Verdicts -/

inductive Verdict where
  | passed (answer : Value)
  | failed (step : Name) (subject : Value)
  | errored (step : Name) (soFar : Value) (failure : Failure)

namespace Verdict

def label : Verdict → String
  | .passed _ => "passed"
  | .failed _ _ => "failed"
  | .errored _ _ _ => "error"

/-- The answer of a run; a failed test is false, and a step that raised leaves none. -/
def answer : Verdict → Value
  | .passed answer => answer
  | .failed _ _ => .bool false
  | .errored _ _ _ => .nothing

def step? : Verdict → Option Name
  | .passed _ => none
  | .failed step _ => some step
  | .errored step _ _ => some step

def soFar? : Verdict → Option Value
  | .passed _ => none
  | .failed _ subject => some subject
  | .errored _ soFar _ => some soFar

def failure? : Verdict → Option Failure
  | .errored _ _ failure => some failure
  | _ => none

end Verdict

/-! ## Runs -/

structure Report where
  verdict : Verdict
  log : List LogEntry
  remarks : List Remark

def Report.after (report : Report) (entry : LogEntry) (remarks : List Remark) : Report :=
  ⟨report.verdict, entry :: report.log, remarks ++ report.remarks⟩

/-- A run that stops at a step that failed. The text of the failure is written before the step is logged;
if it cannot be written, the step leaves no entry, and the failure to write it takes the place of the other
one. -/
def Report.broken (operation : Operation) (value : Value) (failure : Failure) (remarks : List Remark) :
    Report :=
  match failure.writable with
  | .ok _ => ⟨.errored operation.name value failure, [.failed operation value failure], remarks⟩
  | .error unwritten => ⟨.errored operation.name value unwritten, [], remarks⟩

def transformWith : List Operation → Value → Report
  | [], value => ⟨.passed value, [], []⟩
  | operation :: rest, value =>
      match operation.execute value with
      | .error failure => .broken operation value failure (operation.remarks value)
      | .ok answer =>
          (transformWith rest answer).after (.completed operation value answer)
            (operation.remarks value ++ [.note ("Step " ++ operation.name.plain ++ " completed")])

def assertWith : List Operation → Value → Report
  | [], _ => ⟨.passed (.bool true), [], []⟩
  | operation :: rest, subject =>
      match operation.execute subject with
      | .error failure => .broken operation subject failure (operation.remarks subject)
      | .ok answer =>
          let entry := LogEntry.completed operation subject answer
          if answer.truthy then
            (assertWith rest subject).after entry (operation.remarks subject)
          else
            -- The first step that does not hold has an entry too, and nothing behind it is run.
            ⟨.failed operation.name subject, [entry], operation.remarks subject ++
              [.note ("Assertion " ++ operation.name.plain ++ " evaluated to False")]⟩

def runSteps (kind : Kind) (operations : List Operation) (subject : Value) : Report :=
  match kind with
  | .transformation => transformWith operations subject
  | .assertion => assertWith operations subject

/-! ## Executors -/

structure Executor where
  context : List LogEntry := []

namespace Executor

def execute (executor : Executor) (kind : Kind) (operations : List Operation) (subject : Value) :
    Verdict × Executor :=
  let report := runSteps kind operations subject
  (report.verdict, ⟨executor.context ++ report.log⟩)

end Executor

def chainRemarks (kind : Kind) (count : Nat) (report : Report) : List Remark :=
  .note ("Starting " ++ kind.label ++ " chain with " ++ toString count ++ " steps") ::
    report.remarks ++
      [.note ("Chain finished with status " ++ report.verdict.label ++ " after " ++
        toString report.log.length ++ " steps")]

def evaluate (kind : Kind) (operations : List Operation) (subject : Value) : Report :=
  let report := runSteps kind operations subject
  { report with remarks := chainRemarks kind operations.length report }

/-! ## Delivery of failures -/

/-- A handler takes a failure, the name of the step and the value that the step was given. -/
abbrev Handler := Failure → Name → Value → Outcome Value

structure Handed where
  failure : Failure
  step : Name
  soFar : Value

structure Delivery where
  answer : Outcome Value
  handed : List Handed := []
  remarks : List Remark := []

/-- Hands a failure to the handler, whose answer does not count; without a handler the failure is
raised. -/
def deliver (handler : Option Handler) (failure : Failure) (step : Name) (soFar : Value) :
    Delivery :=
  match handler with
  | none => { answer := .error failure }
  | some handle =>
      -- A handler that raises is not caught.
      { answer := (handle failure step soFar).map fun _ => .nothing
        handed := [⟨failure, step, soFar⟩]
        remarks := [.note ("Step " ++ step.plain ++ " failed, passing error to handler: " ++
          failure.message)] }

def Verdict.deliver (verdict : Verdict) (handler : Option Handler) : Delivery :=
  match verdict with
  | .errored step soFar failure => TextChain.deliver handler failure step soFar
  | verdict => { answer := .ok verdict.answer }

end TextChain
