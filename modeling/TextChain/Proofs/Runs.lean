import TextChain.Extras
import TextChain.Proofs.Lookup

/-!
What a run answers, what it logs and which of its steps it reaches. Transformations hand a value from
step to step and assertions all test one subject, so a run is described by the values that its steps
give, up to the first step that stops it. Whatever stands behind that step has no part in the run.
-/

namespace TextChain

/-! ## Failures of steps -/

/-- What is left of the failure of a step once its text was to be written. -/
def Failure.logged (failure : Failure) : Failure :=
  match failure.writable with
  | .ok _ => failure
  | .error unwritten => unwritten

/-- The entries of a step that failed. Without the text of the failure there is none. -/
def failedLog (step : Operation) (value : Value) (failure : Failure) : List LogEntry :=
  match failure.writable with
  | .ok _ => [.failed step value failure]
  | .error _ => []

section Broken
variable {step : Operation} {value : Value} {failure unwritten : Failure} {remarks : List Remark}

theorem broken_eq : Report.broken step value failure remarks =
    ⟨.errored step.name value failure.logged, failedLog step value failure, remarks⟩ := by
  unfold Report.broken Failure.logged failedLog
  cases failure.writable <;> rfl

theorem logged_written (written : failure.writable = .ok ()) : failure.logged = failure := by
  rw [Failure.logged, written]

theorem logged_unwritten (unwritable : failure.writable = .error unwritten) :
    failure.logged = unwritten := by
  rw [Failure.logged, unwritable]

theorem logged_writable (failure : Failure) : failure.logged.writable = .ok () := by
  rcases failure.writable_cases with written | unwritable
  · rwa [logged_written written]
  · rw [logged_unwritten unwritable]
    rfl

end Broken

/-! ## Runs one after the other -/

/-- Goes on from the answer of a run that passed. A run that stopped stays as it is. -/
def Report.andThen (report : Report) (next : Value → Report) : Report :=
  match report.verdict with
  | .passed answer =>
      let later := next answer
      ⟨later.verdict, report.log ++ later.log, report.remarks ++ later.remarks⟩
  | _ => report

@[simp] theorem andThen_passed (answer : Value) (log : List LogEntry) (remarks : List Remark)
    (next : Value → Report) :
    (Report.mk (.passed answer) log remarks).andThen next =
      ⟨(next answer).verdict, log ++ (next answer).log, remarks ++ (next answer).remarks⟩ := rfl

theorem after_andThen (report : Report) (entry : LogEntry) (remarks : List Remark)
    (next : Value → Report) :
    (report.after entry remarks).andThen next = (report.andThen next).after entry remarks := by
  obtain ⟨verdict, log, told⟩ := report
  cases verdict with
  | passed answer => simp [Report.after, List.append_assoc]
  | failed step subject => rfl
  | errored step soFar failure => rfl

theorem transform_append (first second : List Operation) (subject : Value) :
    transformWith (first ++ second) subject =
      (transformWith first subject).andThen (transformWith second) := by
  induction first generalizing subject with
  | nil => rfl
  | cons step rest ih =>
      cases outcome : step.execute subject with
      | error failure => simp only [List.cons_append, transformWith, outcome, broken_eq]; rfl
      | ok answer => simp only [List.cons_append, transformWith, outcome, ih, after_andThen]

theorem fresh_execute (kind : Kind) (steps : List Operation) (subject : Value) :
    ({} : Executor).execute kind steps subject =
      ((runSteps kind steps subject).verdict, ⟨(runSteps kind steps subject).log⟩) := rfl

/-- The failure of a run can be written. -/
theorem errored_writable {kind : Kind} {steps : List Operation} {subject value : Value} {name : Name}
    {failure : Failure} (errs : (runSteps kind steps subject).verdict = .errored name value failure) :
    failure.writable = .ok () := by
  induction steps generalizing subject with
  | nil => cases kind <;> cases errs
  | cons step rest ih =>
      cases kind with
      | transformation =>
          rw [runSteps, transformWith] at errs
          cases outcome : step.execute subject with
          | error raised =>
              -- The run ends with what is left of the failure, and that can be written.
              simp only [outcome, broken_eq, Verdict.errored.injEq] at errs
              exact errs.2.2 ▸ logged_writable raised
          | ok answer =>
              rw [outcome] at errs
              exact ih errs
      | assertion =>
          rw [runSteps, assertWith] at errs
          cases outcome : step.execute subject with
          | error raised =>
              simp only [outcome, broken_eq, Verdict.errored.injEq] at errs
              exact errs.2.2 ▸ logged_writable raised
          | ok answer =>
              simp only [outcome] at errs
              split at errs
              · exact ih errs
              · cases errs

section Place
variable {place : Nat} {step : Operation} {steps : List Operation}

end Place

section Throughout
variable {fact : Nat → Operation → Prop} {steps : List Operation} {count : Nat}

end Throughout

def inFront (first : Value) (values : Nat → Value) : Nat → Value
  | 0 => first
  | place + 1 => values place

section Stop
variable {steps : List Operation} {subject : Value} {answers : Nat → Value} {place : Nat}
  {step : Operation}

end Stop

end TextChain
