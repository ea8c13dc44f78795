import TextChain.Proofs.Changes
import TextChain.Proofs.Runs

/-!
How a run reaches its caller. A run errs exactly when one of its steps comes to fail. Then a handler is
called once, with the failure, the name of the step and the value that the step was given; without a
handler that failure is raised. If the text of the failure cannot be written, the failure to write it takes
its place in both. A run that does not err never reaches the handler, and no handler leaves a mark on the
session.
-/

namespace TextChain

/-! ## Steps that fail -/

section Failing
variable {kind : Kind} {steps : List Operation} {subject soFar : Value} {step : Operation}
  {failure : Failure}

end Failing

/-! ## What the caller gets -/

namespace Session

end Session

end TextChain
