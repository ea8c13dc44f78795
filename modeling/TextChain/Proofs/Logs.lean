import TextChain.Proofs.Changes
import TextChain.Proofs.Runs

/-!
Two sorts of logs. An executor only adds to its log: each run leaves behind what was logged before and the
log that the run would have by itself. The chain of a slot keeps one log, that of its latest run, and none of
the runs before it shows in there.
-/

namespace TextChain

/-! ## Executors -/

namespace Executor

def note (executor : Executor) (entry : LogEntry) : Executor := ⟨executor.context ++ [entry]⟩

/-- Stops at a step that failed. It is noted if its failure can be written. -/
def breakOff (executor : Executor) (operation : Operation) (value : Value) (failure : Failure) :
    Verdict × Executor :=
  match failure.writable with
  | .ok _ =>
      (.errored operation.name value failure, executor.note (.failed operation value failure))
  | .error unwritten => (.errored operation.name value unwritten, executor)

/-- Hands a value from step to step. Each step is noted at once, also the one that fails. -/
def transformOn : List Operation → Executor → Value → Verdict × Executor
  | [], executor, value => (.passed value, executor)
  | operation :: rest, executor, value =>
      match operation.execute value with
      | .error failure => executor.breakOff operation value failure
      | .ok answer => transformOn rest (executor.note (.completed operation value answer)) answer

/-- Tests one subject with every step. Each step is noted at once, also the one that does not hold. -/
def assertOn : List Operation → Executor → Value → Verdict × Executor
  | [], executor, _ => (.passed (.bool true), executor)
  | operation :: rest, executor, subject =>
      match operation.execute subject with
      | .error failure => executor.breakOff operation subject failure
      | .ok answer =>
          let noted := executor.note (.completed operation subject answer)
          if answer.truthy then assertOn rest noted subject
          else (.failed operation.name subject, noted)

/-- Runs a chain step by step, on a log that others may have written to before. -/
def runOn (executor : Executor) (kind : Kind) (operations : List Operation) (subject : Value) :
    Verdict × Executor :=
  match kind with
  | .transformation => transformOn operations executor subject
  | .assertion => assertOn operations executor subject

variable (executor : Executor)

theorem note_context (entry : LogEntry) (log : List LogEntry) :
    (executor.note entry).context ++ log = executor.context ++ entry :: log := by
  rw [note, List.append_assoc, List.singleton_append]

theorem breakOff_adds (operation : Operation) (value : Value) (failure : Failure) (remarks : List Remark) :
    executor.breakOff operation value failure =
      ((Report.broken operation value failure remarks).verdict,
        ⟨executor.context ++ (Report.broken operation value failure remarks).log⟩) := by
  unfold breakOff Report.broken
  cases failure.writable with
  | ok _ => rfl
  | error unwritten => simp only [List.append_nil]

theorem transformOn_adds (operations : List Operation) (value : Value) :
    transformOn operations executor value =
      ((transformWith operations value).verdict,
        ⟨executor.context ++ (transformWith operations value).log⟩) := by
  induction operations generalizing executor value with
  | nil => simp [transformOn, transformWith]
  | cons operation rest ih =>
      rw [transformOn, transformWith]
      cases operation.execute value with
      | error failure => exact executor.breakOff_adds operation value failure _
      | ok answer =>
          simp only [ih, note_context]
          rfl

theorem assertOn_adds (operations : List Operation) (subject : Value) :
    assertOn operations executor subject =
      ((assertWith operations subject).verdict,
        ⟨executor.context ++ (assertWith operations subject).log⟩) := by
  induction operations generalizing executor with
  | nil => simp [assertOn, assertWith]
  | cons operation rest ih =>
      rw [assertOn, assertWith]
      cases operation.execute subject with
      | error failure => exact executor.breakOff_adds operation subject failure _
      | ok answer =>
          by_cases holds : answer.truthy = true
          · simp only [holds, ↓reduceIte, ih, note_context]
            rfl
          · simp only [holds]
            rfl

theorem runOn_execute (kind : Kind) (operations : List Operation) (subject : Value) :
    executor.runOn kind operations subject = executor.execute kind operations subject := by
  cases kind with
  | transformation => exact transformOn_adds executor operations subject
  | assertion => exact assertOn_adds executor operations subject

end Executor

/-- A call of an executor. -/
structure Job where
  kind : Kind
  operations : List Operation
  subject : Value

def Job.alone (job : Job) : Verdict × Executor :=
  ({} : Executor).execute job.kind job.operations job.subject

/-- The results of jobs that one executor works off, and the executor after them. -/
def Executor.workOff (executor : Executor) : List Job → List Verdict × Executor
  | [] => ([], executor)
  | job :: rest =>
      let (verdict, worked) := executor.runOn job.kind job.operations job.subject
      let (verdicts, last) := worked.workOff rest
      (verdict :: verdicts, last)

theorem workOff_alone (executor : Executor) (jobs : List Job) :
    executor.workOff jobs =
      (jobs.map fun job => job.alone.1,
        ⟨executor.context ++ jobs.flatMap fun job => job.alone.2.context⟩) := by
  induction jobs generalizing executor with
  | nil => simp [Executor.workOff]
  | cons job rest ih =>
      have added : executor.runOn job.kind job.operations job.subject =
          (job.alone.1, ⟨executor.context ++ job.alone.2.context⟩) := by
        rw [Executor.runOn_execute, Job.alone, fresh_execute]
        rfl
      rw [Executor.workOff, added]
      simp only [ih, List.map_cons, List.flatMap_cons, List.append_assoc]

/-! ## Slots -/

/-- The move runs the chain of a slot and leaves it there: it asks for the verdict, hands the run to a
handler, or crosses the bridge of a chain of the given kind into another slot. -/
def Move.Reruns (key : String) (kind : Kind) : Move → Prop
  | .call chain target first _ => chain = key ∧ target ≠ key ∧ first.method = kind.bridgeMethod
  | .verdict chain => chain = key
  | .attempt chain _ => chain = key
  | _ => False

namespace Session

section Reruns
variable {session : Session} {move : Move} {key target : String} {slot : Slot}

def rerun (session : Session) (slot : Slot) : Slot :=
  { slot with log := (evaluate slot.chain.kind (session.steps slot) slot.chain.subject).log }

theorem run_slot (session : Session) (key : String) (slot : Slot) :
    findKey? key (session.run key slot).2.slots = some (session.rerun slot) :=
  findKey?_bindKey_self key _ _

theorem bridge_slot (apart : target ≠ key) :
    findKey? key (session.bridge key target slot).session.slots = some (session.rerun slot) ∧
      (session.bridge key target slot).session.operations = session.operations := by
  unfold bridge
  simp only
  split
  · exact ⟨run_slot session key slot, rfl⟩
  · unfold begin
    split
    · exact ⟨run_slot session key slot, rfl⟩
    · refine ⟨?_, rfl⟩
      exact (findKey?_bindKey_other target _ _ apart.symm).trans (run_slot session key slot)

theorem request_bridge {kind : Kind} {first : Call} (closing : Option Call)
    (bridging : first.method = kind.bridgeMethod) : first.request kind closing = .ok .bridge := by
  unfold Call.request
  rw [bridging]
  cases kind <;> rfl

/-- Whatever it comes to, such a move leaves the chain of the slot with the log of one run. -/
theorem rerun_slot (found : findKey? key session.slots = some slot)
    (reruns : move.Reruns key slot.chain.kind) :
    findKey? key (session.after move).slots = some (session.rerun slot) ∧
      (session.after move).operations = session.operations := by
  have looked := slot_iff.mpr found
  cases move with
  | call chain target first closing =>
      obtain ⟨rfl, apart, bridging⟩ := reruns
      simp only [after, make, call, looked, request_bridge closing bridging]
      exact bridge_slot apart
  | verdict chain =>
      cases reruns
      simp only [after, make, verdict, looked]
      exact ⟨run_slot session key slot, rfl⟩
  | attempt chain handler =>
      cases reruns
      simp only [after, make, attempt, looked]
      exact ⟨run_slot session key slot, rfl⟩
  | _ => cases reruns

theorem reruns_keep {moves : List Move} (found : findKey? key session.slots = some slot)
    (reruns : ∀ move ∈ moves, move.Reruns key slot.chain.kind) :
    ∃ log, findKey? key (session.play moves).slots = some { slot with log } ∧
      (session.play moves).operations = session.operations := by
  induction moves generalizing session slot with
  | nil => exact ⟨slot.log, found, rfl⟩
  | cons move rest ih =>
      obtain ⟨first, others⟩ := List.forall_mem_cons.mp reruns
      obtain ⟨kept, stored⟩ := rerun_slot found first
      obtain ⟨log, last, operations⟩ := ih kept others
      exact ⟨log, last, operations.trans stored⟩

/-- The log after such moves is that of the last one by itself. -/
theorem last_log {moves : List Move} {last : Move} {chain : Chain Nat}
    (bound : session.chain? key = some chain)
    (reruns : ∀ move ∈ moves ++ [last], move.Reruns key chain.kind) :
    (session.play (moves ++ [last])).log? key = (session.after last).log? key ∧
      (session.after last).log? key =
        some (Job.mk chain.kind (session.stepsOf key) chain.subject).alone.2.context := by
  obtain ⟨slot, found, rfl⟩ := Option.map_eq_some_iff.mp bound
  obtain ⟨before, lastOnly⟩ := List.forall_mem_append.mp reruns
  have rerunsLast := lastOnly last (List.mem_singleton.mpr rfl)
  obtain ⟨log, kept, operations⟩ := reruns_keep found before
  have steps : (session.play moves).steps slot = session.steps slot := by
    rw [Session.steps, Session.steps, resolve, resolve, operations]
  -- The run sees the chain and its operations, and these are the same as before the other moves.
  have lastRun := (rerun_slot kept rerunsLast).1
  have onlyRun := (rerun_slot found rerunsLast).1
  rw [play_concat, log?, log?, lastRun, onlyRun, stepsOf_bound bound]
  refine ⟨?_, rfl⟩
  simp only [Option.map_some, rerun]
  rw [show (session.play moves).steps { slot with log } = session.steps slot from steps]

end Reruns

end Session

/-- However many jobs an executor works off, each has the result that it has alone, and the log of the
executor is what it was before with the logs that the jobs have alone behind it. The log of a chain is that
of its latest run alone, however many runs came before it and whatever they came to. -/
theorem logs_add_up_or_begin_anew (executor : Executor) (jobs : List Job) {session : Session}
    {key : String} {chain : Chain Nat} {moves : List Move} {last : Move}
    (bound : session.chain? key = some chain)
    (reruns : ∀ move ∈ moves ++ [last], move.Reruns key chain.kind) :
    (∀ kind operations subject,
      executor.runOn kind operations subject = executor.execute kind operations subject) ∧
    executor.workOff jobs =
      (jobs.map fun job => job.alone.1,
        ⟨executor.context ++ jobs.flatMap fun job => job.alone.2.context⟩) ∧
    (session.play (moves ++ [last])).log? key = (session.after last).log? key ∧
    (session.after last).log? key =
      some (Job.mk chain.kind (session.stepsOf key) chain.subject).alone.2.context :=
  ⟨executor.runOn_execute, workOff_alone executor jobs, Session.last_log bound reruns⟩

/-! ### A chain that fails again and again -/

def farPart : Call where
  method := "apply"
  positional := [.text "take_that_at"]
  named := [("separator", .text ","), ("index", .int 9)]

def farPartChain : Session := ({} : Session).play
  [.begin "a" .transformation (.text " ab"), .call "a" "a" { method := "trim" } none,
    .call "a" "a" farPart none]

def failedRuns : List Move := [.attempt "a" none, .call "a" "b" { method := "assert_that" } none]

theorem failed_runs_logged_once :
    (farPartChain.chain? "a" = some ⟨.transformation, .text " ab", [0, 1], false⟩ ∧
      ∀ move ∈ failedRuns ++ [.verdict "a"], move.Reruns "a" .transformation) ∧
    (farPartChain.play (failedRuns ++ [.verdict "a"])).log? "a" =
      (farPartChain.after (.verdict "a")).log? "a" := by
  have bound : farPartChain.chain? "a" = some ⟨.transformation, .text " ab", [0, 1], false⟩ := rfl
  have reruns : ∀ move ∈ failedRuns ++ [.verdict "a"], move.Reruns "a" .transformation := by
    simp [failedRuns, Move.Reruns, Kind.bridgeMethod]
  exact ⟨⟨bound, reruns⟩, (logs_add_up_or_begin_anew {} [] bound reruns).2.2.1⟩

example : ((farPartChain.play (failedRuns ++ [.verdict "a"])).log? "a").map (·.map (·.success)) =
    some [true, false] := by decide +kernel

end TextChain
