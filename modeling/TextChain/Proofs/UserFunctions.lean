import TextChain.Proofs.LoneSteps
import TextChain.Proofs.DigitTexts

/-!
Functions of users at work. A step that calls one answers what it answers as long as that is of the right
type. Otherwise the step raises an error of its own, which names the failure of the function as its cause.
The error has to be worded first, and an integer of too many digits cannot be written into its message.
-/

namespace TextChain

/-! ## Reports -/

/-- A failure tells under the name of a step how the call of a function broke its contract. It has a cause
just if the function raised, and the details hold the text of the cause just if there is one. -/
structure Failure.Reports (failure : Failure) (step : Name) (outcome : Outcome Value) : Prop where
  custom : failure.failureClass = .kind .custom
  cause : ∀ source, failure.cause? = some source ↔ outcome = .error source
  details : ∃ entries, failure.details? = some (.dict entries) ∧
    Settings.get? entries "operation" = some step.toValue ∧
    Settings.get? entries "original_error" = failure.cause?.map fun source => .text source.message

/-- How a step contains the function that it calls. `kept` is the answer of the step if the function keeps
its contract, and `message` says whether the message of the error can be written otherwise. -/
structure Contained (step : Name) (outcome : Outcome Value) (kept : Option Value) (message : Outcome Unit)
    (result : Outcome Value) : Prop where
  answered : ∀ answer, kept = some answer → result = .ok answer
  reported : kept = none → message = .ok () →
    ∃ failure, result = .error failure ∧ failure.Reports step outcome
  escaped : kept = none → message ≠ .ok () → result = .error (.operand .unwritableInteger)

section Reports
variable {step : Name} {reason : CustomReason}

theorem raised_reports (source : Failure) (raised : reason = .transformRaised ∨ reason = .checkRaised) :
    (Failure.custom reason step.toValue (some source)).Reports step (.error source) := by
  rcases raised with rfl | rfl <;>
    exact ⟨rfl, fun other => by simp [Failure.cause?], _, rfl, rfl, rfl⟩

theorem answer_reports (answer : Value)
    (answered : reason = .transformAnswer answer ∨ reason = .checkAnswer) :
    (Failure.custom reason step.toValue none).Reports step (.ok answer) := by
  rcases answered with rfl | rfl <;>
    exact ⟨rfl, fun other => by simp [Failure.cause?], _, rfl, rfl, rfl⟩

theorem contained_report {outcome : Outcome Value} {message : Outcome Unit} {failure : Failure}
    (worded : message = .ok () ∨ message = .error (.operand .unwritableInteger))
    (reports : failure.Reports step outcome) :
    Contained step outcome none message (message >>= fun _ => .error failure) := by
  refine ⟨?answered, ?reported, ?escaped⟩
  case answered => simp
  case reported =>
    rintro - rfl
    exact ⟨failure, rfl, reports⟩
  case escaped =>
    -- What goes wrong while the message is written is raised in the place of the error.
    intro _ unwritable
    rw [worded.resolve_left unwritable]
    rfl

theorem contained_answer {outcome : Outcome Value} (answer : Value) (message : Outcome Unit) :
    Contained step outcome (some answer) message (.ok answer) :=
  ⟨by simp, by simp, by simp⟩

/-- Whatever becomes of the answers, what is reported and what escapes stays as it is. -/
theorem Contained.map {outcome result : Outcome Value} {kept : Option Value} {message : Outcome Unit}
    (contained : Contained step outcome kept message result) (f : Value → Value) :
    Contained step outcome (kept.map f) message (result.map f) := by
  refine ⟨?answered, ?reported, ?escaped⟩
  case answered =>
    intro answer mapped
    obtain ⟨given, held, rfl⟩ := Option.map_eq_some_iff.mp mapped
    rw [contained.answered given held]
    rfl
  case reported =>
    intro broken written
    obtain ⟨failure, failed, reports⟩ := contained.reported (Option.map_eq_none_iff.mp broken) written
    exact ⟨failure, by rw [failed]; rfl, reports⟩
  case escaped =>
    intro broken unwritable
    rw [contained.escaped (Option.map_eq_none_iff.mp broken) unwritable]
    rfl

end Reports

/-! ## The two steps -/

def Edit.keptAnswer : Outcome Value → Option Value
  | .ok answer => if answer.isText then some answer else none
  | .error _ => none

def Edit.customMessage : Outcome Value → Outcome Unit
  | .ok answer => answer.writable
  | .error source => source.writable

def Check.keptAnswer (negated : Bool) : Outcome Value → Option Value
  | .ok (.bool holds) => some (.bool (holds != negated))
  | _ => none

def Check.customMessage : Outcome Value → Outcome Unit
  | .ok _ => .ok ()
  | .error source => source.writable

theorem Edit.customResult_contained (step : Name) (outcome : Outcome Value) :
    Contained step outcome (keptAnswer outcome) (customMessage outcome) (customResult step outcome) := by
  cases outcome with
  | error source => exact contained_report source.writable_cases (raised_reports source (.inl rfl))
  | ok answer =>
      simp only [keptAnswer, customMessage, customResult]
      split
      · exact contained_answer answer _
      · exact contained_report answer.writable_cases (answer_reports answer (.inl rfl))

theorem Check.customResult_contained (step : Name) (outcome : Outcome Value) :
    Contained step outcome (keptAnswer false outcome) (customMessage outcome)
      (customResult step outcome) := by
  cases outcome with
  | error source => exact contained_report source.writable_cases (raised_reports source (.inr rfl))
  | ok answer =>
      -- Every answer but a truth value is refused in the same words, which do not show it.
      cases answer with
      | bool holds =>
          have unturned : keptAnswer false (.ok (.bool holds)) = some (.bool holds) :=
            congrArg (some ∘ Value.bool) (Bool.bne_false holds)
          rw [unturned]
          exact contained_answer _ _
      | _ => exact contained_report (.inl rfl) (answer_reports _ (.inr rfl))

theorem Check.keptAnswer_turned (negated : Bool) (outcome : Outcome Value) :
    (keptAnswer false outcome).map (fun answer => .bool (answer.truthy != negated)) =
      keptAnswer negated outcome := by
  unfold keptAnswer
  split <;> simp [Value.truthy]

theorem worded_logged {message : Outcome Unit} {failure : Failure}
    (worded : message = .ok () ∨ message = .error (.operand .unwritableInteger))
    (written : failure.writable = .ok ()) :
    (message >>= fun _ => (.error failure : Outcome Value)).mapError Failure.logged =
      message >>= fun _ => .error failure := by
  rcases worded with rfl | rfl
  · exact congrArg Except.error (logged_written written)
  · rfl

theorem Edit.customResult_logged (step : Name) (outcome : Outcome Value) :
    (customResult step outcome).mapError Failure.logged = customResult step outcome := by
  cases outcome with
  | error source => exact worded_logged source.writable_cases rfl
  | ok answer =>
      simp only [customResult]
      split
      · rfl
      · exact worded_logged answer.writable_cases rfl

theorem Check.customResult_logged (step : Name) (outcome : Outcome Value) :
    (customResult step outcome).mapError Failure.logged = customResult step outcome := by
  cases outcome with
  | error source => exact worded_logged source.writable_cases rfl
  | ok answer => cases answer <;> rfl

/-! ## Chains that call a function -/

section Chains
variable {chance : Edit.Chance} {kind : Kind} {label : String} {settings : Settings} {form : Form}

theorem lone_recorded (bound : chance.catalogue.bound? kind (.text label) = some form)
    (nameable : unnameable kind (.text label) settings = false)
    (complete : form.schema.missing settings = []) (subject : Name) (negated : Bool) :
    (do let begun ← Chain.start kind subject.toValue
        (if negated then begun.isNot else begun).apply chance.catalogue (.text label) settings) =
      .ok (chainOf kind subject.toValue
        [⟨form, reportedName kind (.text label) settings, settings, negated⟩] false) := by
  have recorded := step_steady bound (Edit.Chance.bound_steady bound)
    (Edit.Chance.bound_nonempty bound) nameable complete
  have text : subject.toValue.isText = true := (isText_iff _).mpr ⟨subject, rfl⟩
  have ofKind : (if negated then Chain.isNot ⟨kind, subject.toValue, ([] : List Operation), false⟩
      else ⟨kind, subject.toValue, [], false⟩).kind = kind := by
    cases negated <;> rfl
  simp only [Chain.start, if_pos text, ok_bind]
  rw [Chain.apply, ofKind, show Value.text label = (Name.text label).toValue from rfl, recorded]
  cases negated <;> rfl

theorem lone_change {task : Task} (unnegated : task.negated = false) (subject : Value) (waits : Bool) :
    ((chainOf .transformation subject [task] waits).attempt none).answer =
      (task.work subject).mapError Failure.logged := by
  rw [chainOf, List.map_singleton, lone_transformation, Task.operation, unnegated, ← task.made_execute]
  rfl

theorem lone_turned {task : Task} (family : task.form.family = .assertion) (subject : Value)
    (waits : Bool) :
    ((chainOf .assertion subject [task] waits).attempt none).answer =
      ((task.work subject).mapError Failure.logged).map
        fun answer => .bool (answer.truthy != task.negated) := by
  rw [chainOf, List.map_singleton, lone_test, Task.operation_execute family]
  cases task.work subject with
  | error failure => rfl
  | ok answer =>
      cases task.negated with
      | false => exact congrArg (Except.ok ∘ Value.bool) (Bool.bne_false _).symm
      | true => exact congrArg (Except.ok ∘ Value.bool) (Bool.bne_true _).symm

theorem lone_errored {step : Operation} {value soFar : Value} {name : Name} {source : Failure}
    (errs : (runSteps kind [step] value).verdict = .errored name soFar source) : soFar = value := by
  cases kind <;> simp only [runSteps, transformWith, assertWith] at errs
  all_goals cases outcome : step.execute value with
    | error failure =>
        simp only [outcome, broken_eq, Verdict.errored.injEq] at errs
        exact errs.2.1.symm
    | ok answer =>
        simp only [outcome] at errs
        first | cases errs | (split at errs <;> cases errs)

/-- A chain of one task that raises cannot be left, and the failure of the bridge names what was raised as
its cause. -/
theorem bridge_raises (task : Task) (subject : Name) {failure : Failure}
    (raised : ((chainOf kind subject.toValue [task] false).attempt none).answer = .error failure) :
    ∃ failed, (chainOf kind subject.toValue [task] false).bridge = .error failed ∧
      failed.failureClass = .kind .bridge ∧ failed.cause? = some failure := by
  unfold Chain.attempt at raised
  cases verdict : (chainOf kind subject.toValue [task] false).run.verdict with
  | passed answer => simp [verdict, Verdict.deliver] at raised
  | failed step soFar => simp [verdict, Verdict.deliver] at raised
  | errored step soFar source =>
      rw [verdict] at raised
      obtain rfl : source = failure := Except.error.inj raised
      obtain rfl : soFar = subject.toValue := lone_errored verdict
      have written : source.writable = .ok () := errored_writable verdict
      rw [Chain.bridge, verdict]
      unfold Chain.crossed
      cases kind <;>
        simp only [chainOf, Chain.barred, written, Name.toValue_writable, ok_bind] <;>
        exact ⟨_, rfl, rfl, rfl⟩

end Chains

/-! ## Containment -/

/-- Whatever is handed in as a function, for every subject and with a negation or without one: both steps can
be recorded, and each contains the function. A transformation answers the text that the function answers and a
check its truth value, turned over by a negation. Any other answer, and whatever is raised, becomes an error of
the step, unless its message would show an integer of too many digits. What a chain raises is the cause of the
failure that its bridge raises. A step calls its function once, so functions that are constant and functions
that raise already show every way in which a call can end. -/
theorem functions_are_contained (chance : Edit.Chance) (function : Value) (subject : Name)
    (negated : Bool) :
    let outcome := function.call subject.toValue
    ∃ edit test : Chain Operation,
      (do let begun ← Chain.start .transformation subject.toValue
          begun.apply chance.catalogue (.text "custom_transform") [("function", function)]) = .ok edit ∧
      (do let begun ← Chain.start .assertion subject.toValue
          (if negated then begun.isNot else begun).apply chance.catalogue (.text "custom_check")
            [("function", function)]) = .ok test ∧
      Contained (.text "custom_transform") outcome (Edit.keptAnswer outcome) (Edit.customMessage outcome)
        (edit.attempt none).answer ∧
      Contained (.text "custom_check") outcome (Check.keptAnswer negated outcome)
        (Check.customMessage outcome) (test.attempt none).answer ∧
      ∀ chain ∈ [edit, test], ∀ failure, (chain.attempt none).answer = .error failure →
        ∃ failed, chain.bridge = .error failed ∧ failed.failureClass = .kind .bridge ∧
          failed.cause? = some failure := by
  intro outcome
  have edits : chance.catalogue.bound? .transformation (.text "custom_transform") = some Edit.custom := rfl
  have checks : chance.catalogue.bound? .assertion (.text "custom_check") = some Check.custom := rfl
  refine ⟨_, _, lone_recorded edits rfl rfl subject false, lone_recorded checks rfl rfl subject negated,
    ?edited, ?tested, ?left⟩
  case edited =>
    rw [lone_change rfl]
    change Contained _ _ _ _ ((Edit.customResult (.text "custom_transform") outcome).mapError Failure.logged)
    -- What the step fails with can be written, so the run leaves it as it is.
    rw [Edit.customResult_logged]
    exact Edit.customResult_contained (.text "custom_transform") outcome
  case tested =>
    rw [lone_turned rfl, ← Check.keptAnswer_turned negated outcome]
    change Contained _ _ _ _
      (((Check.customResult (.text "custom_check") outcome).mapError Failure.logged).map _)
    rw [Check.customResult_logged]
    exact (Check.customResult_contained (.text "custom_check") outcome).map _
  case left =>
    intro chain either failure raised
    rcases List.mem_pair.mp either with rfl | rfl
    · exact bridge_raises _ subject raised
    · exact bridge_raises _ subject raised

def longInteger : Value := .int (10 ^ digitLimit : Nat)

theorem longInteger_overlong : longInteger.overlong = true :=
  (Value.overlong_int _).mpr (Nat.le_of_eq (Int.natAbs_natCast _).symm)

theorem longInteger_unwritable : longInteger.writable ≠ .ok () := by
  rw [ne_eq, Value.writable_iff, longInteger_overlong]
  decide

/-- A long integer escapes from both steps as an error of another class: from the transformation that is
answered with it, and from the check whose function raises an error about it. -/
theorem long_integers_escape :
    (∃ edit : Chain Operation,
      (do let begun ← Chain.start .transformation (.text "abc")
          begun.apply .builtIn (.text "custom_transform")
            [("function", .routine (.constant longInteger) [])]) = .ok edit ∧
      (edit.attempt none).answer = .error (.operand .unwritableInteger)) ∧
    (∃ test : Chain Operation,
      (do let begun ← Chain.start .assertion (.text "abc")
          begun.isNot.apply .builtIn (.text "custom_check")
            [("function", .routine (.raises .value (some [longInteger])) [])]) = .ok test ∧
      (test.attempt none).answer = .error (.operand .unwritableInteger)) ∧
    OperandFault.unwritableInteger.failureClass = .kind .value := by
  refine ⟨?answered, ?raised, rfl⟩
  case answered =>
    obtain ⟨edit, _, recorded, _, contained, _⟩ :=
      functions_are_contained .standing (.routine (.constant longInteger) []) (.text "abc") false
    exact ⟨edit, recorded, contained.escaped rfl longInteger_unwritable⟩
  case raised =>
    obtain ⟨_, test, _, recorded, _, contained, _⟩ :=
      functions_are_contained .standing (.routine (.raises .value (some [longInteger])) []) (.text "abc") true
    have unwritable : (Value.list [longInteger]).writable ≠ .ok () := by
      rw [ne_eq, Value.writable_iff, Value.overlong, Value.overlong.overlongItem, longInteger_overlong]
      decide
    exact ⟨test, recorded, contained.escaped rfl unwritable⟩

end TextChain
