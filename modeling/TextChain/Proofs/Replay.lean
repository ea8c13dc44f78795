import TextChain.Validation
import TextChain.Proofs.Runs

/-!
What replaying a step can come to. A step suits one kind of chain or the other; where it suits, only a
bridge can fail, and where it does not, replaying fails before anything is run. A bridge fails in a way of
its own if it would have to tell a value that cannot be written.
-/

namespace TextChain

/-! ## Failures of bridges -/

/-- A bridge fails if the chain before it does not hold, or if what it takes over is no text. -/
def Failure.atBridge : Failure → Bool
  | .bridge _ _ _ _ => true
  | .subjectType _ => true
  | _ => false

def Strays {α : Type} (outcome : Outcome α) : Prop :=
  ∃ failure, outcome = .error failure ∧ failure.atBridge = false

theorem ok_stays {α : Type} (value : α) : ¬ Strays (.ok value : Outcome α) := by
  rintro ⟨failure, same, _⟩
  cases same

theorem error_strays_iff {α : Type} (failure : Failure) :
    Strays (.error failure : Outcome α) ↔ failure.atBridge = false := by
  constructor
  · rintro ⟨_, same, plain⟩
    cases same
    exact plain
  · exact fun plain => ⟨failure, rfl, plain⟩

theorem bind_strays_iff {α β : Type} {outcome : Outcome α} {next : α → Outcome β} :
    Strays (outcome >>= next) ↔
      Strays outcome ∨ ∃ value, outcome = .ok value ∧ Strays (next value) := by
  cases outcome with
  | error failure => simp [error_strays_iff]
  | ok value => simp [ok_stays]

/-! ## Steps and kinds of chains -/

namespace Step

/-- The kind of chain behind a step. -/
def leadsTo (step : Step) (kind : Kind) : Kind :=
  match Control.ofValue? step.operation with
  | some control => control.leadsTo kind
  | none => kind

/-- A control entry suits the kind at which it is at home. Any other step suits a kind if its name is
bound there, the step can be named and made, and nothing that it then requires is missing. -/
def Suits (catalogue : Catalogue) (kind : Kind) (step : Step) : Prop :=
  match Control.ofValue? step.operation with
  | some control => control.home = kind
  | none => ∃ name form schema, step.operation = Name.toValue name ∧
      catalogue.bound? kind name = some form ∧ unnameable kind name step.settings = false ∧
      form.schemaFor (reportedName kind name step.settings) step.settings = .ok schema ∧
      schema.missing step.settings = []

/-- The step leaves the chain for one of the other kind. -/
def Crosses (step : Step) : Prop :=
  ∃ control, Control.ofValue? step.operation = some control ∧ control.request = .bridge

def Named (step : Step) : Prop :=
  ∃ name : Name, step.operation = name.toValue ∧ name ≠ .text ""

theorem named_of_text {step : Step} (text : step.operation.isText = true)
    (truthful : step.operation.truthy = true) : step.Named := by
  obtain ⟨name, called⟩ := (isText_iff step.operation).mp text
  rw [called] at truthful
  exact ⟨name, called, Name.ne_empty_of_truthy truthful⟩

end Step

def InTurn (fact : Kind → Step → Prop) : Kind → List Step → Prop
  | _, [] => True
  | kind, step :: rest => fact kind step ∧ InTurn fact (step.leadsTo kind) rest

theorem InTurn.imp {fact other : Kind → Step → Prop} {kind : Kind} {steps : List Step}
    (inTurn : InTurn fact kind steps) (wider : ∀ step ∈ steps, ∀ kind, fact kind step → other kind step) :
    InTurn other kind steps := by
  induction steps generalizing kind with
  | nil => trivial
  | cons step rest ih =>
      obtain ⟨here, later⟩ := List.forall_mem_cons.mp wider
      exact ⟨here kind inTurn.1, ih inTurn.2 later⟩

def Control.misuse (control : Control) : Failure :=
  .configuration control.misplaced (.text control.label) .nothing .nothing

/-! ## Bridges -/

/-- The chain fails at a step that was given a value that cannot be written, so no bridge can tell of it. -/
def Chain.Mute (chain : Chain Operation) : Prop :=
  ∃ name soFar failure, chain.run.verdict = .errored name soFar failure ∧ soFar.overlong = true

section Bridge
variable {chain : Chain Operation}

theorem crossed_errored (last : Name) {name : Name} {soFar : Value} {failure : Failure}
    (errs : chain.run.verdict = .errored name soFar failure) :
    ∃ reason, chain.crossed last chain.run.verdict =
      if soFar.overlong then .error (.operand .unwritableInteger)
      else .error (.bridge reason name.toValue soFar (some failure)) := by
  have written : failure.writable = .ok () := errored_writable errs
  have barred (reason : BridgeReason) : Chain.barred reason name soFar failure =
      if soFar.overlong then .error (.operand .unwritableInteger)
      else .error (.bridge reason name.toValue soFar (some failure)) := by
    rw [Chain.barred, written, Value.writable]
    cases soFar.overlong <;> rfl
  rw [errs]
  unfold Chain.crossed
  cases chain.kind with
  | transformation => exact ⟨_, barred _⟩
  | assertion => exact ⟨_, barred _⟩

theorem mute_bridge (mute : chain.Mute) : chain.bridge = .error (.operand .unwritableInteger) := by
  obtain ⟨name, soFar, failure, errs, overlong⟩ := mute
  obtain ⟨reason, crossed⟩ := crossed_errored (lastName chain.steps) errs
  rw [Chain.bridge, crossed, overlong]
  rfl

/-- A bridge leads to a chain of the other kind, or it fails as bridges do, or it cannot tell of the value
at which the chain failed. -/
theorem bridge_outcome (chain : Chain Operation) :
    (∃ next, chain.bridge = .ok next ∧ next.kind = chain.kind.other) ∨
      (∃ failure, chain.bridge = .error failure ∧ failure.atBridge = true) ∨ chain.Mute := by
  unfold Chain.bridge
  cases crossed : chain.crossed (lastName chain.steps) chain.run.verdict with
  | ok subject =>
      rw [ok_bind, Chain.start]
      split
      · exact .inl ⟨_, rfl, rfl⟩
      · exact .inr (.inl ⟨_, rfl, rfl⟩)
  | error failure =>
      refine .inr ?_
      -- What was crossed failed, so the run failed or raised.
      cases verdict : chain.run.verdict with
      | errored name soFar raised =>
          obtain ⟨reason, told⟩ := crossed_errored (lastName chain.steps) verdict
          rw [crossed] at told
          split at told
          next overlong => exact .inr ⟨name, soFar, raised, verdict, overlong⟩
          next =>
            cases told
            exact .inl ⟨_, rfl, rfl⟩
      | passed answer =>
          rw [verdict, Chain.crossed.eq_def] at crossed
          cases kind : chain.kind <;> simp only [kind] at crossed <;> cases crossed
      | failed name subject =>
          rw [verdict, Chain.crossed.eq_def] at crossed
          cases kind : chain.kind <;> simp only [kind] at crossed <;> cases crossed
          exact .inl ⟨_, rfl, rfl⟩

end Bridge

/-! ## One step -/

theorem toValue_inj {first second : Name} (same : first.toValue = second.toValue) : first = second := by
  simpa using congrArg Value.name? same

/-- A form of which steps can be made under any name that is not empty, with any settings. -/
def Form.Constructible (form : Form) : Prop :=
  ∀ name settings, name ≠ .text "" → ∃ schema, form.schemaFor name settings = .ok schema

def Catalogue.Constructible (catalogue : Catalogue) : Prop :=
  ∀ kind, ∀ entry ∈ catalogue.entries kind, entry.2.Constructible

theorem Form.Steady.constructible {form : Form} (steady : form.Steady) : form.Constructible :=
  fun _ _ nonempty => ⟨form.schema, steady.schemaFor nonempty⟩

theorem Edit.Chance.constructible (chance : Edit.Chance) : chance.catalogue.Constructible :=
  fun kind entry listed => (chance.steady kind entry listed).constructible

section Step
variable {catalogue : Catalogue} {chain next : Chain Operation} {step : Step}

theorem replay_plain (plain : Control.ofValue? step.operation = none) :
    chain.replayStep catalogue step = chain.apply catalogue step.operation step.settings := by
  simp only [Chain.replayStep, Step.request, plain, ok_bind, Chain.perform]

theorem replay_control {control : Control}
    (mark : Control.ofValue? step.operation = some control) :
    chain.replayStep catalogue step =
      if control.home = chain.kind then chain.perform catalogue control.request
      else .error control.misuse := by
  simp only [Chain.replayStep, Step.request, mark]
  split <;> rfl

theorem suited_control {control : Control} (mark : Control.ofValue? step.operation = some control)
    (home : control.home = chain.kind) :
    (∃ next, chain.replayStep catalogue step = .ok next ∧ next.kind = step.leadsTo chain.kind) ∨
      (∃ failure, chain.replayStep catalogue step = .error failure ∧ failure.atBridge = true) ∨
      step.Crosses ∧ chain.Mute := by
  have bridged := bridge_outcome chain
  rw [replay_control mark, if_pos home, Step.leadsTo, mark]
  rw [← home] at bridged
  cases control with
  | negate => exact .inl ⟨chain.isNot, rfl, rfl⟩
  | toAssertion => exact bridged.imp_right (.imp_right fun mute => ⟨⟨_, mark, rfl⟩, mute⟩)
  | toTransformation => exact bridged.imp_right (.imp_right fun mute => ⟨⟨_, mark, rfl⟩, mute⟩)

/-- A step that suits the chain is recorded, or it is a bridge; then it can fail as bridges do, or for
want of words. -/
theorem suited_step (suits : step.Suits catalogue chain.kind) :
    (∃ next, chain.replayStep catalogue step = .ok next ∧ next.kind = step.leadsTo chain.kind) ∨
      (∃ failure, chain.replayStep catalogue step = .error failure ∧ failure.atBridge = true) ∨
      step.Crosses ∧ chain.Mute := by
  unfold Step.Suits at suits
  cases mark : Control.ofValue? step.operation with
  | some control =>
      rw [mark] at suits
      exact suited_control mark suits
  | none =>
      rw [mark] at suits
      obtain ⟨name, form, schema, called, bound, nameable, told, complete⟩ := suits
      have made : catalogue.step chain.kind name.toValue step.settings =
          .ok (form.operation (reportedName chain.kind name step.settings) step.settings) := by
        rw [step_named, nameable, bound]
        exact Form.prepare_ok_iff.mpr ⟨rfl, schema, told, complete⟩
      rw [replay_plain mark, Chain.apply, called, made, Step.leadsTo, mark]
      exact .inl ⟨_, rfl, rfl⟩

theorem mute_step (suits : step.Suits catalogue chain.kind) (crosses : step.Crosses) (mute : chain.Mute) :
    chain.replayStep catalogue step = .error (.operand .unwritableInteger) := by
  obtain ⟨control, mark, bridges⟩ := crosses
  unfold Step.Suits at suits
  rw [mark] at suits
  rw [replay_control mark, if_pos suits, bridges]
  exact mute_bridge mute

/-- The step would tell a setting in its name, and the setting cannot be written. -/
def Step.Unnameable (kind : Kind) (step : Step) : Prop :=
  Control.ofValue? step.operation = none ∧
    ∃ name : Name, step.operation = name.toValue ∧ unnameable kind name step.settings = true

/-- A step that is replayed suits the chain, and leads to the kind of the chain behind it. -/
theorem replayed_suits (stepped : chain.replayStep catalogue step = .ok next) (named : step.Named) :
    step.Suits catalogue chain.kind ∧ next.kind = step.leadsTo chain.kind := by
  have suits : step.Suits catalogue chain.kind := by
    unfold Step.Suits
    cases mark : Control.ofValue? step.operation with
    | some control =>
        rw [replay_control mark] at stepped
        split at stepped
        next home => exact home
        next => cases stepped
    | none =>
        -- A step that is recorded was named, found and made, so none of that can have failed.
        obtain ⟨name, called, _⟩ := named
        rw [replay_plain mark, Chain.apply, called, step_named] at stepped
        cases nameable : unnameable chain.kind name step.settings with
        | true =>
            rw [nameable] at stepped
            cases stepped
        | false =>
            rw [nameable] at stepped
            cases bound : catalogue.bound? chain.kind name with
            | none =>
                rw [bound] at stepped
                cases stepped
            | some form =>
                rw [bound] at stepped
                simp only [Bool.false_eq_true, ↓reduceIte] at stepped
                cases prepared : form.prepare name (reportedName chain.kind name step.settings)
                    step.settings with
                | error failure =>
                    rw [prepared] at stepped
                    cases stepped
                | ok operation =>
                    obtain ⟨_, schema, told, complete⟩ := Form.prepare_ok_iff.mp prepared
                    exact ⟨name, form, schema, called, bound, nameable, told, complete⟩
  refine ⟨suits, ?_⟩
  rcases suited_step suits with ⟨reached, same, kind⟩ | ⟨failure, failed, _⟩ | ⟨crosses, mute⟩
  · rw [stepped] at same
    cases same
    exact kind
  · rw [stepped] at failed
    cases failed
  · rw [mute_step suits crosses mute] at stepped
    cases stepped

/-- What keeps a step from being replayed: it does not suit the chain, or it is a bridge that would have to
tell a value that cannot be written. -/
def Step.Misfit (catalogue : Catalogue) (chain : Chain Operation) (step : Step) : Prop :=
  ¬ step.Suits catalogue chain.kind ∨ step.Crosses ∧ chain.Mute

theorem fitting_step_stays (fits : ¬ step.Misfit catalogue chain) :
    ¬ Strays (chain.replayStep catalogue step) := by
  obtain ⟨suits, audible⟩ := not_or.mp fits
  rcases suited_step (Classical.not_not.mp suits) with ⟨next, stepped, _⟩ | ⟨failure, failed, atBridge⟩ | mute
  · rw [stepped]
    exact ok_stays next
  · rw [failed, error_strays_iff, atBridge]
    decide
  · exact absurd mute audible

/-- A step that does not suit the chain fails, and not as bridges do, as long as it can be made. -/
theorem unsuited_step (constructible : catalogue.Constructible)
    (unsuited : ¬ step.Suits catalogue chain.kind) (named : step.Named) :
    Strays (chain.replayStep catalogue step) := by
  unfold Step.Suits at unsuited
  cases mark : Control.ofValue? step.operation with
  | some control =>
      rw [mark] at unsuited
      rw [replay_control mark, if_neg unsuited]
      exact ⟨_, rfl, rfl⟩
  | none =>
      rw [mark] at unsuited
      obtain ⟨name, called, nonempty⟩ := named
      rw [replay_plain mark, Chain.apply, called, step_named]
      cases nameable : unnameable chain.kind name step.settings with
      | true => exact ⟨_, rfl, rfl⟩
      | false =>
          cases bound : catalogue.bound? chain.kind name with
          | none => exact ⟨_, rfl, rfl⟩
          | some form =>
              obtain ⟨schema, told⟩ := constructible chain.kind _ (Catalogue.bound?_mem bound)
                (reportedName chain.kind name step.settings) step.settings
                (reportedName_nonempty nonempty)
              have lacking : schema.missing step.settings ≠ [] := fun complete =>
                unsuited ⟨name, form, schema, called, bound, nameable, told, complete⟩
              simp only [Form.prepare_eq, told, ok_bind, if_neg lacking]
              exact ⟨_, rfl, rfl⟩

theorem misfit_strays (constructible : catalogue.Constructible) (misfit : step.Misfit catalogue chain)
    (named : step.Named) : Strays (chain.replayStep catalogue step) := by
  by_cases suits : step.Suits catalogue chain.kind
  · obtain ⟨crosses, mute⟩ := misfit.resolve_left fun unsuited => unsuited suits
    rw [mute_step suits crosses mute]
    exact ⟨_, rfl, rfl⟩
  · exact unsuited_step constructible suits named

end Step

/-! ## Runs of steps -/

def ReachesMisfit (catalogue : Catalogue) (chain : Chain Operation) (steps : List Step) : Prop :=
  ∃ front step back reached, steps = front ++ step :: back ∧
    Chain.replay catalogue chain front = .ok reached ∧ step.Misfit catalogue reached

section Run
variable {catalogue : Catalogue}

theorem no_misfit_in_nothing (chain : Chain Operation) : ¬ ReachesMisfit catalogue chain [] := by
  rintro ⟨front, step, back, _, cut, _⟩
  simp at cut

theorem reaches_misfit_cons {chain : Chain Operation} {step : Step} {rest : List Step} :
    ReachesMisfit catalogue chain (step :: rest) ↔
      step.Misfit catalogue chain ∨
        ∃ next, chain.replayStep catalogue step = .ok next ∧ ReachesMisfit catalogue next rest := by
  constructor
  · rintro ⟨front, misfit, back, reached, cut, replayed, unfit⟩
    cases front with
    | nil =>
        cases cut
        cases replayed
        exact Or.inl unfit
    | cons first others =>
        cases cut
        obtain ⟨next, stepped, later⟩ := bind_eq_ok.mp replayed
        exact Or.inr ⟨next, stepped, others, misfit, back, reached, rfl, later, unfit⟩
  · rintro (unfit | ⟨next, stepped, front, misfit, back, reached, rfl, later, unfit⟩)
    · exact ⟨[], step, rest, chain, rfl, rfl, unfit⟩
    · exact ⟨step :: front, misfit, back, reached, rfl, bind_eq_ok.mpr ⟨next, stepped, later⟩,
        unfit⟩

theorem replay_strays_iff (constructible : catalogue.Constructible) {steps : List Step}
    (named : ∀ step ∈ steps, step.Named) (chain : Chain Operation) :
    Strays (Chain.replay catalogue chain steps) ↔ ReachesMisfit catalogue chain steps := by
  induction steps generalizing chain with
  | nil => exact iff_of_false (ok_stays chain) (no_misfit_in_nothing chain)
  | cons step rest ih =>
      have nameOf := named step List.mem_cons_self
      have later := ih fun next member => named next (List.mem_cons_of_mem step member)
      simp only [Chain.replay, bind_strays_iff, reaches_misfit_cons, later]
      -- After a step that fits only the steps behind it can stray; one that does not fit strays itself.
      by_cases misfit : step.Misfit catalogue chain
      · simp only [misfit_strays constructible misfit nameOf, misfit, true_or]
      · simp only [fitting_step_stays misfit, misfit, false_or]

theorem InTurn.reached {fact : Kind → Step → Prop} {chain reached : Chain Operation} {front back : List Step}
    {step : Step} (inTurn : InTurn fact chain.kind (front ++ step :: back))
    (named : ∀ earlier ∈ front, earlier.Named)
    (replayed : Chain.replay catalogue chain front = .ok reached) : fact reached.kind step := by
  induction front generalizing chain with
  | nil =>
      cases replayed
      exact inTurn.1
  | cons first rest ih =>
      obtain ⟨namedFirst, namedRest⟩ := List.forall_mem_cons.mp named
      obtain ⟨next, stepped, replayed⟩ := bind_eq_ok.mp replayed
      have later := inTurn.2
      rw [← (replayed_suits stepped namedFirst).2] at later
      exact ih later namedRest replayed

end Run

theorem build_started {mode subject : Value} {kind : Kind} (catalogue : Catalogue)
    (definition : Value) (label : String) (started : kindOfMode mode = .ok kind)
    (isText : subject.isText = true) :
    Chain.build catalogue subject definition mode label =
      (readDefinition definition label >>= Chain.replay catalogue { kind, subject }) := by
  simp only [Chain.build, started, ok_bind, Chain.start, isText, ↓reduceIte]

end TextChain
