import TextChain.Proofs.Runs

/-!
Tests that turn over. A chain that was asked for a negation marks its next step, but it is the step that
has to heed the mark. Steps of the family of assertions do; a form of another family that was registered
for assertions makes steps that answer alike with the mark and without it. A step that cannot be recorded
is refused alike by both chains.
-/

namespace TextChain

/-! ## Registered forms -/

section Registration
variable {earlier later : Catalogue} {label : String} {form : Form} {type : Value} {kind : Kind}

theorem bindForm_finds (label : String) (form : Form) (entries : List (String × Form)) :
    ((bindForm label form entries).find? fun entry => entry.1 == label) = some (label, form) := by
  induction entries with
  | nil => simp [bindForm]
  | cons entry rest ih =>
      by_cases same : (entry.1 == label) = true
      · simp [bindForm, same]
      · simp [bindForm, same, ih]

theorem registered_bound (registered : earlier.register label form type = .ok later)
    (placed : Catalogue.kindFor form type = .ok kind) {name : Name} (named : name.label = label) :
    later.bound? kind name = some form := by
  rw [Catalogue.register, placed, ok_bind, Catalogue.registered, placed] at registered
  obtain ⟨_, _, bound⟩ := bind_eq_ok.mp registered
  cases bound
  cases kind <;>
    simp only [Catalogue.bound?, Catalogue.bind, Catalogue.entries, named, bindForm_finds, Option.map_some]

theorem inferred_family (placed : Catalogue.kindFor form .nothing = .ok .assertion) :
    form.family = .assertion := by
  unfold Catalogue.kindFor Catalogue.inferKind at placed
  cases isClass : form.isClass with
  | false => simp [isClass, refuse] at placed
  | true => cases family : form.family <;> simp [isClass, family] at placed ⊢

end Registration

/-! ## One test -/

theorem negate_execute (form : Form) (name : Name) (settings : Settings) (subject : Value) :
    (form.operation name settings).negate.execute subject =
      ((form.operation name settings).execute subject).map fun answer =>
        if form.family = .assertion then .bool (!answer.truthy) else answer := by
  cases family : form.family <;> cases outcome : form.work name settings subject <;>
    simp [Form.operation, Operation.negate, Operation.execute, Operation.isNegated, family, outcome,
      Except.map]

theorem lone_test (step : Operation) (subject : Value) (waits : Bool) :
    (Chain.attempt ⟨.assertion, subject, [step], waits⟩ none).answer =
      ((step.execute subject).map fun answer => .bool answer.truthy).mapError Failure.logged := by
  simp only [Chain.attempt, Chain.run, evaluate, runSteps, assertWith]
  cases step.execute subject with
  | error failure =>
      simp only [broken_eq]
      rfl
  | ok answer =>
      by_cases holds : answer.truthy = true
      · simp only [if_pos holds]
        exact congrArg (Except.ok ∘ Value.bool) holds.symm
      · simp only [if_neg holds]
        exact congrArg (Except.ok ∘ Value.bool) (Bool.eq_false_iff.mpr holds).symm

/-! ## A test and its negation -/

theorem chance_assertions (chance : Edit.Chance) {entry : String × Form}
    (listed : entry ∈ chance.catalogue.assertions) : entry.2.family = .assertion := by
  have every : ∀ entry ∈ Check.all, entry.2.family = .assertion := by decide
  exact every entry listed

theorem step_given {catalogue : Catalogue} {name : Name} {settings : Settings} {prepared : Operation}
    (accepted :
      catalogue.get name.toValue (.text Kind.assertion.label) settings none = .ok prepared) :
    catalogue.step .assertion name.toValue settings =
      if unnameable .assertion name settings then .error (.operand .unwritableInteger)
      else prepared.form.prepare name (reportedName .assertion name settings) settings := by
  rw [step_named, (get_bound accepted).1]

/-- Whatever is prepared for the catalogue of assertions is recorded as it is and negated, or it is refused
alike by both chains, on account of the name under which it is reported. Where the step raises, both chains
raise the same. Where it answers, the chain that was asked for a negation gives the opposite answer just if
the form is of the family of assertions, and otherwise the same one. All assertions that are built in are of
that family, and so is every form that was registered without a kind that is named. -/
theorem negation_reaches_the_family (catalogue : Catalogue) (name : Name) (settings : Settings)
    (subject : Value) (text : subject.isText = true) {prepared : Operation}
    (accepted :
      catalogue.get name.toValue (.text Kind.assertion.label) settings none = .ok prepared) :
    (∃ start : Chain Operation, Chain.start .assertion subject = .ok start ∧
      ((∃ refusal,
        (unnameable .assertion name settings = true ∧ refusal = .operand .unwritableInteger ∨
          unnameable .assertion name settings = false ∧
            prepared.form.prepare name (reportedName .assertion name settings) settings =
              .error refusal) ∧
        start.apply catalogue name.toValue settings = .error refusal ∧
        start.isNot.apply catalogue name.toValue settings = .error refusal) ∨
      ∃ (plain negated : Chain Operation) (step : Operation),
        start.apply catalogue name.toValue settings = .ok plain ∧ plain.steps = [step] ∧
        start.isNot.apply catalogue name.toValue settings = .ok negated ∧
        negated.steps = [step.negate] ∧
        step = prepared.form.operation (reportedName .assertion name settings) settings ∧
        (∀ failure, step.execute subject = .error failure →
          (plain.attempt none).answer = .error failure.logged ∧
            (negated.attempt none).answer = .error failure.logged) ∧
        ∀ answer, step.execute subject = .ok answer →
          (plain.attempt none).answer = .ok (.bool answer.truthy) ∧
            (negated.attempt none).answer = .ok (.bool
              (if prepared.form.family = .assertion then !answer.truthy else answer.truthy)))) ∧
    (∀ chance : Edit.Chance, catalogue = chance.catalogue → prepared.form.family = .assertion) ∧
    ∀ earlier form type, Catalogue.register earlier name.label form type = .ok catalogue →
      Catalogue.kindFor form type = .ok .assertion →
      prepared.form = form ∧ (type = .nothing → prepared.form.family = .assertion) := by
  obtain ⟨bound, _⟩ := get_bound accepted
  have given := step_given accepted
  refine ⟨⟨⟨.assertion, subject, [], false⟩, by rw [Chain.start, if_pos text], ?opposite⟩, ?builtIn,
    ?registered⟩
  case opposite =>
    -- Both chains ask the catalogue for the same step, so it is refused or recorded by both.
    cases recorded : catalogue.step .assertion name.toValue settings with
    | error refusal =>
        refine Or.inl ⟨refusal, ?why, ?plain, ?marked⟩
        case why =>
          rw [recorded] at given
          cases nameable : unnameable .assertion name settings with
          | true =>
              rw [nameable] at given
              exact Or.inl ⟨rfl, Except.error.inj given⟩
          | false =>
              rw [nameable] at given
              exact Or.inr ⟨rfl, given.symm⟩
        case plain => rw [Chain.apply, recorded]; rfl
        case marked => rw [Chain.apply, Chain.isNot, recorded]; rfl
    | ok step =>
        have made : step = prepared.form.operation (reportedName .assertion name settings) settings := by
          rw [recorded] at given
          split at given
          · cases given
          · exact (Form.prepare_ok_iff.mp given.symm).1
        refine Or.inr ⟨⟨.assertion, subject, [step], false⟩, ⟨.assertion, subject, [step.negate], false⟩,
          step, ?recorded, rfl, ?marked, rfl, made, ?raises, ?answers⟩
        case recorded => rw [Chain.apply, recorded]; rfl
        case marked => rw [Chain.apply, Chain.isNot, recorded]; rfl
        case raises =>
          intro failure raised
          rw [made] at raised ⊢
          rw [lone_test, lone_test, negate_execute, raised]
          exact ⟨rfl, rfl⟩
        case answers =>
          intro answer answered
          rw [made] at answered ⊢
          rw [lone_test, lone_test, negate_execute, answered]
          refine ⟨rfl, ?_⟩
          by_cases family : prepared.form.family = .assertion
          · simp only [family, if_pos]
            rfl
          · simp only [family, if_neg, not_false_eq_true]
            rfl
  case builtIn =>
    rintro chance rfl
    exact chance_assertions chance (Catalogue.bound?_mem bound)
  case registered =>
    intro earlier form type registered placed
    have same : prepared.form = form :=
      Option.some.inj (bound.symm.trans (registered_bound registered placed rfl))
    refine ⟨same, ?_⟩
    rintro rfl
    rw [same]
    exact inferred_family placed

def withUntyped : Catalogue := Catalogue.builtIn.bind .assertion "untyped" Extra.untyped

theorem untyped_stays :
    Catalogue.builtIn.register "untyped" Extra.untyped (.text "assertion") = .ok withUntyped ∧
      ∃ start plain negated : Chain Operation,
        Chain.start .assertion (.text "abc") = .ok start ∧
        start.apply withUntyped (.text "untyped") [] = .ok plain ∧
        start.isNot.apply withUntyped (.text "untyped") [] = .ok negated ∧
        (plain.attempt none).answer = .ok (.bool true) ∧
        (negated.attempt none).answer = .ok (.bool true) := by
  have accepted : withUntyped.get (Name.text "untyped").toValue (.text Kind.assertion.label) [] none =
      .ok (Extra.untyped.operation (.text "untyped") []) := rfl
  obtain ⟨⟨start, started, ⟨refusal, ⟨impossible, _⟩ | ⟨_, refused⟩, _⟩ |
      ⟨plain, negated, step, recorded, _, marked, _, rfl, _, answers⟩⟩, _⟩ :=
    negation_reaches_the_family withUntyped (.text "untyped") [] (.text "abc") rfl accepted
  · cases impossible
  · cases refused
  · obtain ⟨answer, unmoved⟩ := answers (.text "abc?") rfl
    exact ⟨rfl, start, plain, negated, started, recorded, marked, answer, unmoved⟩

end TextChain
