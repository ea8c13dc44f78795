import Mathlib.Data.List.Forall2
import TextChain.Proofs.Opposites
import TextChain.Proofs.Segments

/-!
Chains of one step of the forms that are built in, whatever chance makes of them. A chain of one
transformation answers what the form of the step makes of the subject, and a chain of one assertion whether
the test holds. Both raise what the form raises, or the failure to write it. A chain of several
transformations hands the subject on from form to form.
-/

namespace TextChain

/-- What a chain answers that is begun for a subject and gets one step, asked for under a label. -/
def Catalogue.answer (catalogue : Catalogue) (kind : Kind) (label : String) (settings : Settings)
    (subject : Value) : Outcome Value := do
  let begun ← Chain.start kind subject
  let chain ← begun.apply catalogue (.text label) settings
  (chain.attempt none).answer

theorem operation_execute (form : Form) (name : Name) (settings : Settings) (value : Value) :
    (form.operation name settings).execute value = form.work name settings value :=
  Task.made_execute ⟨form, name, settings, false⟩ value

theorem lone_transformation (step : Operation) (subject : Value) (waits : Bool) :
    (Chain.attempt ⟨.transformation, subject, [step], waits⟩ none).answer =
      (step.execute subject).mapError Failure.logged := by
  simp only [Chain.attempt, Chain.run, evaluate, runSteps, transformWith]
  cases step.execute subject with
  | error failure => simp only [broken_eq]; rfl
  | ok answer => rfl

theorem nameable_elsewhere {label : String} (elsewhere : label ≠ "where_value_at") (kind : Kind)
    (settings : Settings) : unnameable kind (.text label) settings = false := by
  simp [unnameable, Name.label, elsewhere]

theorem nameable_bare (kind : Kind) (name : Name) : unnameable kind name [] = false := by
  simp [unnameable, Settings.get?]

section Answers
variable {chance : Edit.Chance} {kind : Kind} {label : String} {settings : Settings}

theorem answer_lone {form : Form} (bound : chance.catalogue.bound? kind (.text label) = some form)
    (nameable : unnameable kind (.text label) settings = false)
    (complete : form.schema.missing settings = []) (subject : Name) :
    chance.catalogue.answer kind label settings subject.toValue =
      (Chain.attempt ⟨kind, subject.toValue,
        [form.operation (reportedName kind (.text label) settings) settings], false⟩ none).answer := by
  have recorded := step_steady bound (Edit.Chance.bound_steady bound)
    (Edit.Chance.bound_nonempty bound) nameable complete
  have text : subject.toValue.isText = true := (isText_iff _).mpr ⟨subject, rfl⟩
  simp only [Catalogue.answer, Chain.start, if_pos text, ok_bind, Chain.apply]
  rw [show Value.text label = (Name.text label).toValue from rfl, recorded]
  rfl

theorem answer_transformation (form : Form)
    (bound : chance.catalogue.bound? .transformation (.text label) = some form)
    (complete : form.schema.missing settings = []) (subject : Name) :
    chance.catalogue.answer .transformation label settings subject.toValue =
      (form.work (.text label) settings subject.toValue).mapError Failure.logged := by
  rw [answer_lone bound rfl complete, lone_transformation, operation_execute]
  rfl

theorem answer_made (form : Form)
    (bound : chance.catalogue.bound? .transformation (.text label) = some form)
    (complete : form.schema.missing settings = []) {subject : Name} {made : Value}
    (worked : form.work (.text label) settings subject.toValue = .ok made) :
    chance.catalogue.answer .transformation label settings subject.toValue = .ok made := by
  rw [answer_transformation form bound complete, worked]
  rfl

theorem answer_nameable (holds : Settings → Value → Outcome Bool) {formLabel summary : String}
    {schema : Schema}
    (bound : chance.catalogue.bound? .assertion (.text label) =
      some (settingCheck formLabel summary schema holds))
    (nameable : unnameable .assertion (.text label) settings = false)
    (complete : schema.missing settings = []) (subject : Name) :
    chance.catalogue.answer .assertion label settings subject.toValue =
      ((holds settings subject.toValue).map .bool).mapError Failure.logged := by
  rw [answer_lone bound nameable complete, lone_test, operation_execute]
  simp only [settingCheck]
  cases holds settings subject.toValue <;> rfl

theorem answer_check (holds : Settings → Value → Outcome Bool) {formLabel summary : String}
    {schema : Schema}
    (bound : chance.catalogue.bound? .assertion (.text label) =
      some (settingCheck formLabel summary schema holds))
    (elsewhere : label ≠ "where_value_at") (complete : schema.missing settings = []) (subject : Name) :
    chance.catalogue.answer .assertion label settings subject.toValue =
      ((holds settings subject.toValue).map .bool).mapError Failure.logged :=
  answer_nameable holds bound (nameable_elsewhere elsewhere _ _) complete subject

theorem answer_plainCheck (need : Value → Outcome (List Char)) (holds : List Char → Bool)
    {formLabel summary : String}
    (bound : chance.catalogue.bound? .assertion (.text label) =
      some (plainCheck formLabel summary need holds)) (subject : Name) :
    chance.catalogue.answer .assertion label [] subject.toValue =
      ((need subject.toValue).map fun text => .bool (holds text)).mapError Failure.logged := by
  rw [answer_lone bound (nameable_bare _ _) rfl, lone_test, operation_execute]
  simp only [plainCheck]
  cases need subject.toValue <;> rfl

theorem subject_name (name : Name) : name.toValue.subject = .ok name.label.toList := by
  rw [Value.subject, Name.toValue_writing?]

theorem answer_textCheck (holds : List Char → Bool) {formLabel summary : String}
    (bound : chance.catalogue.bound? .assertion (.text label) =
      some (textCheck formLabel summary holds)) (subject : Name) :
    chance.catalogue.answer .assertion label [] subject.toValue =
      .ok (.bool (holds subject.label.toList)) := by
  rw [answer_plainCheck Value.subject holds bound, subject_name]
  rfl

end Answers

/-! ## Several transformations -/

/-- What a chain of transformations answers that is begun for a subject and gets the steps that are asked
for, in turn. -/
def Catalogue.chained (catalogue : Catalogue) (requests : List (String × Settings)) (subject : Value) :
    Outcome Value := do
  let begun ← Chain.start .transformation subject
  let chain ← requests.foldlM
    (fun chain request => Chain.apply chain catalogue (.text request.1) request.2) begun
  (chain.attempt none).answer

/-- A transformation that is asked for can be recorded: its name stands for the form, and no setting that
the form requires is missing. -/
structure Edit.Chance.Grants (chance : Edit.Chance) (request : String × Settings) (form : Form) :
    Prop where
  bound : chance.catalogue.bound? .transformation (.text request.1) = some form
  complete : form.schema.missing request.2 = []

section Chained
variable {chance : Edit.Chance} {requests : List (String × Settings)} {forms : List Form}

theorem transformations_answer (steps : List Operation) (subject : Value) (waits : Bool) :
    (Chain.attempt ⟨.transformation, subject, steps, waits⟩ none).answer =
      (steps.foldlM (fun value (step : Operation) => step.execute value) subject).mapError Failure.logged := by
  have run (value : Value) : ((transformWith steps value).verdict.deliver none).answer =
      (steps.foldlM (fun value (step : Operation) => step.execute value) value).mapError Failure.logged := by
    induction steps generalizing value with
    | nil => rfl
    | cons step rest ih =>
        rw [transformWith, List.foldlM_cons]
        cases step.execute value with
        | error failure => simp only [broken_eq]; rfl
        | ok answer => exact ih answer
  exact run subject

def grantedSteps (requests : List (String × Settings)) (forms : List Form) : List Operation :=
  (requests.zip forms).map fun step => step.2.operation (.text step.1.1) step.1.2

theorem granted_apply {request : String × Settings} {form : Form} (granted : chance.Grants request form)
    (subject : Value) (steps : List Operation) :
    Chain.apply ⟨.transformation, subject, steps, false⟩ chance.catalogue (.text request.1) request.2 =
      .ok ⟨.transformation, subject, steps ++ [form.operation (.text request.1) request.2], false⟩ := by
  have recorded := step_steady granted.bound (Edit.Chance.bound_steady granted.bound)
    (Edit.Chance.bound_nonempty granted.bound) rfl granted.complete
  rw [Chain.apply, show Value.text request.1 = (Name.text request.1).toValue from rfl, recorded]
  rfl

theorem granted_recorded (granted : List.Forall₂ chance.Grants requests forms) (subject : Value)
    (steps : List Operation) :
    requests.foldlM (fun chain request => Chain.apply chain chance.catalogue (.text request.1) request.2)
        ⟨.transformation, subject, steps, false⟩ =
      .ok ⟨.transformation, subject, steps ++ grantedSteps requests forms, false⟩ := by
  induction granted generalizing steps with
  | nil => rw [grantedSteps, List.zip_nil_left, List.map_nil, List.append_nil]; rfl
  | cons first later ih =>
      rw [List.foldlM_cons, granted_apply first, ok_bind, ih, List.append_assoc]
      rfl

theorem chained_answer (granted : List.Forall₂ chance.Grants requests forms) (subject : Name) :
    chance.catalogue.chained requests subject.toValue =
      ((requests.zip forms).foldlM
        (fun value (step : (String × Settings) × Form) => step.2.work (.text step.1.1) step.1.2 value)
        subject.toValue).mapError Failure.logged := by
  have text : subject.toValue.isText = true := (isText_iff _).mpr ⟨subject, rfl⟩
  simp only [Catalogue.chained, Chain.start, if_pos text, ok_bind, granted_recorded granted,
    transformations_answer, List.nil_append, grantedSteps, List.foldlM_map, operation_execute]

/-- Of two transformations the second one answers what the first one has made of the subject. -/
theorem chained_pair {first second : String × Settings} {former latter : Form}
    (begun : chance.Grants first former) (ended : chance.Grants second latter) (subject made : Name)
    (answered : chance.catalogue.answer .transformation first.1 first.2 subject.toValue = .ok made.toValue) :
    chance.catalogue.chained [first, second] subject.toValue =
      chance.catalogue.answer .transformation second.1 second.2 made.toValue := by
  rw [answer_transformation former begun.bound begun.complete] at answered
  have made_first : former.work (.text first.1) first.2 subject.toValue = .ok made.toValue := by
    cases outcome : former.work (.text first.1) first.2 subject.toValue with
    | error failure =>
        rw [outcome] at answered
        cases answered
    | ok value =>
        rw [outcome] at answered
        exact answered
  rw [chained_answer (.cons begun (.cons ended .nil)),
    answer_transformation latter ended.bound ended.complete]
  simp only [List.zip_cons_cons, List.zip_nil_left, List.foldlM_cons, List.foldlM_nil, made_first, ok_bind,
    bind_pure]

end Chained

end TextChain
