import TextChain.Proofs.FluentCalls
import TextChain.Proofs.Requirements

/-!
What the schemas of the built-in forms promise. A step is made just if all that its schema requires is
given. Then it does not want for a key on any text, and settings that the schema does not name make no
difference to what it answers or fails with.
-/

namespace TextChain

/-! ## Settings that a schema names -/

def Schema.restrict (schema : Schema) (settings : Settings) : Settings :=
  schema.parameters.filterMap fun parameter =>
    (settings.get? parameter.name).map fun value => (parameter.name, value)

def Schema.Agree (schema : Schema) (first second : Settings) : Prop :=
  ∀ parameter ∈ schema.parameters, first.get? parameter.name = second.get? parameter.name

def Form.ReadsNamed (form : Form) : Prop :=
  ∀ standard? : String → Option Value,
    (∀ name ∈ form.schema.parameters.map (·.name), standard? name = none) → form.Bears standard?

section Restriction
variable {schema : Schema} {first second settings : Settings}

theorem picked_get? (parameters : List Parameter) (settings : Settings) (name : String) :
    Settings.get? (parameters.filterMap fun parameter =>
        (settings.get? parameter.name).map fun value => (parameter.name, value)) name =
      if name ∈ parameters.map (·.name) then settings.get? name else none := by
  induction parameters with
  | nil => rfl
  | cons parameter rest ih =>
      by_cases same : parameter.name = name
      · subst same
        rw [List.map_cons, if_pos List.mem_cons_self]
        cases given : settings.get? parameter.name with
        | some value => simp [given, get?_cons]
        | none =>
            rw [List.filterMap_cons_none (by rw [given]; rfl), ih, given]
            split <;> rfl
      · have listed : name ∈ (parameter :: rest).map (·.name) ↔ name ∈ rest.map (·.name) := by
          rw [List.map_cons, List.mem_cons]
          exact or_iff_right (Ne.symm same)
        simp only [listed, ← ih]
        cases given : settings.get? parameter.name with
        | some value => simp [given, get?_cons, same]
        | none => rw [List.filterMap_cons_none (by rw [given]; rfl)]

theorem restrict_completes (schema : Schema) (settings : Settings) :
    Completes (fun name => if name ∈ schema.parameters.map (·.name) then none else settings.get? name)
      settings (schema.restrict settings) := by
  intro name
  rw [Schema.restrict, picked_get?]
  by_cases named : name ∈ schema.parameters.map (·.name)
  · simp only [if_pos named, Option.or_none]
  · simp only [if_neg named, Option.none_or]

theorem restrict_missing (complete : schema.missing settings = []) :
    schema.missing (schema.restrict settings) = [] := by
  refine missing_iff.mpr fun parameter required => ?_
  rw [Schema.restrict, picked_get?, if_pos]
  · exact missing_iff.mp complete parameter required
  · exact List.mem_map_of_mem (List.mem_append_left _ required)

theorem restrict_same (agree : schema.Agree first second) :
    schema.restrict first = schema.restrict second := by
  refine List.filterMap_congr fun parameter listed => ?_
  rw [agree parameter listed]

theorem told_agreeing {form : Form} (reads : form.ReadsNamed) (agree : form.schema.Agree first second)
    (completeFirst : form.schema.missing first = []) (completeSecond : form.schema.missing second = [])
    (name : Name) (value : Value) :
    told (form.work name first value) = told (form.work name second value) := by
  -- Either settings complete the part that the schema names, and that part is the same for both.
  have common (settings : Settings) (complete : form.schema.missing settings = []) :
      told (form.work name settings value) =
        told (form.work name (form.schema.restrict settings) value) :=
    reads _ (fun name listed => if_pos listed) settings _ (restrict_completes form.schema settings)
      (restrict_missing complete) name value
  calc told (form.work name first value)
      = told (form.work name (form.schema.restrict first) value) := common first completeFirst
    _ = told (form.work name (form.schema.restrict second) value) := by rw [restrict_same agree]
    _ = told (form.work name second value) := (common second completeSecond).symm

end Restriction

/-! ## The forms of the catalogue -/

theorem bare_getD {standard? : String → Option Value} {name : String} (bare : standard? name = none)
    (standard : Value) : (standard? name).getD standard = standard := by
  rw [bare]
  rfl

theorem Edit.Chance.readsNamed (chance : Edit.Chance) (kind : Kind) :
    ∀ entry ∈ chance.catalogue.entries kind, entry.2.ReadsNamed := by
  cases kind with
  | transformation =>
      simp only [Catalogue.entries, Edit.Chance.catalogue, Edit.all, List.forall_mem_cons,
        List.not_mem_nil, false_implies, implies_true, and_true]
      exact ⟨fun _ _ => scriptEdit_bears, fun _ _ => scriptEdit_bears, fun _ _ => plainEdit_bears,
        fun _ _ => plainEdit_bears, fun _ _ => plainEdit_bears, fun _ _ => scriptEdit_bears,
        fun _ bare => Edit.takeThatAt_bears (bare "index" (by decide))
          (bare_getD (bare "separator" (by decide)) _),
        fun _ bare => Edit.joined_bears (bare_getD (bare "separator" (by decide)) _)
          (bare_getD (bare "joiner" (by decide)) _),
        fun _ _ => plainEdit_bears, fun _ _ => plainEdit_bears, fun _ _ => Edit.urlSafe_bears,
        fun _ bare => Edit.characterAt_bears (bare "index" (by decide)),
        fun _ _ => Edit.randomCharacter_bears chance,
        fun _ bare => Edit.sanitized_bears (bare_getD (bare "remove_spaces" (by decide)) _)
          (bare_getD (bare "remove_digits" (by decide)) _)
          (bare_getD (bare "remove_special" (by decide)) _),
        fun _ bare => Edit.anagram_bears (bare "other" (by decide)),
        fun _ bare => Edit.replaced_bears (bare "search" (by decide)) (bare "replacement" (by decide)),
        fun _ bare =>
          Edit.replacedAll_bears (bare "search" (by decide)) (bare "replacement" (by decide)),
        fun _ bare => Edit.removedFirst_bears (bare "pattern" (by decide)),
        fun _ bare => Edit.removedAll_bears (bare "pattern" (by decide)),
        fun _ bare => Edit.add_bears (bare_getD (bare "prefix" (by decide)) _)
          (bare_getD (bare "suffix" (by decide)) _),
        fun _ bare => Edit.padded_bears (bare "length" (by decide))
          (bare_getD (bare "char" (by decide)) _) (bare_getD (bare "where" (by decide)) _),
        fun _ _ => Edit.randomized_bears chance,
        fun _ bare => Edit.chunked_bears (bare "size" (by decide))
          (bare_getD (bare "separator" (by decide)) _),
        fun _ bare => Edit.brokenToLines_bears (bare "characters_per_line" (by decide)),
        fun _ bare => Edit.extracted_bears (bare "pattern" (by decide)),
        fun _ bare => Edit.extractedInRange_bears (bare "start" (by decide))
          (bare_getD (bare "end" (by decide)) _),
        fun _ bare =>
          Edit.extractedWhenBetween_bears (bare "prefix" (by decide)) (bare "suffix" (by decide)),
        fun _ _ => plainEdit_bears, fun _ _ => plainEdit_bears, fun _ _ => plainEdit_bears,
        fun _ bare => Edit.custom_bears (bare "function" (by decide))⟩
  | assertion =>
      simp only [Catalogue.entries, Edit.Chance.catalogue, Check.all, List.forall_mem_cons,
        List.not_mem_nil, false_implies, implies_true, and_true]
      exact ⟨fun _ bare => Check.has_bears (bare "substring" (by decide)),
        fun _ bare => Check.doesNotHave_bears (bare "substring" (by decide)),
        fun _ bare => Check.startsWith_bears (bare "prefix" (by decide)),
        fun _ bare => Check.endsWith_bears (bare "suffix" (by decide)),
        fun _ bare => Check.isExactly_bears (bare "expected" (by decide)),
        fun _ _ => textCheck_bears, fun _ _ => textCheck_bears, fun _ _ => textCheck_bears,
        fun _ _ => textCheck_bears, fun _ _ => textCheck_bears, fun _ _ => textCheck_bears,
        fun _ _ => textCheck_bears, fun _ _ => plainCheck_bears, fun _ _ => textCheck_bears,
        fun _ _ => textCheck_bears, fun _ _ => textCheck_bears, fun _ _ => textCheck_bears,
        fun _ _ => Check.isPhone_bears, fun _ _ => plainCheck_bears,
        fun _ bare => Check.passesRegex_bears (bare "pattern" (by decide)),
        fun _ bare => Check.failsRegex_bears (bare "pattern" (by decide)),
        fun _ bare => Check.anyOf_bears (bare "values" (by decide)),
        fun _ bare => Check.lengthIs_bears (bare_getD (bare "length" (by decide)) _)
          (bare_getD (bare "min_length" (by decide)) _) (bare_getD (bare "max_length" (by decide)) _),
        fun _ bare => Check.isBetween_bears (bare "prefix" (by decide)) (bare "suffix" (by decide)),
        fun _ _ => textCheck_bears, fun _ bare => Check.anagram_bears (bare "other" (by decide)),
        fun _ _ => textCheck_bears, fun _ _ => Check.hasUniqueCharacters_bears,
        fun _ bare => Check.valueAt_bears (bare "index" (by decide)) (bare "expected" (by decide)),
        fun _ bare => Check.wordCount_bears (bare "count" (by decide)), fun _ _ => textCheck_bears,
        fun _ _ => textCheck_bears, fun _ bare => Check.custom_bears (bare "function" (by decide))⟩

theorem Edit.Chance.listed_bound {chance : Edit.Chance} {kind : Kind} {label : String} {form : Form}
    (listed : (label, form) ∈ chance.catalogue.entries kind) :
    chance.catalogue.bound? kind (.text label) = some form := by
  rw [Catalogue.bound?]
  exact congrArg (Option.map (·.2)) (find?_distinct (chance.distinct kind) listed)

/-! ## Steps that are made -/

def Edit.Chance.step (chance : Edit.Chance) (kind : Kind) (label : String) (settings : Settings)
    (stepName : Option Name) : Outcome Operation :=
  chance.catalogue.get (.text label) (.text kind.label) settings stepName

theorem missing_message {label : String} (names : List String) (schema provided : Value)
    (nonempty : label ≠ "") :
    (Failure.configuration (.missing names) (.text label) schema provided).message =
      "[" ++ label ++ "] " ++
        ("Missing required parameter(s): " ++ commaSeparated (names.map quotedText)) := by
  have truthful : (Value.text label).truthy = true := by simpa [Value.truthy] using nonempty
  unfold Failure.message
  rw [if_pos truthful]
  rfl

section Steps
variable {chance : Edit.Chance} {kind : Kind} {label : String} {form : Form} {operation : Operation}
  {settings : Settings} {stepName : Option Name}

theorem step_cases (listed : (label, form) ∈ chance.catalogue.entries kind) (settings : Settings)
    (stepName : Option Name) :
    chance.step kind label settings stepName =
      if form.schema.missing settings = [] then
        .ok (form.operation (Catalogue.stepNameOr (.text label) stepName) settings)
      else .error (.configuration (.missing (form.schema.missing settings)) (.text label)
        form.schema.toValue (.dict settings)) := by
  have bound := Edit.Chance.listed_bound listed
  have nonempty : Catalogue.stepNameOr (.text label) stepName ≠ .text "" :=
    stepNameOr_nonempty (Edit.Chance.bound_nonempty bound) stepName
  have given := get_named chance.catalogue kind (.text label) settings stepName
  rw [bound] at given
  exact given.trans ((Edit.Chance.bound_steady bound).prepare nonempty)

theorem step_made (listed : (label, form) ∈ chance.catalogue.entries kind)
    (made : chance.step kind label settings stepName = .ok operation) :
    form.schema.missing settings = [] ∧
      operation = form.operation (Catalogue.stepNameOr (.text label) stepName) settings := by
  rw [step_cases listed] at made
  split at made
  next complete => exact ⟨complete, (Except.ok.inj made).symm⟩
  next => cases made

theorem execute_misses {value : Value}
    (works : MissesNoKey (operation.form.work operation.name operation.settings value)) :
    MissesNoKey (operation.execute value) := by
  refine .bind works fun answer _ => ?_
  split
  · split <;> exact .answered _
  · exact .answered _

end Steps

/-- What the schemas say and what the steps do agree, for every form of the catalogue. A step is made just
if everything that is required is given, and what is missing is told in the order of the schema. The step
does not fail for want of a key. Settings that agree in all that the schema names make it do the same,
whatever else they hold. -/
theorem schemas_and_steps_agree (chance : Edit.Chance) {kind : Kind} {label : String} {form : Form}
    (listed : (label, form) ∈ chance.catalogue.entries kind) (settings : Settings)
    (stepName : Option Name) :
    ((∃ operation, chance.step kind label settings stepName = .ok operation) ↔
        ∀ parameter ∈ form.schema.required, settings.has parameter.name = true) ∧
      (∀ failure, chance.step kind label settings stepName = .error failure →
        failure = .configuration (.missing (form.schema.missing settings)) (.text label)
            form.schema.toValue (.dict settings) ∧
          failure.message = "[" ++ label ++ "] " ++ ("Missing required parameter(s): " ++
            commaSeparated ((form.schema.missing settings).map quotedText))) ∧
      ∀ operation, chance.step kind label settings stepName = .ok operation →
        (settings.Quiet → ∀ subject : Name, MissesNoKey (operation.execute subject.toValue)) ∧
          ∀ other accepted, chance.step kind label other stepName = .ok accepted →
            form.schema.Agree settings other →
            ∀ value, told (operation.execute value) = told (accepted.execute value) := by
  have complete : form.schema.missing settings = [] ↔
      ∀ parameter ∈ form.schema.required, settings.has parameter.name = true := by
    simp only [missing_iff, has_iff]
  refine ⟨?_, ?_, ?_⟩
  · rw [← complete]
    constructor
    · rintro ⟨operation, made⟩
      exact (step_made listed made).1
    · intro nothing
      exact ⟨_, (step_cases listed settings stepName).trans (if_pos nothing)⟩
  · intro failure refused
    rw [step_cases listed] at refused
    split at refused
    next => cases refused
    next =>
      cases refused
      exact ⟨rfl, missing_message _ _ _ (chance.named kind _ listed)⟩
  · intro operation made
    -- A step that was made has all that is required, so it reads nothing that is not there.
    obtain ⟨completeFirst, rfl⟩ := step_made listed made
    constructor
    · intro quiet subject
      exact execute_misses
        (chance.suffices kind _ listed settings completeFirst quiet _ subject)
    · intro other accepted madeOther agree value
      obtain ⟨completeSecond, rfl⟩ := step_made listed madeOther
      exact told_execute rfl rfl (told_agreeing (chance.readsNamed kind _ listed) agree
        completeFirst completeSecond _ value)

def fiveWide : Settings := [("length", .int 5)]

def redFiveWide : Settings := [("length", .int 5), ("colour", .text "red")]

/-- A colour makes no difference to padding. -/
theorem padding_ignores_colours :
    ("pad", Edit.padded) ∈ Edit.Chance.standing.catalogue.entries .transformation ∧
      ∃ red plain,
        Edit.Chance.standing.step .transformation "pad" redFiveWide none = .ok red ∧
          Edit.Chance.standing.step .transformation "pad" fiveWide none = .ok plain ∧
          MissesNoKey (red.execute (.text "abc")) ∧
          told (red.execute (.text "abc")) = told (plain.execute (.text "abc")) := by
  have listed : ("pad", Edit.padded) ∈ Edit.Chance.standing.catalogue.entries .transformation :=
    List.mem_of_getElem? (i := 20) rfl
  have quiet : redFiveWide.Quiet := by
    intro name value given _
    obtain ⟨entry, found, rfl⟩ := Option.map_eq_some_iff.mp given
    rcases List.mem_pair.mp (List.mem_of_find?_eq_some found) with rfl | rfl
    · exact nofun
    · exact nofun
  have agree : Edit.padded.schema.Agree redFiveWide fiveWide := by
    simp only [Schema.Agree, Schema.parameters, Edit.padded, Edit.padSchema, List.cons_append,
      List.nil_append, List.forall_mem_cons, List.not_mem_nil, false_implies, implies_true, and_true]
    exact ⟨rfl, rfl, rfl⟩
  obtain ⟨constructs, _, works⟩ := schemas_and_steps_agree .standing listed redFiveWide none
  obtain ⟨red, madeRed⟩ := constructs.mpr (by decide)
  obtain ⟨plain, madePlain⟩ := (schemas_and_steps_agree .standing listed fiveWide none).1.mpr (by decide)
  obtain ⟨sound, same⟩ := works red madeRed
  exact ⟨listed, red, plain, madeRed, madePlain, sound quiet (.text "abc"),
    same fiveWide plain madePlain agree (.text "abc")⟩

end TextChain
