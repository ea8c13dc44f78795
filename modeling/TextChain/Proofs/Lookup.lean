import TextChain.Chain

/-!
Taking steps from the catalogue. A name that is a text is either bound, and then the step is made unless
a required setting is missing, or it is unknown; there is no third way to fail.
-/

namespace TextChain

/-! ## Outcomes -/

section Outcome
variable {α β : Type} {outcome : Outcome α} {next : α → Outcome β}

@[simp] theorem ok_bind (value : α) (next : α → Outcome β) :
    ((.ok value : Outcome α) >>= next) = next value := rfl

@[simp] theorem error_bind (failure : Failure) (next : α → Outcome β) :
    ((.error failure : Outcome α) >>= next) = .error failure := rfl

theorem bind_eq_ok {result : β} :
    (outcome >>= next) = .ok result ↔ ∃ value, outcome = .ok value ∧ next value = .ok result := by
  cases outcome <;> simp

theorem bind_eq_error {failure : Failure} :
    (outcome >>= next) = .error failure ↔
      outcome = .error failure ∨ ∃ value, outcome = .ok value ∧ next value = .error failure := by
  cases outcome <;> simp

end Outcome

/-! ## Entries by name -/

theorem find?_distinct {α : Type} {label : α → String} {items : List α}
    (distinct : (items.map label).Nodup) {item : α} (listed : item ∈ items) :
    items.find? (fun other => label other == label item) = some item := by
  induction items with
  | nil => cases listed
  | cons first rest ih =>
      rw [List.map_cons, List.nodup_cons] at distinct
      rcases List.mem_cons.mp listed with rfl | later
      · simp
      · have other : label first ≠ label item := fun same =>
          distinct.1 (List.mem_map.mpr ⟨item, later, same.symm⟩)
        rw [List.find?_cons_of_neg (by simpa using other)]
        exact ih distinct.2 later

theorem get?_cons (entry : String × Value) (rest : Settings) (name : String) :
    Settings.get? (entry :: rest) name =
      if entry.1 == name then some entry.2 else Settings.get? rest name := by
  rw [Settings.get?, List.find?_cons]
  split <;> simp_all [Settings.get?]

theorem get?_append (first second : Settings) (name : String) :
    Settings.get? (first ++ second) name = (first.get? name).or (second.get? name) := by
  rw [Settings.get?, List.find?_append, Option.map_or]
  rfl

/-! ## Names -/

namespace Name

@[simp] theorem toValue_name? (name : Name) : name.toValue.name? = some name := by
  cases name <;> rfl

@[simp] theorem toValue_chars? (name : Name) : name.toValue.chars? = some name.label.toList := by
  cases name <;> rfl

@[simp] theorem toValue_writing? (name : Name) :
    name.toValue.writing? = some ⟨.text, name.label.toList⟩ := by
  cases name <;> rfl

@[simp] theorem toValue_method (name : Name) (method : String) :
    name.toValue.method method = .ok ⟨.text, name.label.toList⟩ := by
  cases name <;> rfl

@[simp] theorem toValue_hashable (name : Name) : name.toValue.hashable = .ok () := by
  cases name <;> rfl

@[simp] theorem toValue_writable (name : Name) : name.toValue.writable = .ok () := by
  cases name <;> rfl

@[simp] theorem toValue_length (name : Name) : name.toValue.length = .ok name.label.toList.length := by
  cases name <;> rfl

@[simp] theorem toValue_letters (name : Name) : name.toValue.letters = .ok name.label.toList := by
  cases name with
  | text s => rfl
  | preset p => cases p <;> rfl

theorem ne_empty_of_truthy {name : Name} (truthful : name.toValue.truthy = true) :
    name ≠ .text "" := by
  rintro rfl
  simp [toValue, Value.truthy] at truthful

end Name

theorem isText_iff (value : Value) : value.isText = true ↔ ∃ name : Name, value = name.toValue := by
  constructor
  · intro text
    cases value with
    | text s => exact ⟨.text s, rfl⟩
    | preset p => exact ⟨.preset p, rfl⟩
    | _ => simp [Value.isText, Value.chars?] at text
  · rintro ⟨name, rfl⟩
    simp [Value.isText]

theorem text_same (known : String) (value : Value) :
    (Value.text known).same value = (value.chars? == some known.toList) := by
  simp [Value.same]

theorem text_same_name (known : String) (name : Name) :
    (Value.text known).same name.toValue = (known == name.label) := by
  rw [text_same, Name.toValue_chars?]
  apply Bool.eq_iff_iff.mpr
  simp only [beq_iff_eq, Option.some.injEq, String.toList_inj]
  exact eq_comm

/-! ## Writing into messages -/

theorem Value.writable_iff (value : Value) : value.writable = .ok () ↔ value.overlong = false := by
  unfold Value.writable
  cases value.overlong <;> simp [refuse]

theorem Value.writable_cases (value : Value) :
    value.writable = .ok () ∨ value.writable = .error (.operand .unwritableInteger) := by
  unfold Value.writable
  split
  · exact .inr rfl
  · exact .inl rfl

theorem Failure.writable_cases (failure : Failure) :
    failure.writable = .ok () ∨ failure.writable = .error (.operand .unwritableInteger) := by
  fun_induction Failure.writable failure with
  | case1 _ details => exact Value.writable_cases _
  | case2 details => exact Value.writable_cases _
  | case3 message => exact Value.writable_cases message
  | case4 message => exact Value.writable_cases message
  | case5 message => exact Value.writable_cases message
  | case6 message => exact Value.writable_cases message
  | case7 failure _ ih => exact ih
  | case8 => exact .inl rfl

/-! ## Unknown names -/

theorem names_have_small_letters (names : List Name) :
    (names.map Name.toValue).forM (fun item => (item.method "lower").map fun _ => ()) =
      (.ok () : Outcome Unit) := by
  induction names with
  | nil => rfl
  | cons name rest ih =>
      cases name <;> exact ih

theorem values_are_names (names : List Name) :
    (names.map Name.toValue).mapM Value.name? = some names := by
  induction names with
  | nil => rfl
  | cons name rest ih => simp [ih, Name.toValue_name?]

theorem raise_unknown (name : Value) (valid : List Name) :
    raiseUnknown name (.list (valid.map Name.toValue)) =
      (name.method "lower").map fun _ => .unknownOperation name valid := by
  unfold raiseUnknown
  cases name.method "lower" with
  | error failure => rfl
  | ok writing =>
      simp only [Value.items, ok_bind, names_have_small_letters, values_are_names]
      rfl

theorem raise_unknown_name (name : Name) (valid : List Name) :
    raiseUnknown name.toValue (.list (valid.map Name.toValue)) =
      .ok (.unknownOperation name.toValue valid) := by
  rw [raise_unknown, Name.toValue_method]
  rfl

theorem text_values (labels : List String) :
    labels.map Value.text = (labels.map Name.text).map Name.toValue := by
  rw [List.map_map]
  rfl

/-! ## Steps of the catalogue -/

namespace Catalogue

def bound? (catalogue : Catalogue) (kind : Kind) (name : Name) : Option Form :=
  ((catalogue.entries kind).find? fun entry => entry.1 == name.label).map (·.2)

def unknown (catalogue : Catalogue) (kind : Kind) (name : Name) : Failure :=
  .unknownOperation name.toValue ((catalogue.names kind).map .text)

theorem find_name (catalogue : Catalogue) (kind : Kind) (name : Name) :
    catalogue.find kind name.toValue =
      match catalogue.bound? kind name with
      | some form => .ok (name, form)
      | none => .error (catalogue.unknown kind name) := by
  simp only [find, Name.toValue_hashable, ok_bind, Name.toValue_name?, text_same_name, bound?,
    text_values, raise_unknown_name, unknown]
  cases (catalogue.entries kind).find? fun entry => entry.1 == name.label <;> rfl

theorem bound?_mem {catalogue : Catalogue} {kind : Kind} {name : Name} {form : Form}
    (found : catalogue.bound? kind name = some form) :
    (name.label, form) ∈ catalogue.entries kind := by
  obtain ⟨entry, hit, rfl⟩ := Option.map_eq_some_iff.mp found
  have same : entry.1 = name.label := by simpa using List.find?_some hit
  rw [← same]
  exact List.mem_of_find?_eq_some hit

end Catalogue

/-! ## Names of steps -/

def unnameable (kind : Kind) (name : Name) (settings : Settings) : Bool :=
  kind == .assertion && name.label == "where_value_at" && (settings.get? "index").any Value.overlong

/-- The name under which a step is reported. -/
def reportedName (kind : Kind) (name : Name) (settings : Settings) : Name :=
  match stepName? kind name.toValue settings with
  | .ok given => given.getD name
  | .error _ => name

section Reported
variable {kind : Kind} {name : Name} {settings : Settings}

theorem same_text (name : Name) (known : String) :
    name.toValue.same (.text known) = (name.label == known) := by
  have swapped := text_same_name name.label (.text known)
  cases name with
  | text s => exact swapped
  | preset p => simpa [Name.toValue, Value.same, Name.label, Value.chars?] using swapped

/-- A step has a name, unless it would have to tell a setting that cannot be written. A name that it is
given is not empty. -/
theorem stepName_cases (kind : Kind) (name : Name) (settings : Settings) :
    (unnameable kind name settings = true ∧
      stepName? kind name.toValue settings = .error (.operand .unwritableInteger)) ∨
    (unnameable kind name settings = false ∧
      ∃ given, stepName? kind name.toValue settings = .ok given ∧ given ≠ some (.text "")) := by
  cases kind with
  | transformation => exact .inr ⟨rfl, none, rfl, nofun⟩
  | assertion =>
      simp only [unnameable, stepName?, same_text, beq_self_eq_true, Bool.true_and]
      cases place : name.label == "where_value_at" with
      | false =>
          refine .inr ⟨rfl, ?_⟩
          cases name.label == "word_count" with
          | false => exact ⟨none, rfl, nofun⟩
          | true => exact ⟨some (.text "word_count.is"), rfl, by decide⟩
      | true =>
          cases settings.get? "index" with
          | none => exact .inr ⟨rfl, none, rfl, nofun⟩
          | some index =>
              simp only [Option.any_some, Bool.true_and, ↓reduceIte, Value.writable]
              cases index.overlong with
              | true => exact .inl ⟨rfl, rfl⟩
              | false => exact .inr ⟨rfl, _, rfl, by simp [String.append_eq_empty_iff]⟩

theorem stepName_error (unnamed : unnameable kind name settings = true) :
    stepName? kind name.toValue settings = .error (.operand .unwritableInteger) := by
  rcases stepName_cases kind name settings with ⟨_, failed⟩ | ⟨named, _⟩
  · exact failed
  · rw [named] at unnamed
    cases unnamed

theorem stepName_reported (named : unnameable kind name settings = false) :
    ∃ given, stepName? kind name.toValue settings = .ok given ∧
      Catalogue.stepNameOr name given = reportedName kind name settings := by
  rcases stepName_cases kind name settings with ⟨unnamed, _⟩ | ⟨_, given, found, nonempty⟩
  · rw [unnamed] at named
    cases named
  · refine ⟨given, found, ?_⟩
    rw [reportedName, found]
    cases given with
    | none => rfl
    | some given => exact if_neg fun empty => nonempty (congrArg some empty)

theorem stepNameOr_nonempty (nonempty : name ≠ .text "") (stepName : Option Name) :
    Catalogue.stepNameOr name stepName ≠ .text "" := by
  unfold Catalogue.stepNameOr
  split
  next => exact nonempty
  next =>
    split
    next => exact nonempty
    next given => exact given

theorem reportedName_nonempty (nonempty : name ≠ .text "") :
    reportedName kind name settings ≠ .text "" := by
  rcases stepName_cases kind name settings with ⟨_, failed⟩ | ⟨named, _⟩
  · rwa [reportedName, failed]
  · obtain ⟨given, _, reported⟩ := stepName_reported named
    rw [← reported]
    exact stepNameOr_nonempty nonempty given

end Reported

/-! ## Forms -/

/-- Steps of the form can be made with any settings, and all of them tell one schema. -/
structure Form.Steady (form : Form) : Prop where
  makes : ∀ name settings, name ≠ .text "" → form.make name settings = .ok (form.operation name settings)
  tells : ∀ name settings, form.tellSchema name settings = .ok form.schema

section Forms
variable {form : Form} {entry name : Name} {settings : Settings}

theorem Form.steady_of_plain (isClass : form.isClass = true) (constructs : form.construct = requireName)
    (tells : ∀ name settings, form.tellSchema name settings = .ok form.schema) : form.Steady := by
  refine ⟨fun name settings nonempty => ?_, tells⟩
  simp only [make, isClass, constructs, requireName, if_neg nonempty, ↓reduceIte]
  rfl

theorem Form.prepare_eq (form : Form) (entry name : Name) (settings : Settings) :
    form.prepare entry name settings = form.schemaFor name settings >>= fun schema =>
      if schema.missing settings = [] then .ok (form.operation name settings)
      else .error (.configuration (.missing (schema.missing settings)) entry.toValue schema.toValue
        (.dict settings)) := by
  unfold prepare
  cases form.schemaFor name settings with
  | error failure => rfl
  | ok schema =>
      simp only [ok_bind]
      cases schema.missing settings with
      | nil => rfl
      | cons first rest => exact (if_neg (List.cons_ne_nil first rest)).symm

theorem Form.prepare_ok_iff {operation : Operation} :
    form.prepare entry name settings = .ok operation ↔ operation = form.operation name settings ∧
      ∃ schema, form.schemaFor name settings = .ok schema ∧ schema.missing settings = [] := by
  rw [Form.prepare_eq, bind_eq_ok]
  constructor
  · rintro ⟨schema, told, prepared⟩
    split at prepared
    next complete => exact ⟨(Except.ok.inj prepared).symm, schema, told, complete⟩
    next => cases prepared
  · rintro ⟨rfl, schema, told, complete⟩
    exact ⟨schema, told, if_pos complete⟩

theorem Form.Steady.schemaFor (steady : form.Steady) (nonempty : name ≠ .text "") :
    form.schemaFor name settings = .ok form.schema := by
  rw [Form.schemaFor, steady.makes name settings nonempty, ok_bind, steady.tells]

theorem Form.Steady.prepare (steady : form.Steady) (nonempty : name ≠ .text "") :
    form.prepare entry name settings =
      if form.schema.missing settings = [] then .ok (form.operation name settings)
      else .error (.configuration (.missing (form.schema.missing settings)) entry.toValue
        form.schema.toValue (.dict settings)) := by
  rw [Form.prepare_eq, steady.schemaFor nonempty, ok_bind]

theorem Form.Steady.prepare_complete (steady : form.Steady) (nonempty : name ≠ .text "")
    (complete : form.schema.missing settings = []) :
    form.prepare entry name settings = .ok (form.operation name settings) := by
  rw [steady.prepare nonempty, if_pos complete]

end Forms

/-! ### Forms that are built in -/

def Catalogue.Steady (catalogue : Catalogue) : Prop :=
  ∀ kind, ∀ entry ∈ catalogue.entries kind, entry.2.Steady

namespace Edit.Chance
variable (chance : Edit.Chance) (kind : Kind)

theorem steady : chance.catalogue.Steady := by
  intro kind
  cases kind <;>
    simp only [Catalogue.entries, catalogue, Edit.all, Check.all, List.forall_mem_cons,
      List.not_mem_nil, false_implies, implies_true, and_true]
  all_goals
    repeat' apply And.intro
    all_goals exact Form.steady_of_plain rfl rfl fun _ _ => rfl

theorem names_eq : chance.catalogue.names kind = Catalogue.builtIn.names kind := by
  cases kind <;> rfl

theorem distinct : (chance.catalogue.names kind).Nodup := by
  rw [names_eq]
  cases kind <;> decide

theorem named : ∀ entry ∈ chance.catalogue.entries kind, entry.1 ≠ "" := by
  have named : ∀ name ∈ Catalogue.builtIn.names kind, name ≠ "" := by cases kind <;> decide
  intro entry listed
  exact named _ (names_eq chance kind ▸ List.mem_map_of_mem listed)

variable {chance kind}

theorem bound_steady {name : Name} {form : Form} (bound : chance.catalogue.bound? kind name = some form) :
    form.Steady :=
  chance.steady kind _ (Catalogue.bound?_mem bound)

theorem bound_nonempty {label : String} {form : Form}
    (bound : chance.catalogue.bound? kind (.text label) = some form) : Name.text label ≠ .text "" := by
  have named := chance.named kind _ (Catalogue.bound?_mem bound)
  exact fun same => named (Name.text.inj same)

end Edit.Chance

/-! ## Steps -/

theorem step_named (catalogue : Catalogue) (kind : Kind) (name : Name) (settings : Settings) :
    catalogue.step kind name.toValue settings =
      if unnameable kind name settings then .error (.operand .unwritableInteger)
      else
        match catalogue.bound? kind name with
        | none => .error (catalogue.unknown kind name)
        | some form => form.prepare name (reportedName kind name settings) settings := by
  cases named : unnameable kind name settings with
  | true => rw [Catalogue.step, stepName_error named]; rfl
  | false =>
      obtain ⟨given, found, reported⟩ := stepName_reported named
      simp only [Catalogue.step, found, ok_bind, Catalogue.prepare, Catalogue.find_name]
      cases catalogue.bound? kind name with
      | none => rfl
      | some form => simp only [ok_bind, reported, Bool.false_eq_true, ↓reduceIte]

theorem step_steady {catalogue : Catalogue} {kind : Kind} {name : Name} {form : Form}
    {settings : Settings} (bound : catalogue.bound? kind name = some form) (steady : form.Steady)
    (nonempty : name ≠ .text "") (nameable : unnameable kind name settings = false)
    (complete : form.schema.missing settings = []) :
    catalogue.step kind name.toValue settings =
      .ok (form.operation (reportedName kind name settings) settings) := by
  rw [step_named, nameable, bound]
  exact steady.prepare_complete (reportedName_nonempty nonempty) complete

theorem kind_labelled (kind : Kind) : Kind.ofValue (.text kind.label) = .ok kind := by
  cases kind <;> rfl

theorem get_named (catalogue : Catalogue) (kind : Kind) (name : Name) (settings : Settings)
    (stepName : Option Name) :
    catalogue.get name.toValue (.text kind.label) settings stepName =
      match catalogue.bound? kind name with
      | none => .error (catalogue.unknown kind name)
      | some form => form.prepare name (Catalogue.stepNameOr name stepName) settings := by
  simp only [Catalogue.get, kind_labelled, ok_bind, Catalogue.prepare, Catalogue.find_name]
  cases catalogue.bound? kind name <;> rfl

theorem get_bound {catalogue : Catalogue} {kind : Kind} {name : Name} {settings : Settings}
    {stepName : Option Name} {prepared : Operation}
    (accepted : catalogue.get name.toValue (.text kind.label) settings stepName = .ok prepared) :
    catalogue.bound? kind name = some prepared.form ∧
      prepared.form.prepare name (Catalogue.stepNameOr name stepName) settings = .ok prepared ∧
      prepared.settings = settings := by
  rw [get_named] at accepted
  cases bound : catalogue.bound? kind name with
  | none => simp [bound] at accepted
  | some form =>
      simp only [bound] at accepted
      obtain ⟨rfl, _⟩ := Form.prepare_ok_iff.mp accepted
      exact ⟨rfl, accepted, rfl⟩

end TextChain
