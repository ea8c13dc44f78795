import TextChain.Proofs.Soundness

/-!
The check of a definition, entry by entry. Each entry is checked for one kind of chain, and the entry
leads to the kind for which the next one is checked. Of an entry that can be read, the issues other than
those with single settings say that its step does not pass for that kind, or that its settings are written
down as nothing. The check breaks off at a step whose form tells no schema to a step without settings.
-/

namespace TextChain

/-! ## Checkups -/

/-- An issue with a setting that is there: it is of a wrong type, or it is not asked for. -/
def EntryIssue.minor : EntryIssue → Bool
  | .wrongType _ _ _ => true
  | .unexpected _ _ => true
  | _ => false

/-- The check of one entry: the kind of chain that it is checked for, and what is found. -/
structure Checkup where
  kind : Kind
  issues : List EntryIssue

/-- Checks entries in turn. Each leads to the kind of chain for which the next one is checked. -/
def checkups (catalogue : Catalogue) : Kind → List Value → Outcome (List Checkup)
  | _, [] => .ok []
  | kind, entry :: rest => do
      let (issues, next) ← entryIssues catalogue kind entry
      let later ← checkups catalogue next rest
      .ok (⟨kind, issues⟩ :: later)

def gather (position : Nat) : List Checkup → List Issue
  | [] => []
  | checkup :: rest => checkup.issues.map (.entry position) ++ gather (position + 1) rest

/-- The kind of chain to which an entry leads. -/
def leadsOn (kind : Kind) : Value → Kind
  | .dict fields =>
      match Control.ofValue? (Settings.either fields "operation" .nothing) with
      | some control => control.leadsTo kind
      | none => kind
  | _ => kind

def kindAfter (kind : Kind) (entries : List Value) : Kind := entries.foldl leadsOn kind

section Checkups
variable {catalogue : Catalogue} {kind : Kind}

theorem control_truthy {operation : Value} {control : Control}
    (mark : Control.ofValue? operation = some control) : operation.truthy = true := by
  obtain ⟨name, rfl⟩ := (isText_iff operation).mp (control_isText mark)
  have same := List.find?_some mark
  rw [same_text, beq_iff_eq] at same
  have nonempty : control.label.toList ≠ [] := by cases control <;> decide
  cases name with
  | text s =>
      obtain rfl : s = control.label := same
      cases control <;> rfl
  | preset p => cases p <;> rfl

/-- An entry that is checked leads to the kind for which the check goes on. -/
theorem checked_leads {entry : Value} {issues : List EntryIssue} {next : Kind}
    (checked : entryIssues catalogue kind entry = .ok (issues, next)) : next = leadsOn kind entry := by
  unfold entryIssues at checked
  cases entry with
  | dict fields =>
    dsimp only [leadsOn] at checked ⊢
    cases mark : Control.ofValue? (Settings.either fields "operation" .nothing) with
    | some control =>
        simp only [control_truthy mark, mark, Bool.not_true, Bool.false_eq_true, ↓reduceIte] at checked
        cases checked
        rfl
    -- The check of the step may fail, but where it ends it leads nowhere else.
    | none =>
        rw [mark] at checked
        split at checked
        · cases checked
          rfl
        · cases found : operationIssues catalogue kind (Settings.either fields "operation" .nothing)
              fields with
          | error failure =>
              rw [found] at checked
              cases checked
          | ok issues =>
              rw [found] at checked
              cases checked
              rfl
  | _ =>
    cases checked
    rfl

theorem issues_gathered (position : Nat) (kind : Kind) (entries : List Value) :
    issuesFrom catalogue position kind entries =
      (checkups catalogue kind entries).map (gather position) := by
  induction entries generalizing position kind with
  | nil => rfl
  | cons entry rest ih =>
      simp only [issuesFrom, checkups]
      cases entryIssues catalogue kind entry with
      | error failure => rfl
      | ok found =>
          obtain ⟨issues, next⟩ := found
          simp only [ok_bind, ih (position + 1) next]
          cases checkups catalogue next rest <;> rfl

theorem gather_mem {position : Nat} {checks : List Checkup} {issue : Issue} :
    issue ∈ gather position checks ↔ ∃ (index : Nat) (checkup : Checkup) (found : EntryIssue),
      checks[index]? = some checkup ∧ found ∈ checkup.issues ∧
        issue = .entry (position + index) found := by
  induction checks generalizing position with
  | nil => simp [gather]
  | cons first rest ih =>
      rw [gather, List.mem_append, ih, List.mem_map]
      constructor
      · rintro (⟨found, member, rfl⟩ | ⟨index, checkup, found, listed, member, rfl⟩)
        · exact ⟨0, first, found, rfl, member, rfl⟩
        · refine ⟨index + 1, checkup, found, by simpa using listed, member, ?_⟩
          rw [Nat.add_right_comm, Nat.add_assoc]
      · rintro ⟨index, checkup, found, listed, member, rfl⟩
        cases index with
        | zero =>
            cases listed
            exact Or.inl ⟨found, member, rfl⟩
        | succ index =>
            refine Or.inr ⟨index, checkup, found, by simpa using listed, member, ?_⟩
            rw [Nat.add_right_comm, Nat.add_assoc]

/-- Whatever data reading loads from a definition, the check loads the same. -/
theorem validate_loaded {definition mode data : Value} {label : String}
    (started : kindOfMode mode = .ok kind) (loaded : loadDefinition definition label = .ok data) :
    validate catalogue definition mode = dataIssues catalogue kind data := by
  unfold loadDefinition at loaded
  unfold validate
  rw [started]
  cases definition with
  | list items =>
      cases loaded
      rfl
  | _ =>
      dsimp only at loaded ⊢
      generalize Value.chars? _ = chars at loaded ⊢
      cases chars with
      | none => cases loaded
      | some text =>
          dsimp only at loaded ⊢
          cases parsed : Value.ofJson? (String.ofList text) with
          | error error => simp only [parsed] at loaded; cases loaded
          | ok found =>
              simp only [parsed] at loaded
              cases loaded
              rfl

theorem validate_walks {definition mode : Value} {label : String} {entries : List Value}
    (started : kindOfMode mode = .ok kind)
    (items : definitionEntries definition label = .ok entries) (nonempty : entries ≠ []) :
    validate catalogue definition mode = (checkups catalogue kind entries).map (gather 0) := by
  obtain ⟨data, loaded, taken⟩ := bind_eq_ok.mp items
  rw [validate_loaded started loaded]
  unfold dataIssues
  by_cases empty : (!data.truthy) = true
  · rw [if_pos empty] at taken
    cases taken
    exact absurd rfl nonempty
  · rw [if_neg empty] at taken
    rw [if_neg empty, taken, ok_bind, issues_gathered]

end Checkups

/-! ## One entry -/

/-- An entry that names no control and has nothing written down for its settings. -/
def BlankSettings (entry : Value) : Prop :=
  ∃ fields, entry = .dict fields ∧
    Control.ofValue? (Settings.either fields "operation" .nothing) = none ∧
    Settings.get? fields "operation_config" = some .nothing

section Entry
variable {catalogue : Catalogue} {kind : Kind} {label : String} {position : Nat}

/-- Settings have an issue that is not minor just if one is missing. -/
theorem grave_settings (operation : Value) (schema : Schema) (settings : Settings) :
    (∃ issue ∈ settingIssues operation schema settings, issue.minor = false) ↔
      schema.missing settings ≠ [] := by
  have lacking : schema.missing settings ≠ [] ↔
      ∃ parameter ∈ schema.required, settings.has parameter.name = false := by
    rw [ne_eq, Schema.missing, List.filter_eq_nil_iff]
    simp
  rw [lacking]
  constructor
  · rintro ⟨issue, member, grave⟩
    rcases List.mem_append.mp member with required | surplus
    · obtain ⟨parameter, listed, found⟩ := List.mem_filterMap.mp required
      refine ⟨parameter, listed, ?_⟩
      unfold requiredIssue? at found
      cases given : settings.get? parameter.name with
      | none =>
          rw [Settings.get?, Option.map_eq_none_iff, List.find?_eq_none] at given
          exact List.any_eq_false.mpr given
      | some value =>
          simp only [given] at found
          split at found <;> cases found
          cases grave
    · obtain ⟨setting, _, rfl⟩ := List.mem_map.mp surplus
      cases grave
  · rintro ⟨parameter, listed, absent⟩
    -- A parameter that is not there is an issue of its own.
    have ungiven : settings.get? parameter.name = none := by
      cases given : settings.get? parameter.name with
      | none => rfl
      | some value => rw [settings_has given] at absent; cases absent
    refine ⟨.missing operation parameter.name, List.mem_append_left _ ?_, rfl⟩
    exact List.mem_filterMap.mpr ⟨parameter, listed, by rw [requiredIssue?, ungiven]⟩

theorem knows_bound (catalogue : Catalogue) (kind : Kind) (name : Name) :
    catalogue.knows kind name.toValue = .ok (catalogue.bound? kind name).isSome := by
  simp only [Catalogue.knows, Name.toValue_hashable, ok_bind, text_same_name, Catalogue.names,
    Catalogue.bound?, List.any_map, Option.isSome_map, List.isSome_find?]
  rfl

/-- The settings of an entry that can be read are a dictionary, or nothing is written down for them. -/
theorem read_settings_cases {fields settings : Settings}
    (read : entrySettings position label fields = .ok settings) :
    fields.get? "operation_config" = some .nothing ∨
      fields.get? "operation_config" ≠ some .nothing ∧
        fields.either "operation_config" (.dict []) = .dict settings := by
  unfold entrySettings Settings.either at read
  unfold Settings.either
  cases given : fields.get? "operation_config" with
  | none =>
      simp only [given, Option.getD_none] at read
      cases read
      exact Or.inr ⟨nofun, rfl⟩
  | some value =>
      simp only [given, Option.getD_some] at read
      cases value <;> cases read
      · exact Or.inl rfl
      · exact Or.inr ⟨nofun, rfl⟩

section Operation
variable {fields settings : Settings} {name : Name}

/-- The issues of an entry that names a step: they are not all minor just if the step does not pass, or if
the settings are written down as nothing. -/
theorem grave_operation {issues : List EntryIssue}
    (read : entrySettings position label fields = .ok settings)
    (found : operationIssues catalogue kind name.toValue fields = .ok issues) :
    (∃ issue ∈ issues, issue.minor = false) ↔
      ¬ (∃ form schema, catalogue.bound? kind name = some form ∧ form.schemaFor name [] = .ok schema ∧
        schema.missing settings = []) ∨ fields.get? "operation_config" = some .nothing := by
  simp only [operationIssues, knows_bound, ok_bind] at found
  cases bound : catalogue.bound? kind name with
  | none =>
      simp only [bound, Option.isSome_none, Bool.not_false, ↓reduceIte, Name.toValue_writable,
        ok_bind] at found
      cases found
      simp [EntryIssue.minor]
  | some form =>
      simp only [bound, Option.isSome_some, Bool.not_true, Bool.false_eq_true, ↓reduceIte,
        schema_bound bound] at found
      obtain ⟨schema, told, found⟩ := bind_eq_ok.mp found
      have passes : (∃ other asked, some form = some other ∧ other.schemaFor name [] = .ok asked ∧
          asked.missing settings = []) ↔ schema.missing settings = [] := by
        constructor
        · rintro ⟨_, asked, ⟨⟩, same, complete⟩
          cases told.symm.trans same
          exact complete
        · exact fun complete => ⟨form, schema, rfl, told, complete⟩
      rw [passes]
      -- Settings written down as nothing are read as none, but the check finds them of a wrong type.
      rcases read_settings_cases read with blank | ⟨written, given⟩
      · have nothing : fields.either "operation_config" (.dict []) = .nothing := by
          rw [Settings.either, blank]
          rfl
        rw [nothing] at found
        cases found
        simp [EntryIssue.minor, blank]
      · rw [given] at found
        cases found
        rw [grave_settings]
        simp [written]

theorem operation_untold {failure : Failure}
    (broken : operationIssues catalogue kind name.toValue fields = .error failure) :
    ∃ form, catalogue.bound? kind name = some form ∧ form.schemaFor name [] = .error failure := by
  simp only [operationIssues, knows_bound, ok_bind] at broken
  cases bound : catalogue.bound? kind name with
  | none => simp [bound] at broken
  | some form =>
      simp only [bound, Option.isSome_some, Bool.not_true, Bool.false_eq_true, ↓reduceIte,
        schema_bound bound] at broken
      rcases bind_eq_error.mp broken with untold | ⟨schema, _, impossible⟩
      · exact ⟨form, rfl, untold⟩
      · split at impossible <;> cases impossible

end Operation

theorem blank_settings_iff {fields : Settings} {step : Step}
    (called : step.operation = Settings.either fields "operation" .nothing) :
    BlankSettings (.dict fields) ↔ Control.ofValue? step.operation = none ∧
      Settings.get? fields "operation_config" = some .nothing := by
  rw [called]
  constructor
  · rintro ⟨_, same, plain, nothing⟩
    cases same
    exact ⟨plain, nothing⟩
  · exact fun both => ⟨fields, rfl, both⟩

/-- What the check finds for an entry that can be read. It leads to the kind of chain to which the step
leads. -/
theorem entry_checked {entry : Value} {step : Step} {issues : List EntryIssue} {next : Kind}
    (read : readEntry label position entry = .ok step) (named : step.Named)
    (checked : entryIssues catalogue kind entry = .ok (issues, next)) :
    next = step.leadsTo kind ∧
      ((∃ issue ∈ issues, issue.minor = false) ↔
        ¬ step.Passes catalogue kind ∨ BlankSettings entry) := by
  obtain ⟨fields, rfl, called, truthful, given⟩ := read_entry_fields read
  simp only [entryIssues, ← called, truthful, Bool.not_true, Bool.false_eq_true, ↓reduceIte] at checked
  rw [blank_settings_iff called]
  unfold Step.Passes Step.leadsTo
  cases mark : Control.ofValue? step.operation with
  | some control =>
      rw [mark] at checked
      cases checked
      refine ⟨rfl, ?_⟩
      unfold controlIssues
      by_cases home : control.home = kind <;> simp [home, EntryIssue.minor]
  | none =>
      obtain ⟨name, spelled, nonempty⟩ := named
      rw [mark, spelled] at checked
      cases found : operationIssues catalogue kind name.toValue fields with
      | error failure =>
          rw [found] at checked
          cases checked
      | ok others =>
          rw [found] at checked
          cases checked
          refine ⟨rfl, (grave_operation given found).trans ?_⟩
          -- The step has one name, so what is asked of any name is asked of this one.
          have passes : (∃ other form schema, step.operation = Name.toValue other ∧
              catalogue.bound? kind other = some form ∧ form.schemaFor other [] = .ok schema ∧
              schema.missing step.settings = []) ↔
              ∃ form schema, catalogue.bound? kind name = some form ∧
                form.schemaFor name [] = .ok schema ∧ schema.missing step.settings = [] := by
            constructor
            · rintro ⟨other, form, schema, same, told⟩
              obtain rfl := toValue_inj (spelled.symm.trans same)
              exact ⟨form, schema, told⟩
            · rintro ⟨form, schema, told⟩
              exact ⟨name, form, schema, spelled, told⟩
          simp only [passes, true_and]

/-- The form of a step, which the check asks for what a step without settings requires, fails to tell. -/
def Step.Untold (catalogue : Catalogue) (kind : Kind) (step : Step) (failure : Failure) : Prop :=
  ∃ name form, step.operation = Name.toValue name ∧ catalogue.bound? kind name = some form ∧
    form.schemaFor name [] = .error failure

section Steady
variable {step : Step} (steady : catalogue.Steady) (named : step.Named)
include steady named

theorem steady_told (failure : Failure) : ¬ step.Untold catalogue kind failure := by
  obtain ⟨given, called, nonempty⟩ := named
  rintro ⟨name, form, spelled, bound, untold⟩
  obtain rfl := toValue_inj (called.symm.trans spelled)
  rw [(steady kind _ (Catalogue.bound?_mem bound)).schemaFor nonempty] at untold
  cases untold

theorem steady_passes (suits : step.Suits catalogue kind) : step.Passes catalogue kind := by
  obtain ⟨given, called, nonempty⟩ := named
  unfold Step.Suits at suits
  unfold Step.Passes
  cases mark : Control.ofValue? step.operation with
  | some control =>
      simp only [mark] at suits ⊢
      exact suits
  | none =>
      simp only [mark] at suits ⊢
      obtain ⟨name, form, schema, spelled, bound, _, told, complete⟩ := suits
      obtain rfl := toValue_inj (called.symm.trans spelled)
      have stands := steady kind _ (Catalogue.bound?_mem bound)
      rw [stands.schemaFor (reportedName_nonempty nonempty)] at told
      cases told
      exact ⟨given, form, form.schema, called, bound, stands.schemaFor nonempty, complete⟩

end Steady

theorem entry_untold {entry : Value} {step : Step} {failure : Failure}
    (read : readEntry label position entry = .ok step) (named : step.Named)
    (broken : entryIssues catalogue kind entry = .error failure) :
    step.Untold catalogue kind failure := by
  obtain ⟨fields, rfl, called, truthful, _⟩ := read_entry_fields read
  simp only [entryIssues, ← called, truthful, Bool.not_true, Bool.false_eq_true, ↓reduceIte] at broken
  obtain ⟨name, spelled, _⟩ := named
  split at broken
  · cases broken
  · rw [spelled] at broken
    cases found : operationIssues catalogue kind name.toValue fields with
    | ok issues =>
        rw [found] at broken
        cases broken
    | error other =>
        rw [found] at broken
        cases broken
        obtain ⟨form, bound, untold⟩ := operation_untold found
        exact ⟨name, form, spelled, bound, untold⟩

end Entry

/-! ## Entries in turn -/

/-- Entries with their steps and their checkups, for chains that start with a kind. -/
inductive Checked (catalogue : Catalogue) :
    Kind → List Value → List Step → List Checkup → Prop
  | none {kind : Kind} : Checked catalogue kind [] [] []
  | more {kind : Kind} {entry : Value} {step : Step} {issues : List EntryIssue}
      {entries : List Value} {steps : List Step} {checks : List Checkup}
      (first : (∃ issue ∈ issues, issue.minor = false) ↔
        ¬ step.Passes catalogue kind ∨ BlankSettings entry)
      (others : Checked catalogue (step.leadsTo kind) entries steps checks) :
      Checked catalogue kind (entry :: entries) (step :: steps) (⟨kind, issues⟩ :: checks)

section Walk
variable {catalogue : Catalogue} {kind : Kind} {label : String}

/-- Entries that can be read and name their operations are checked up to the end, or up to a step whose
form tells no schema. -/
theorem entries_checked (catalogue : Catalogue) {entries : List Value} {written : List Step}
    {position : Nat} {taken : List Row} (kind : Kind)
    (read : readEntries label position taken entries = .ok written)
    (named : ∀ step ∈ written, step.Named) :
    (∃ checks, checkups catalogue kind entries = .ok checks ∧
      Checked catalogue kind entries written checks) ∨
    ∃ failure, checkups catalogue kind entries = .error failure ∧
      ∃ (index : Nat) (step : Step), written[index]? = some step ∧
        step.Untold catalogue (kindAfter kind (entries.take index)) failure := by
  induction entries generalizing position taken kind written with
  | nil =>
      cases read
      exact Or.inl ⟨[], rfl, .none⟩
  | cons entry rest ih =>
      obtain ⟨step, later, readHere, readLater, rfl⟩ := read_entries_cons.mp read
      obtain ⟨namedHere, namedLater⟩ := List.forall_mem_cons.mp named
      -- The check goes on from the kind to which this entry leads, and so do the steps behind it.
      rw [checkups]
      cases checked : entryIssues catalogue kind entry with
      | error failure =>
          have untold : step.Untold catalogue kind failure := entry_untold readHere namedHere checked
          exact Or.inr ⟨failure, rfl, 0, _, rfl, untold⟩
      | ok found =>
          obtain ⟨issues, next⟩ := found
          obtain ⟨leads, grave⟩ := entry_checked readHere namedHere checked
          rcases ih next readLater namedLater with
            ⟨checks, walked, all⟩ | ⟨failure, broken, index, found, there, untold⟩
          · refine Or.inl ⟨⟨kind, issues⟩ :: checks, ?_, .more grave (leads ▸ all)⟩
            simp only [ok_bind, walked]
          · refine Or.inr ⟨failure, ?_, index + 1, found, by simpa using there, ?_⟩
            · simp only [ok_bind, broken, error_bind]
            · rw [checked_leads checked] at untold
              exact untold

theorem Checked.minor_iff {entries : List Value} {steps : List Step} {checks : List Checkup}
    (checked : Checked catalogue kind entries steps checks) :
    (∀ checkup ∈ checks, ∀ issue ∈ checkup.issues, issue.minor = true) ↔
      InTurn (Step.Passes catalogue) kind steps ∧ ∀ entry ∈ entries, ¬ BlankSettings entry := by
  induction checked with
  | none => simp [InTurn]
  | @more kind entry step issues entries steps checks first others ih =>
      have here : (∀ issue ∈ issues, issue.minor = true) ↔
          step.Passes catalogue kind ∧ ¬ BlankSettings entry := by
        have negated := not_congr first
        simpa [not_or, not_exists] using negated
      simp only [List.forall_mem_cons, here, ih, InTurn]
      exact and_and_and_comm

end Walk

end TextChain
