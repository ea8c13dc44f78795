import TextChain.Proofs.Reading
import TextChain.Proofs.Replay

/-!
What a definition without issues is good for. The check walks the entries as they are written, and a
chain is replayed in the order of their places; the check does not look at places, nor at the settings
of control entries, and it asks each form what a step without any settings would require. Where these can
be read and change nothing, building only fails at bridges, unless a setting or a value has an integer that
is too long to be told.
-/

namespace TextChain

/-! ## Entries without issues -/

section Entries
variable {catalogue : Catalogue} {kind : Kind}

theorem control_isText {operation : Value} {control : Control}
    (mark : Control.ofValue? operation = some control) : operation.isText = true := by
  have same := List.find?_some mark
  cases operation <;> simp_all [Value.same, Value.isText, Value.chars?, Value.int?, Value.sameFloat]

theorem knows_name {operation : Value} (known : catalogue.knows kind operation = .ok true) :
    ∃ name form, operation = Name.toValue name ∧ catalogue.bound? kind name = some form := by
  obtain ⟨_, _, found⟩ := bind_eq_ok.mp known
  injection found with hit
  obtain ⟨label, listed, same⟩ := List.any_eq_true.mp hit
  rw [text_same, beq_iff_eq] at same
  obtain ⟨name, rfl⟩ := (isText_iff operation).mp (by rw [Value.isText, same]; rfl)
  obtain ⟨entry, member, rfl⟩ := List.mem_map.mp listed
  rw [Name.toValue_chars?, Option.some.injEq, String.toList_inj] at same
  cases bound : catalogue.bound? kind name with
  | some form => exact ⟨name, form, rfl, bound⟩
  | none =>
      have unbound := List.find?_eq_none.mp (Option.map_eq_none_iff.mp bound) entry member
      simp [same] at unbound

theorem schema_bound {name : Name} {form : Form} (bound : catalogue.bound? kind name = some form) :
    catalogue.schema kind name.toValue = form.schemaFor name [] := by
  simp only [Catalogue.schema, Catalogue.find_name, bound, ok_bind]

theorem settings_has {settings : Settings} {name : String} {value : Value}
    (given : settings.get? name = some value) : settings.has name = true := by
  obtain ⟨entry, found, _⟩ := Option.map_eq_some_iff.mp given
  have hit := List.find?_some found
  exact List.any_eq_true.mpr ⟨entry, List.mem_of_find?_eq_some found, hit⟩

theorem nothing_missing {operation : Value} {schema : Schema} {settings : Settings}
    (clean : settingIssues operation schema settings = []) : schema.missing settings = [] := by
  have required := (List.append_eq_nil_iff.mp clean).1
  rw [Schema.missing, List.filter_eq_nil_iff]
  intro name listed
  obtain ⟨parameter, member, rfl⟩ := List.mem_map.mp listed
  have admitted := List.filterMap_eq_nil_iff.mp required parameter member
  unfold requiredIssue? at admitted
  cases given : settings.get? parameter.name with
  | none => simp [given] at admitted
  | some value => simp [settings_has given]

/-- A control entry passes the check for the kind at which it is at home. Any other step passes for a kind
if its name is bound there, and nothing is missing that a step without settings says it requires. -/
def Step.Passes (catalogue : Catalogue) (kind : Kind) (step : Step) : Prop :=
  match Control.ofValue? step.operation with
  | some control => control.home = kind
  | none => ∃ name form schema, step.operation = Name.toValue name ∧
      catalogue.bound? kind name = some form ∧ form.schemaFor name [] = .ok schema ∧
      schema.missing step.settings = []

/-- An operation without issues is a bound name, with settings that lack nothing. -/
theorem operation_without_issues {operation : Value} {fields : Settings}
    (clean : operationIssues catalogue kind operation fields = .ok []) :
    ∃ name form schema settings, operation = Name.toValue name ∧
      catalogue.bound? kind name = some form ∧ form.schemaFor name [] = .ok schema ∧
      fields.either "operation_config" (.dict []) = .dict settings ∧ schema.missing settings = [] := by
  obtain ⟨known, asked, rest⟩ := bind_eq_ok.mp clean
  cases known with
  | false =>
      obtain ⟨_, _, unknown⟩ := bind_eq_ok.mp rest
      cases unknown
  | true =>
      obtain ⟨name, form, rfl, bound⟩ := knows_name asked
      simp only [Bool.not_true, Bool.false_eq_true, ↓reduceIte, schema_bound bound] at rest
      obtain ⟨schema, told, rest⟩ := bind_eq_ok.mp rest
      split at rest
      next settings given =>
        injection rest with nothing
        exact ⟨name, form, schema, settings, rfl, bound, told, given, nothing_missing nothing⟩
      next => simp at rest

end Entries

/-! ## Reading entries without issues -/

/-- The settings of an entry and its place can be read. -/
def readable : Value → Bool
  | .dict fields =>
      (match Settings.either fields "operation_config" .nothing with
        | .nothing => true
        | .dict _ => true
        | _ => false) &&
      (Settings.either fields "order_index" (.int 0)).toInteger.isOk
  | _ => false

theorem toInteger_plain {value : Value} {failure : Failure}
    (failed : value.toInteger = .error failure) : failure.atBridge = false := by
  have refused : ∀ fault : OperandFault, (refuse fault : Outcome Int) = .error failure →
      failure.atBridge = false := by
    intro fault same
    cases same
    rfl
  have settled : ∀ result, Value.toInteger.settle value result = .error failure →
      failure.atBridge = false := by
    intro result same
    cases result with
    | ok number => cases same
    | error fault => cases fault <;> exact refused _ same
  unfold Value.toInteger at failed
  split at failed
  · split at failed
    · exact refused _ failed
    · exact refused _ failed
    · cases failed
  · split at failed
    · cases failed
    · exact settled _ failed
    · exact settled _ failed
    · exact refused _ failed

section Reading
variable (label : String) (position : Nat)

/-- An entry that cannot be read fails by itself, long before a bridge. -/
theorem read_entry_plain {label : String} {position : Nat} {entry : Value} {failure : Failure}
    (failed : readEntry label position entry = .error failure) : failure.atBridge = false := by
  cases entry with
  | dict fields =>
      simp only [readEntry] at failed
      split at failed
      · cases failed
        rfl
      · rcases bind_eq_error.mp failed with refused | ⟨settings, _, rest⟩
        · unfold entrySettings at refused
          split at refused <;> cases refused
          rfl
        · rcases bind_eq_error.mp rest with refused | ⟨order, _, made⟩
          · exact toInteger_plain refused
          · cases made
  | _ =>
      cases failed
      rfl

theorem entry_settings_isOk (fields : Settings) :
    (entrySettings position label fields).isOk =
      match Settings.either fields "operation_config" .nothing with
      | .nothing => true
      | .dict _ => true
      | _ => false := by
  unfold entrySettings
  cases Settings.either fields "operation_config" .nothing <;> rfl

theorem order_isOk (fields : Settings) :
    (Settings.either fields "order_index" (.int position)).toInteger.isOk =
      (Settings.either fields "order_index" (.int 0)).toInteger.isOk := by
  unfold Settings.either
  cases fields.get? "order_index" <;> rfl

theorem read_entry_isOk {fields : Settings}
    (truthful : (Settings.either fields "operation" .nothing).truthy = true) :
    (readEntry label position (.dict fields)).isOk = readable (.dict fields) := by
  simp only [readable, readEntry, truthful, Bool.not_true, Bool.false_eq_true, ↓reduceIte,
    ← entry_settings_isOk label position fields, ← order_isOk position fields]
  cases entrySettings position label fields with
  | error failure => rfl
  | ok settings =>
      cases (Settings.either fields "order_index" (.int position)).toInteger <;> rfl

theorem read_settings {label : String} {position : Nat} {fields given settings : Settings}
    (written : fields.either "operation_config" (.dict []) = .dict given)
    (read : entrySettings position label fields = .ok settings) : settings = given := by
  unfold entrySettings at read
  unfold Settings.either at written read
  cases found : fields.get? "operation_config" with
  | none =>
      simp only [found, Option.getD_none] at written read
      cases written
      cases read
      rfl
  | some value =>
      simp only [found, Option.getD_some] at written read
      rw [written] at read
      cases read
      rfl

end Reading

/-! ## The walk of the check -/

section Walk
variable {catalogue : Catalogue} {kind : Kind} {label : String}

/-- An entry without issues that is read gives a step that passes for the kind it was checked for. -/
theorem clean_entry_passes {entry : Value} {next : Kind} {step : Step} {position : Nat}
    (clean : entryIssues catalogue kind entry = .ok ([], next))
    (read : readEntry label position entry = .ok step) :
    step.Passes catalogue kind ∧ next = step.leadsTo kind ∧ step.Named := by
  obtain ⟨fields, rfl, called, truthful, given⟩ := read_entry_fields read
  rw [called] at truthful
  simp only [entryIssues, truthful, Bool.not_true, Bool.false_eq_true, ↓reduceIte] at clean
  unfold Step.Passes Step.leadsTo
  rw [called]
  cases mark : Control.ofValue? (Settings.either fields "operation" .nothing) with
  | some control =>
      simp only [mark, controlIssues] at clean
      have named : step.Named :=
        Step.named_of_text (by rw [called]; exact control_isText mark) (by rw [called]; exact truthful)
      by_cases home : control.home = kind
      · rw [if_pos home] at clean
        cases clean
        exact ⟨home, rfl, named⟩
      · rw [if_neg home] at clean
        cases clean
  | none =>
      simp only [mark] at clean
      cases checked : operationIssues catalogue kind
          (Settings.either fields "operation" .nothing) fields with
      | error failure =>
          rw [checked] at clean
          cases clean
      | ok issues =>
          rw [checked] at clean
          cases clean
          -- No issue is left, so the name is bound and nothing is missing from what the form tells.
          obtain ⟨name, form, schema, settings, same, bound, told, written, complete⟩ :=
            operation_without_issues checked
          rw [← read_settings written given] at complete
          rw [same] at truthful
          exact ⟨⟨name, form, schema, same, bound, told, complete⟩, rfl, name, called.trans same,
            Name.ne_empty_of_truthy truthful⟩

theorem clean_entry_truthful {entry : Value} {next : Kind}
    (clean : entryIssues catalogue kind entry = .ok ([], next)) :
    ∃ fields, entry = .dict fields ∧
      (Settings.either fields "operation" .nothing).truthy = true := by
  cases entry with
  | dict fields =>
      refine ⟨fields, rfl, ?_⟩
      cases truthful : (Settings.either fields "operation" .nothing).truthy with
      | true => rfl
      | false => simp [entryIssues, truthful] at clean
  | _ => simp [entryIssues] at clean

theorem issues_none_cons {position : Nat} {entry : Value} {rest : List Value} :
    issuesFrom catalogue position kind (entry :: rest) = .ok [] ↔
      ∃ next, entryIssues catalogue kind entry = .ok ([], next) ∧
        issuesFrom catalogue (position + 1) next rest = .ok [] := by
  simp only [issuesFrom, bind_eq_ok]
  constructor
  · rintro ⟨⟨issues, next⟩, checked, later, continued, none⟩
    injection none with none
    obtain ⟨noneHere, rfl⟩ := List.append_eq_nil_iff.mp none
    obtain rfl := List.map_eq_nil_iff.mp noneHere
    exact ⟨next, checked, continued⟩
  · rintro ⟨next, checked, continued⟩
    exact ⟨([], next), checked, [], continued, rfl⟩

/-- Entries without issues are read into steps that pass in turn, unless one cannot be read. -/
theorem clean_entries_read (label : String) {entries : List Value} {index : Nat} (position : Nat)
    (taken : List Row) (clean : issuesFrom catalogue index kind entries = .ok []) :
    (∃ steps, readEntries label position taken entries = .ok steps ∧
      (∀ entry ∈ entries, readable entry = true) ∧ InTurn (Step.Passes catalogue) kind steps ∧
        ∀ step ∈ steps, step.Named) ∨
      Strays (readEntries label position taken entries) ∧ ∃ entry ∈ entries, readable entry = false := by
  -- The check and the reading go side by side; places already taken matter to the reading only.
  induction entries generalizing kind index position taken with
  | nil => exact Or.inl ⟨[], rfl, by simp, trivial, by simp⟩
  | cons entry rest ih =>
      obtain ⟨next, cleanHere, cleanLater⟩ := issues_none_cons.mp clean
      obtain ⟨fields, rfl, truthful⟩ := clean_entry_truthful cleanHere
      have isOk := read_entry_isOk label position truthful
      cases read : readEntry label position (.dict fields) with
      | error failure =>
          rw [read] at isOk
          refine Or.inr ⟨⟨failure, ?_, read_entry_plain read⟩, .dict fields, List.mem_cons_self,
            isOk.symm⟩
          rw [readEntries, read]
          rfl
      | ok step =>
          rw [read] at isOk
          obtain ⟨passes, leads, named⟩ := clean_entry_passes cleanHere read
          rw [leads] at cleanLater
          rcases ih (position + 1) (takePlace step.order taken).2 cleanLater with
            ⟨later, readLater, allReadable, passLater, namedLater⟩ |
              ⟨⟨failure, failed, plain⟩, faulty, member, unreadable⟩
          · refine Or.inl ⟨{ step with order := (takePlace step.order taken).1 } :: later,
              read_entries_cons.mpr ⟨step, later, read, readLater, rfl⟩, ?_, ⟨passes, passLater⟩, ?_⟩
            · exact List.forall_mem_cons.mpr ⟨isOk.symm, allReadable⟩
            · exact List.forall_mem_cons.mpr ⟨named, namedLater⟩
          · refine Or.inr ⟨⟨failure, ?_, plain⟩, faulty, List.mem_cons_of_mem _ member, unreadable⟩
            rw [readEntries, read, ok_bind]
            simp only [failed, error_bind]

end Walk

/-! ## Definitions without issues -/

section Definitions
variable {catalogue : Catalogue} {definition mode : Value}

/-- A definition without issues has a known mode, and entries that are without issues. -/
theorem valid_definition (label : String) (valid : validate catalogue definition mode = .ok []) :
    ∃ kind entries, kindOfMode mode = .ok kind ∧ definitionEntries definition label = .ok entries ∧
      issuesFrom catalogue 0 kind entries = .ok [] := by
  unfold validate at valid
  split at valid
  · cases valid
  · cases valid
  next kind started =>
    have dataClean : ∀ data : Value, loadDefinition definition label = .ok data →
        dataIssues catalogue kind data = .ok [] →
          ∃ entries, definitionEntries definition label = .ok entries ∧
            issuesFrom catalogue 0 kind entries = .ok [] := by
      intro data loaded clean
      unfold dataIssues at clean
      by_cases empty : (!data.truthy) = true
      · rw [if_pos empty] at clean
        cases clean
      · rw [if_neg empty] at clean
        obtain ⟨entries, items, walked⟩ := bind_eq_ok.mp clean
        refine ⟨entries, ?_, walked⟩
        rw [definitionEntries, loaded, ok_bind, if_neg empty, items]
    suffices found : ∃ data, loadDefinition definition label = .ok data ∧
        dataIssues catalogue kind data = .ok [] by
      obtain ⟨data, loaded, clean⟩ := found
      obtain ⟨entries, items, walked⟩ := dataClean data loaded clean
      exact ⟨kind, entries, started, items, walked⟩
    -- A list is its own data, and a text is parsed by the check just as by the reading.
    split at valid
    next items => exact ⟨.list items, rfl, valid⟩
    next definition notList =>
      split at valid
      next => cases valid
      next text chars =>
        split at valid
        next data parsed =>
          refine ⟨data, ?_, valid⟩
          unfold loadDefinition
          split
          next items => exact absurd rfl (notList items)
          next => simp only [chars, parsed]
        next => cases valid
        next => cases valid

theorem read_in_written_order {label : String} {entries : List Value} {written : List Step}
    (items : definitionEntries definition label = .ok entries)
    (read : readEntries label 0 [] entries = .ok written)
    (ascending : written.Pairwise fun a b => a.order ≤ b.order) :
    readDefinition definition label = .ok written := by
  refine read_definition_iff.mpr ⟨entries, written, items, read, ?_⟩
  have sorted : written.Pairwise fun a b => Step.le a b = true :=
    ascending.imp fun before => by simpa [Step.le] using before
  exact (List.mergeSort_of_pairwise sorted).symm

/-- A step that passes the check is refused by its form: with the settings that it has it cannot be made,
or it requires what it does not require without any. -/
def Step.Disputed (catalogue : Catalogue) (kind : Kind) (step : Step) : Prop :=
  ∃ name form bare, step.operation = Name.toValue name ∧ catalogue.bound? kind name = some form ∧
    form.schemaFor name [] = .ok bare ∧ bare.missing step.settings = [] ∧
    ∀ schema, form.schemaFor (reportedName kind name step.settings) step.settings = .ok schema →
      schema.missing step.settings ≠ []

theorem passing_unsuited {kind : Kind} {step : Step} (passes : step.Passes catalogue kind)
    (unsuited : ¬ step.Suits catalogue kind) : step.Disputed catalogue kind ∨ step.Unnameable kind := by
  unfold Step.Passes at passes
  unfold Step.Suits at unsuited
  cases mark : Control.ofValue? step.operation with
  | some control =>
      rw [mark] at passes unsuited
      exact absurd passes unsuited
  | none =>
      rw [mark] at passes unsuited
      obtain ⟨name, form, bare, called, bound, told, complete⟩ := passes
      cases nameable : unnameable kind name step.settings with
      | true => exact .inr ⟨mark, name, called, nameable⟩
      | false =>
          refine .inl ⟨name, form, bare, called, bound, told, complete, fun schema asked nothing => ?_⟩
          exact unsuited ⟨name, form, schema, called, bound, nameable, asked, nothing⟩

/-- A definition without issues can still fail other than at a bridge: exactly when an entry cannot be
read, or when a step comes up, in the order of the places, that does not fit the chain at hand. If the
places are in the order in which the entries are written, it only fails so at a step of which the check
does not see what its settings do, or at a bridge that has to tell a value that cannot be written. -/
theorem validated_build_strays_iff {subject : Value} (label : String)
    (constructible : catalogue.Constructible) (valid : validate catalogue definition mode = .ok [])
    (isText : subject.isText = true) :
    ∃ kind entries, kindOfMode mode = .ok kind ∧ definitionEntries definition label = .ok entries ∧
      (Strays (Chain.build catalogue subject definition mode label) ↔
        (∃ entry ∈ entries, readable entry = false) ∨
          ∃ steps, readDefinition definition label = .ok steps ∧
            ReachesMisfit catalogue { kind, subject } steps) ∧
      ∀ written, readEntries label 0 [] entries = .ok written →
        written.Pairwise (fun a b => a.order ≤ b.order) →
          Strays (Chain.build catalogue subject definition mode label) →
            ∃ front step back reached, written = front ++ step :: back ∧
              Chain.replay catalogue { kind, subject } front = .ok reached ∧
              (step.Disputed catalogue reached.kind ∨ step.Unnameable reached.kind ∨
                step.Crosses ∧ reached.Mute) := by
  obtain ⟨kind, entries, started, items, clean⟩ := valid_definition label valid
  refine ⟨kind, entries, started, items, ?_⟩
  rw [build_started catalogue definition label started isText, bind_strays_iff]
  -- If all entries can be read, only the order of replaying can go wrong; otherwise reading fails.
  rcases clean_entries_read label 0 [] clean with
    ⟨written, read, allReadable, pass, named⟩ | ⟨strays, unreadable⟩
  · have sorted : readDefinition definition label = .ok (written.mergeSort Step.le) :=
      read_definition_iff.mpr ⟨entries, written, items, read, rfl⟩
    have namedSorted : ∀ step ∈ written.mergeSort Step.le, step.Named :=
      fun step member => named step (List.mem_mergeSort.mp member)
    have noneUnreadable : ¬ ∃ entry ∈ entries, readable entry = false := by
      rintro ⟨entry, member, unreadable⟩
      rw [allReadable entry member] at unreadable
      cases unreadable
    constructor
    · simp only [sorted, ok_stays, noneUnreadable, false_or, Except.ok.injEq, exists_eq_left',
        replay_strays_iff constructible namedSorted]
    · intro again readAgain ascending
      rw [read] at readAgain
      cases readAgain
      rw [read_in_written_order items read ascending]
      simp only [ok_stays, false_or, Except.ok.injEq, exists_eq_left',
        replay_strays_iff constructible named]
      -- The check has passed the step, so what is wrong with it is what the check does not see.
      rintro ⟨front, step, back, reached, rfl, replayed, unsuited | mute⟩
      · have passes : step.Passes catalogue reached.kind := InTurn.reached pass
          (fun earlier member => named earlier (List.mem_append_left _ member)) replayed
        have hidden := passing_unsuited passes unsuited
        exact ⟨front, step, back, reached, rfl, replayed, hidden.imp_right Or.inl⟩
      · exact ⟨front, step, back, reached, rfl, replayed, Or.inr (Or.inr mute)⟩
  · have definitionStrays : Strays (readDefinition definition label) := by
      obtain ⟨failure, failed, plain⟩ := strays
      refine ⟨failure, ?_, plain⟩
      rw [read_definition_sorts, items, ok_bind, failed]
      rfl
    refine ⟨iff_of_true (Or.inl definitionStrays) (Or.inl unreadable), ?_⟩
    intro written read
    rw [read] at strays
    exact absurd strays (ok_stays written)

end Definitions

/-! ### A definition out of order -/

/-- As it is written, the text is tested behind the bridge; by its places, in front of it. -/
def testedTooEarly : Value :=
  .list [.dict [("operation", .text "assert_that"), ("order_index", .int 1)],
    .dict [("operation", .text "has"), ("operation_config", .dict [("substring", .text "a")]),
      ("order_index", .int 0)]]

theorem testedTooEarly_strays :
    (Catalogue.builtIn.Constructible ∧
      validate .builtIn testedTooEarly (.text "transform") = .ok []) ∧
      Strays (Chain.build .builtIn (.text "abc") testedTooEarly (.text "transform") "Unnamed") := by
  have valid : validate .builtIn testedTooEarly (.text "transform") = .ok [] := by rfl
  have text : (Value.text "abc").isText = true := by rfl
  have constructible : Catalogue.builtIn.Constructible := Edit.Chance.standing.constructible
  obtain ⟨kind, entries, started, items, strays, _⟩ :=
    validated_build_strays_iff "Unnamed" constructible valid text
  cases started
  cases items
  let test : Step := ⟨.text "has", [("substring", .text "a")], 0⟩
  let bridge : Step := ⟨.text "assert_that", [], 1⟩
  have sorted : [test, bridge] = [bridge, test].mergeSort Step.le := by
    simp [List.mergeSort, Step.le, test, bridge]
  have read : readDefinition testedTooEarly "Unnamed" = .ok [test, bridge] :=
    read_definition_iff.mpr ⟨_, [bridge, test], rfl, rfl, sorted⟩
  have unbound : Catalogue.builtIn.bound? .transformation (.text "has") = none := by rfl
  have unsuited : ¬ test.Suits .builtIn .transformation := by
    rintro ⟨name, form, _, called, bound, _⟩
    cases name <;> cases called
    rw [unbound] at bound
    cases bound
  exact ⟨⟨constructible, valid⟩,
    strays.mpr (Or.inr ⟨_, read, [], test, [bridge], _, rfl, rfl, Or.inl unsuited⟩)⟩

end TextChain
