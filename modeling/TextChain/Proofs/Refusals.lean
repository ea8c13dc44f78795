import TextChain.Proofs.Stops

/-!
The classes of the errors with which reading and building fail. All are of kinds that are to be expected
of them, but for two: an entry may ask for an infinite place, and a step may be asked for by a value that
can be looked up but has no small letters, so that no message can be made of it. A form that refuses its own
steps may do so with any error.
-/

namespace TextChain

/-! ## Sorts of failures -/

def Failure.OfKinds (kinds : List ErrorKind) (failure : Failure) : Prop :=
  failure.failureClass ∈ kinds.map FailureClass.kind

def FailsOnly {α : Type} (sort : Failure → Prop) (outcome : Outcome α) : Prop :=
  ∀ failure, outcome = .error failure → sort failure

namespace FailsOnly

variable {α β : Type} {sort wider : Failure → Prop}

theorem answered (value : α) : FailsOnly sort (.ok value : Outcome α) := nofun

theorem failed {failure : Failure} (sorted : sort failure) :
    FailsOnly sort (.error failure : Outcome α) := by
  rintro _ ⟨⟩
  exact sorted

theorem bind {outcome : Outcome α} {next : α → Outcome β} (first : FailsOnly sort outcome)
    (later : ∀ value, outcome = .ok value → FailsOnly sort (next value)) :
    FailsOnly sort (outcome >>= next) := by
  intro failure stopped
  rcases bind_eq_error.mp stopped with failed | ⟨value, answered, failed⟩
  · exact first failure failed
  · exact later value answered failure failed

theorem map {outcome : Outcome α} (step : α → β) (first : FailsOnly sort outcome) :
    FailsOnly sort (outcome.map step) := by
  intro failure failed
  cases outcome with
  | error other =>
      cases failed
      exact first failure rfl
  | ok value => cases failed

theorem weaken {outcome : Outcome α} (only : FailsOnly sort outcome)
    (wide : ∀ failure, sort failure → wider failure) : FailsOnly wider outcome :=
  fun failure failed => wide failure (only failure failed)

end FailsOnly

theorem of_kind (kind : ErrorKind) {kinds : List ErrorKind} {failure : Failure}
    (same : failure.failureClass = .kind kind) (listed : kind ∈ kinds) : failure.OfKinds kinds :=
  List.mem_map.mpr ⟨kind, listed, same.symm⟩

theorem ofKinds_more {kinds more : List ErrorKind} {failure : Failure} (sorted : failure.OfKinds kinds)
    (within : kinds ⊆ more) : failure.OfKinds more :=
  List.map_subset _ within sorted

theorem hashable_fails (value : Value) : FailsOnly (·.OfKinds [.type]) value.hashable := by
  unfold Value.hashable
  split
  · exact .failed (of_kind .type rfl (by decide))
  · exact .answered _

theorem writable_fails (value : Value) : FailsOnly (·.OfKinds [.value]) value.writable := by
  unfold Value.writable
  split
  · exact .failed (of_kind .value rfl (by decide))
  · exact .answered _

/-! ## Places -/

/-- An infinite number. -/
def Endless (value : Value) : Prop :=
  ∃ x negative, value = .float x ∧ binary64 x = .infinite negative

theorem endless_refused {value : Value} (endless : Endless value) :
    value.toInteger = refuse .integerOfInfinity := by
  obtain ⟨x, negative, rfl, infinite⟩ := endless
  simp only [Value.toInteger, infinite]

/-- A value is no integer by its form or by its type, or else because it is infinite. -/
theorem toInteger_fails (value : Value) :
    FailsOnly (fun failure => failure.OfKinds [.value, .type] ∨
      failure.failureClass = .overflow ∧ Endless value) value.toInteger := by
  have settled (result : Except IntegerFault Int) :
      FailsOnly (fun failure => failure.OfKinds [.value, .type] ∨
        failure.failureClass = .overflow ∧ Endless value) (Value.toInteger.settle value result) := by
    cases result with
    | ok n => exact .answered n
    | error fault => cases fault <;> exact .failed (Or.inl (of_kind .value rfl (by decide)))
  unfold Value.toInteger
  split
  next x =>
    cases number : binary64 x with
    | notANumber => exact .failed (Or.inl (of_kind .value rfl (by decide)))
    | infinite negative => exact .failed (Or.inr ⟨rfl, x, negative, rfl, number⟩)
    | finite negative mantissa exponent => exact .answered _
  next =>
    split
    · exact .answered _
    · exact settled _
    · exact settled _
    · exact .failed (Or.inl (of_kind .type rfl (by decide)))

/-! ## Entries -/

/-- An entry that can be read but for the infinite place that it asks for. -/
def AsksEndlessPlace (entry : Value) : Prop :=
  ∃ fields, entry = .dict fields ∧ (Settings.either fields "operation" .nothing).truthy = true ∧
    (Settings.either fields "operation_config" .nothing = .nothing ∨
      ∃ settings, Settings.either fields "operation_config" .nothing = .dict settings) ∧
    Endless (Settings.either fields "order_index" .nothing)

section Entries
variable {label : String} {position : Nat}

theorem endless_order {fields : Settings} :
    Endless (fields.either "order_index" (.int position)) ↔
      Endless (fields.either "order_index" .nothing) := by
  unfold Settings.either
  cases fields.get? "order_index" with
  | some value => exact Iff.rfl
  | none => exact iff_of_false nofun nofun

theorem entry_settings_iff {fields : Settings} :
    (∃ settings, entrySettings position label fields = .ok settings) ↔
      fields.either "operation_config" .nothing = .nothing ∨
        ∃ settings, fields.either "operation_config" .nothing = .dict settings := by
  unfold entrySettings
  cases fields.either "operation_config" .nothing <;> simp [fault]

theorem read_entry_fails (label : String) (position : Nat) (entry : Value) :
    FailsOnly (fun failure => failure.OfKinds [.value, .type] ∨
      failure.failureClass = .overflow ∧ AsksEndlessPlace entry) (readEntry label position entry) := by
  unfold readEntry
  split
  next fields =>
    dsimp only
    split
    · exact .failed (Or.inl (of_kind .value rfl (by decide)))
    next truthful =>
      refine .bind ?settings fun settings given => ?_
      case settings =>
        unfold entrySettings
        split
        · exact .answered _
        · exact .answered _
        · exact .failed (Or.inl (of_kind .value rfl (by decide)))
      refine .bind ?order fun order _ => .answered _
      refine (toInteger_fails _).weaken fun failure sorted => ?_
      rcases sorted with kinds | ⟨overflow, endless⟩
      · exact Or.inl kinds
      · exact Or.inr ⟨overflow, fields, rfl, by simpa using truthful,
          entry_settings_iff.mp ⟨settings, given⟩, endless_order.mp endless⟩
  next => exact .failed (Or.inl (of_kind .value rfl (by decide)))

theorem endless_unread {entry : Value} (label : String) (position : Nat)
    (endless : AsksEndlessPlace entry) :
    readEntry label position entry = .error (.operand .integerOfInfinity) := by
  obtain ⟨fields, rfl, truthful, readable, endless⟩ := endless
  obtain ⟨settings, given⟩ : ∃ settings, entrySettings position label fields = .ok settings :=
    entry_settings_iff.mpr readable
  simp only [readEntry, truthful, Bool.not_true, Bool.false_eq_true, ↓reduceIte, given, ok_bind,
    endless_refused (endless_order.mpr endless)]
  rfl

end Entries

/-! ## Definitions -/

def ReachesEndlessPlace (definition : Value) (label : String) : Prop :=
  ∃ front entry back written, definitionEntries definition label = .ok (front ++ entry :: back) ∧
    readEntries label 0 [] front = .ok written ∧ AsksEndlessPlace entry

section Definitions
variable {label : String}

/-- Reading entries fails just if it comes to one that cannot be read. -/
theorem read_entries_error_iff {position : Nat} {taken : List Row} {entries : List Value}
    {failure : Failure} :
    readEntries label position taken entries = .error failure ↔
      ∃ front entry back written, entries = front ++ entry :: back ∧
        readEntries label position taken front = .ok written ∧
        readEntry label (position + front.length) entry = .error failure := by
  induction entries generalizing position taken with
  | nil => simp [readEntries]
  | cons first rest ih =>
      rw [readEntries, bind_eq_error]
      constructor
      · rintro (failed | ⟨step, read, failed⟩)
        · exact ⟨[], first, rest, [], rfl, rfl, failed⟩
        · rcases bind_eq_error.mp failed with failed | ⟨later, _, impossible⟩
          · obtain ⟨front, entry, back, written, rfl, before, failed⟩ := ih.mp failed
            refine ⟨first :: front, entry, back, _, rfl,
              read_entries_cons.mpr ⟨step, written, read, before, rfl⟩, ?_⟩
            rw [List.length_cons, ← Nat.add_assoc, Nat.add_right_comm]
            exact failed
          · cases impossible
      · rintro ⟨front, entry, back, written, cut, before, failed⟩
        -- The entry that cannot be read is the first one, or it stands behind it.
        cases front with
        | nil =>
            cases cut
            exact Or.inl failed
        | cons _ front =>
            cases cut
            obtain ⟨step, later, read, before, _⟩ := read_entries_cons.mp before
            rw [List.length_cons, ← Nat.add_assoc, Nat.add_right_comm] at failed
            have stopped := ih.mpr ⟨front, entry, back, later, rfl, before, failed⟩
            exact Or.inr ⟨step, read, bind_eq_error.mpr (Or.inl stopped)⟩

theorem entries_fail (definition : Value) (label : String) :
    FailsOnly (·.OfKinds [.value, .type]) (definitionEntries definition label) := by
  unfold definitionEntries
  refine .bind ?loaded fun data _ => ?_
  case loaded =>
    unfold loadDefinition
    split
    · exact .answered _
    · split
      · exact .failed (of_kind .type rfl (by decide))
      · split
        · exact .answered _
        · exact .failed (of_kind .value rfl (by decide))
  split
  · exact .answered _
  · cases data <;> first | exact .answered _ | exact .failed (of_kind .type rfl (by decide))

/-- A definition that cannot be read is faulty in its form or in its types, or else reading comes to an
entry that asks for an infinite place. -/
theorem read_definition_fails (definition : Value) (label : String) :
    FailsOnly (fun failure => failure.OfKinds [.value, .type] ∨
      failure.failureClass = .overflow ∧ ReachesEndlessPlace definition label)
      (readDefinition definition label) := by
  rw [read_definition_sorts]
  refine .bind ((entries_fail definition label).weaken fun _ => Or.inl) fun entries items => ?_
  intro failure failed
  cases read : readEntries label 0 [] entries with
  | ok written =>
      rw [read] at failed
      cases failed
  | error found =>
      rw [read] at failed
      cases failed
      obtain ⟨front, entry, back, written, rfl, before, refused⟩ := read_entries_error_iff.mp read
      rcases read_entry_fails label _ entry _ refused with kinds | ⟨overflow, endless⟩
      · exact Or.inl kinds
      · exact Or.inr ⟨overflow, front, entry, back, written, items, before, endless⟩

theorem endless_place_unread {definition : Value} (reaches : ReachesEndlessPlace definition label) :
    readDefinition definition label = .error (.operand .integerOfInfinity) := by
  obtain ⟨front, entry, back, written, items, before, endless⟩ := reaches
  have stopped : readEntries label 0 [] (front ++ entry :: back) =
      .error (.operand .integerOfInfinity) :=
    read_entries_error_iff.mpr ⟨front, entry, back, written, rfl, before,
      endless_unread label _ endless⟩
  rw [read_definition_sorts, items, ok_bind, stopped]
  rfl

end Definitions

/-! ## Steps -/

/-- A value that can be looked up as a name, but has no small letters. -/
def Unspelled (operation : Value) : Prop :=
  operation.hashable = .ok () ∧ operation.writing? = none

example : Unspelled (.int 5) := ⟨rfl, rfl⟩

section Steps
variable {catalogue : Catalogue} {kind : Kind}

theorem unspelled_unnamed {operation : Value} (unspelled : Unspelled operation) :
    operation.name? = none ∧ Control.ofValue? operation = none := by
  have unwritten := unspelled.2
  constructor
  · cases operation <;> first | rfl | simp [Value.writing?] at unwritten
  · cases mark : Control.ofValue? operation with
    | none => rfl
    | some control =>
        obtain ⟨name, rfl⟩ := (isText_iff operation).mp (control_isText mark)
        simp at unwritten

/-- A form is not found because the name cannot be looked up or is not bound, or else because no message
can be made of it. -/
theorem find_fails (catalogue : Catalogue) (kind : Kind) (operation : Value) :
    FailsOnly (fun failure => failure.OfKinds [.type, .unknownOperation] ∨
      failure.failureClass = .attribute ∧ Unspelled operation) (catalogue.find kind operation) := by
  unfold Catalogue.find
  refine .bind ?hashed fun _ hashed => ?_
  case hashed =>
    exact (hashable_fails operation).weaken fun failure sorted =>
      Or.inl (ofKinds_more sorted (by simp))
  split
  · exact .answered _
  · rw [text_values, raise_unknown]
    cases written : operation.writing? with
    | none =>
        rw [Value.method, written]
        exact .failed (Or.inr ⟨rfl, hashed, written⟩)
    | some writing =>
        rw [Value.method, written]
        exact .failed (Or.inl (of_kind .unknownOperation rfl (by decide)))

theorem prepare_fails (form : Form) (entry name : Name) (settings : Settings) :
    FailsOnly (fun failure => failure.OfKinds [.configuration] ∨
      form.schemaFor name settings = .error failure) (form.prepare entry name settings) := by
  unfold Form.prepare
  refine .bind (fun failure refused => Or.inr refused) fun schema _ => ?_
  split
  · exact .answered _
  · exact .failed (Or.inl (of_kind .configuration rfl (by decide)))

theorem bridge_fails (chain : Chain Operation) :
    FailsOnly (·.OfKinds [.value, .type, .bridge]) chain.bridge := by
  intro failure failed
  rcases bridge_outcome chain with ⟨next, crossed, _⟩ | ⟨other, stopped, atBridge⟩ | mute
  · rw [crossed] at failed
    cases failed
  · rw [stopped] at failed
    cases failed
    cases failure <;> cases atBridge
    · exact of_kind .type rfl (by decide)
    · exact of_kind .bridge rfl (by decide)
  · rw [mute_bridge mute] at failed
    cases failed
    exact of_kind .value rfl (by decide)

/-- The form of a step refuses to make it, or to tell what it requires. -/
def Step.Refused (catalogue : Catalogue) (kind : Kind) (step : Step) (failure : Failure) : Prop :=
  Control.ofValue? step.operation = none ∧ ∃ name form, step.operation = Name.toValue name ∧
    catalogue.bound? kind name = some form ∧ unnameable kind name step.settings = false ∧
    form.schemaFor (reportedName kind name step.settings) step.settings = .error failure

theorem refused_step {chain : Chain Operation} {step : Step} {failure : Failure}
    (refused : step.Refused catalogue chain.kind failure) :
    chain.replayStep catalogue step = .error failure := by
  obtain ⟨plain, name, form, called, bound, nameable, refuses⟩ := refused
  rw [replay_plain plain, Chain.apply, called, step_named, nameable, bound]
  simp only [Bool.false_eq_true, ↓reduceIte, Form.prepare_eq, refuses, error_bind]
  rfl

theorem stepName_no_text {operation : Value} (noText : operation.isText = false) (kind : Kind)
    (settings : Settings) : stepName? kind operation settings = .ok none := by
  have different (label : String) : operation.same (.text label) = false := by
    cases operation <;> simp_all [Value.same, Value.isText, Value.chars?, Value.int?, Value.sameFloat]
  cases kind with
  | transformation => rfl
  | assertion => simp only [stepName?, different, Bool.false_eq_true, ↓reduceIte]

/-- A step of the catalogue that is not made is unknown or incomplete, or it cannot be named, or its form
refuses it, or else it is asked for by a value of which no message can be made. -/
theorem catalogue_step_fails (catalogue : Catalogue) (kind : Kind) (step : Step)
    (plain : Control.ofValue? step.operation = none) :
    FailsOnly (fun failure =>
      failure.OfKinds [.value, .type, .configuration, .unknownOperation, .bridge] ∨
        failure.failureClass = .attribute ∧ Unspelled step.operation ∨
          step.Refused catalogue kind failure)
      (catalogue.step kind step.operation step.settings) := by
  -- Only a text can name a step; what else is looked up is not bound.
  cases isText : step.operation.isText with
  | false =>
      rw [Catalogue.step, stepName_no_text isText, ok_bind, Catalogue.prepare]
      refine .bind ?found fun found same => ?unfound
      case found =>
        refine (find_fails catalogue kind step.operation).weaken fun failure sorted => ?_
        exact sorted.imp (fun kinds => ofKinds_more kinds (by simp)) Or.inl
      case unfound =>
        obtain ⟨_, _, chosen⟩ := bind_eq_ok.mp same
        split at chosen
        next given _ spelled _ =>
          rw [name?_toValue spelled, Value.isText, Name.toValue_chars?] at isText
          cases isText
        next =>
          obtain ⟨_, _, impossible⟩ := bind_eq_ok.mp chosen
          cases impossible
  | true =>
      obtain ⟨name, called⟩ := (isText_iff step.operation).mp isText
      rw [called, step_named]
      cases nameable : unnameable kind name step.settings with
      | true => exact .failed (Or.inl (of_kind .value rfl (by decide)))
      | false =>
          cases bound : catalogue.bound? kind name with
          | none => exact .failed (Or.inl (of_kind .unknownOperation rfl (by decide)))
          | some form =>
              refine (prepare_fails form name _ step.settings).weaken fun failure sorted => ?_
              rcases sorted with kinds | refuses
              · exact Or.inl (ofKinds_more kinds (by simp))
              · exact Or.inr (Or.inr ⟨plain, name, form, called, bound, nameable, refuses⟩)

/-- A step that is not replayed is misplaced, unknown or incomplete, or it cannot be named, or it is a
bridge that cannot be crossed, or its form refuses it, or else it is asked for by a value of which no
message can be made. -/
theorem replay_step_fails (catalogue : Catalogue) (chain : Chain Operation) (step : Step) :
    FailsOnly (fun failure =>
      failure.OfKinds [.value, .type, .configuration, .unknownOperation, .bridge] ∨
        failure.failureClass = .attribute ∧ Unspelled step.operation ∨
          step.Refused catalogue chain.kind failure)
      (chain.replayStep catalogue step) := by
  cases mark : Control.ofValue? step.operation with
  | some control =>
      rw [replay_control mark]
      split
      · cases control with
        | negate => exact .answered _
        | _ =>
            exact (bridge_fails chain).weaken fun failure sorted => Or.inl (ofKinds_more sorted (by simp))
      · exact .failed (Or.inl (of_kind .configuration rfl (by decide)))
  | none =>
      rw [replay_plain mark, Chain.apply]
      exact .map _ (catalogue_step_fails catalogue chain.kind step mark)

theorem unspelled_refused (catalogue : Catalogue) (chain : Chain Operation) {step : Step}
    (unspelled : Unspelled step.operation) :
    ∃ failure, chain.replayStep catalogue step = .error failure ∧
      failure.failureClass = .attribute := by
  obtain ⟨unnamed, plain⟩ := unspelled_unnamed unspelled
  have noText : step.operation.isText = false := Bool.eq_false_iff.mpr fun text => by
    obtain ⟨name, called⟩ := (isText_iff step.operation).mp text
    rw [called, Name.toValue_name?] at unnamed
    cases unnamed
  have missed : catalogue.find chain.kind step.operation =
      refuse (.noAttribute step.operation.faultName "lower") := by
    simp only [Catalogue.find, unspelled.1, ok_bind, unnamed, text_values, raise_unknown, Value.method,
      unspelled.2]
    rfl
  rw [replay_plain plain, Chain.apply, Catalogue.step, stepName_no_text noText, ok_bind,
    Catalogue.prepare, missed]
  exact ⟨_, rfl, rfl⟩

end Steps

/-! ## Builds -/

def ReachesUnspelled (catalogue : Catalogue) (chain : Chain Operation) (steps : List Step) : Prop :=
  ∃ (position : Nat) (step : Step) (reached : Chain Operation), steps[position]? = some step ∧
    Chain.replay catalogue chain (steps.take position) = .ok reached ∧ Unspelled step.operation

/-- Replaying comes to a step that its form refuses. -/
def ReachesRefusal (catalogue : Catalogue) (chain : Chain Operation) (steps : List Step)
    (failure : Failure) : Prop :=
  ∃ (position : Nat) (step : Step) (reached : Chain Operation), steps[position]? = some step ∧
    Chain.replay catalogue chain (steps.take position) = .ok reached ∧
    step.Refused catalogue reached.kind failure

/-- Building comes to a step that its form refuses. -/
def BuildRefused (catalogue : Catalogue) (subject definition mode : Value) (label : String)
    (failure : Failure) : Prop :=
  ∃ kind steps, kindOfMode mode = .ok kind ∧ subject.isText = true ∧
    readDefinition definition label = .ok steps ∧
    ReachesRefusal catalogue { kind, subject } steps failure

section Builds
variable {catalogue : Catalogue} {subject definition mode : Value} {label : String}

theorem replay_fails (catalogue : Catalogue) (chain : Chain Operation) (steps : List Step) :
    FailsOnly (fun failure =>
      failure.OfKinds [.value, .type, .configuration, .unknownOperation, .bridge] ∨
        failure.failureClass = .attribute ∧ ReachesUnspelled catalogue chain steps ∨
          ReachesRefusal catalogue chain steps failure)
      (Chain.replay catalogue chain steps) := by
  intro failure failed
  obtain ⟨position, step, reached, found, replayed, stopped⟩ := replay_error_iff.mp failed
  rcases replay_step_fails catalogue reached step failure stopped with
    kinds | ⟨wordless, unspelled⟩ | refused
  · exact Or.inl kinds
  · exact Or.inr (Or.inl ⟨wordless, position, step, reached, found, replayed, unspelled⟩)
  · exact Or.inr (Or.inr ⟨position, step, reached, found, replayed, refused⟩)

theorem unspelled_stops {chain : Chain Operation} {steps : List Step}
    (reaches : ReachesUnspelled catalogue chain steps) :
    ∃ failure, Chain.replay catalogue chain steps = .error failure ∧
      failure.failureClass = .attribute := by
  obtain ⟨position, step, reached, found, replayed, unspelled⟩ := reaches
  obtain ⟨failure, refused, wordless⟩ := unspelled_refused catalogue reached unspelled
  exact ⟨failure, replay_error_iff.mpr ⟨position, step, reached, found, replayed, refused⟩, wordless⟩

theorem unspelled_unrefused {chain : Chain Operation} {steps : List Step} {failure : Failure}
    (reaches : ReachesUnspelled catalogue chain steps) : ¬ ReachesRefusal catalogue chain steps failure := by
  obtain ⟨position, step, reached, found, replayed, unspelled⟩ := reaches
  rintro ⟨index, other, stopped, there, replayedThere, refuses⟩
  obtain ⟨broken, refused, _⟩ := unspelled_refused catalogue reached unspelled
  obtain rfl := stops_once ⟨step, reached, found, replayed, refused⟩
    ⟨other, stopped, there, replayedThere, refused_step refuses⟩
  cases found.symm.trans there
  obtain ⟨_, name, _, called, _⟩ := refuses
  have unnamed := (unspelled_unnamed unspelled).1
  rw [called, Name.toValue_name?] at unnamed
  cases unnamed

theorem refused_builds {failure : Failure}
    (refused : BuildRefused catalogue subject definition mode label failure) :
    Chain.build catalogue subject definition mode label = .error failure := by
  obtain ⟨kind, steps, started, isText, read, position, step, reached, found, replayed, refuses⟩ := refused
  rw [build_started catalogue definition label started isText, read, ok_bind]
  exact replay_error_iff.mpr ⟨position, step, reached, found, replayed, refused_step refuses⟩

theorem constructible_unrefused (constructible : catalogue.Constructible) (failure : Failure) :
    ¬ BuildRefused catalogue subject definition mode label failure := by
  rintro ⟨kind, steps, _, _, read, position, step, reached, found, _, _, name, form, called, bound, _,
    refuses⟩
  have truthful := read_definition_truthy read step (List.mem_of_getElem? found)
  rw [called] at truthful
  have nonempty : reportedName reached.kind name step.settings ≠ .text "" :=
    reportedName_nonempty (Name.ne_empty_of_truthy truthful)
  obtain ⟨schema, told⟩ := constructible reached.kind _ (Catalogue.bound?_mem bound) _ step.settings
    nonempty
  rw [told] at refuses
  cases refuses

theorem mode_fails (mode : Value) :
    FailsOnly (·.OfKinds [.value, .type, .configuration]) (kindOfMode mode) := by
  unfold kindOfMode
  refine .bind ?hashed fun _ _ => ?_
  case hashed =>
    exact (hashable_fails mode).weaken fun failure sorted => ofKinds_more sorted (by simp)
  split
  · exact .answered _
  · split
    · exact .answered _
    · refine .bind ?written fun _ _ => .failed (of_kind .configuration rfl (by decide))
      exact (writable_fails mode).weaken fun failure sorted => ofKinds_more sorted (by simp)

/-- Building fails with an error of one of five kinds, or else at an entry that asks for an infinite place,
at a step that is asked for by a value of which no message can be made, or at a step that its form
refuses. -/
theorem build_fails (catalogue : Catalogue) (subject definition mode : Value) (label : String) :
    FailsOnly (fun failure =>
      failure.OfKinds [.value, .type, .configuration, .unknownOperation, .bridge] ∨
        (∃ kind, kindOfMode mode = .ok kind ∧ subject.isText = true ∧
          (failure.failureClass = .overflow ∧ ReachesEndlessPlace definition label ∨
            ∃ steps, readDefinition definition label = .ok steps ∧
              failure.failureClass = .attribute ∧
              ReachesUnspelled catalogue { kind, subject } steps)) ∨
        BuildRefused catalogue subject definition mode label failure)
      (Chain.build catalogue subject definition mode label) := by
  unfold Chain.build
  refine .bind ?mode fun kind started => ?_
  case mode =>
    exact (mode_fails mode).weaken fun failure sorted => Or.inl (ofKinds_more sorted (by simp))
  by_cases isText : subject.isText = true
  · rw [Chain.start, if_pos isText, ok_bind]
    refine .bind ?read fun steps read => ?replay
    case read =>
      exact (read_definition_fails definition label).weaken fun failure sorted =>
        sorted.imp (fun kinds => ofKinds_more kinds (by simp)) fun endless =>
          Or.inl ⟨kind, started, isText, Or.inl endless⟩
    case replay =>
      refine (replay_fails catalogue _ steps).weaken fun failure sorted => ?_
      rcases sorted with kinds | unspelled | refused
      · exact Or.inl kinds
      · exact Or.inr (Or.inl ⟨kind, started, isText, Or.inr ⟨steps, read, unspelled⟩⟩)
      · exact Or.inr (Or.inr ⟨kind, steps, started, isText, read, refused⟩)
  · rw [Chain.start, if_neg isText]
    exact .failed (Or.inl (of_kind .type rfl (by decide)))

theorem apart_from_kinds {kinds : List ErrorKind} {failure : Failure} (sorted : failure.OfKinds kinds) :
    failure.failureClass ≠ .overflow ∧ failure.failureClass ≠ .attribute := by
  obtain ⟨kind, _, same⟩ := List.mem_map.mp sorted
  rw [← same]
  exact ⟨nofun, nofun⟩

end Builds

/-- A definition that cannot be read is faulty in its form or in its types, unless an entry asks for an
infinite place; then, and only then, there is an overflow. A chain that cannot be built fails for such a
reason, or with one of three kinds of errors more, unless replaying comes to a step that is asked for by a
value of which no message can be made; then, and only then, that value lacks an attribute. A form that
refuses a step is the one exception: building then fails with whatever it raises. No form does where steps
can always be made. -/
theorem parser_failures (catalogue : Catalogue) (subject definition mode : Value) (label : String) :
    FailsOnly (fun failure => failure.OfKinds [.value, .type] ∨ failure.failureClass = .overflow)
        (readDefinition definition label) ∧
      ((∃ failure, readDefinition definition label = .error failure ∧
        failure.failureClass = .overflow) ↔ ReachesEndlessPlace definition label) ∧
      FailsOnly (fun failure =>
          failure.OfKinds [.value, .type, .configuration, .unknownOperation, .bridge] ∨
            failure.failureClass = .overflow ∨ failure.failureClass = .attribute ∨
            BuildRefused catalogue subject definition mode label failure)
        (Chain.build catalogue subject definition mode label) ∧
      (∀ failure, BuildRefused catalogue subject definition mode label failure →
        ¬ catalogue.Constructible ∧
          Chain.build catalogue subject definition mode label = .error failure) ∧
      ((∃ failure, Chain.build catalogue subject definition mode label = .error failure ∧
        failure.failureClass = .overflow ∧
        ¬ BuildRefused catalogue subject definition mode label failure) ↔
          ∃ kind, kindOfMode mode = .ok kind ∧ subject.isText = true ∧
            ReachesEndlessPlace definition label) ∧
      ((∃ failure, Chain.build catalogue subject definition mode label = .error failure ∧
        failure.failureClass = .attribute ∧
        ¬ BuildRefused catalogue subject definition mode label failure) ↔
          ∃ kind steps, kindOfMode mode = .ok kind ∧ subject.isText = true ∧
            readDefinition definition label = .ok steps ∧
            ReachesUnspelled catalogue { kind, subject } steps) := by
  have reads := read_definition_fails definition label
  have builds := build_fails catalogue subject definition mode label
  refine ⟨?reading, ?endlessRead, ?building, ?refusing, ?endlessBuilt, ?unspelled⟩
  case reading => exact reads.weaken fun failure sorted => sorted.imp_right And.left
  case endlessRead =>
    constructor
    · rintro ⟨failure, failed, overflow⟩
      rcases reads failure failed with kinds | ⟨_, endless⟩
      · exact absurd overflow (apart_from_kinds kinds).1
      · exact endless
    · exact fun endless => ⟨_, endless_place_unread endless, rfl⟩
  case building =>
    refine builds.weaken fun failure sorted => sorted.imp_right ?_
    rintro (⟨_, _, _, ⟨overflow, _⟩ | ⟨_, _, wordless, _⟩⟩ | refused)
    · exact Or.inl overflow
    · exact Or.inr (Or.inl wordless)
    · exact Or.inr (Or.inr refused)
  case refusing =>
    exact fun failure refused =>
      ⟨fun constructible => constructible_unrefused constructible failure refused, refused_builds refused⟩
  case endlessBuilt =>
    constructor
    · rintro ⟨failure, failed, overflow, unrefused⟩
      rcases builds failure failed with
        kinds | ⟨kind, started, isText, ⟨_, endless⟩ | ⟨_, _, other, _⟩⟩ | refused
      · exact absurd overflow (apart_from_kinds kinds).1
      · exact ⟨kind, started, isText, endless⟩
      · rw [other] at overflow
        cases overflow
      · exact absurd refused unrefused
    · rintro ⟨kind, started, isText, endless⟩
      refine ⟨.operand .integerOfInfinity, ?_, rfl, ?_⟩
      · rw [build_started catalogue definition label started isText, endless_place_unread endless]
        rfl
      · rintro ⟨_, steps, _, _, read, _⟩
        rw [endless_place_unread endless] at read
        cases read
  case unspelled =>
    constructor
    · rintro ⟨failure, failed, wordless, unrefused⟩
      rcases builds failure failed with
        kinds | ⟨kind, started, isText, ⟨other, _⟩ | ⟨steps, read, _, unspelled⟩⟩ | refused
      · exact absurd wordless (apart_from_kinds kinds).2
      · rw [other] at wordless
        cases wordless
      · exact ⟨kind, steps, started, isText, read, unspelled⟩
      · exact absurd refused unrefused
    · rintro ⟨kind, steps, started, isText, read, unspelled⟩
      obtain ⟨failure, stopped, wordless⟩ := unspelled_stops unspelled
      refine ⟨failure, ?_, wordless, ?_⟩
      · rw [build_started catalogue definition label started isText, read, ok_bind, stopped]
      · rintro ⟨_, _, startedToo, _, readToo, refused⟩
        cases started.symm.trans startedToo
        cases read.symm.trans readToo
        exact unspelled_unrefused unspelled refused

end TextChain
