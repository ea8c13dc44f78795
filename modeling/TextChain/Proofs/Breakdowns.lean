import TextChain.Proofs.JsonValues
import TextChain.Proofs.Refusals

/-!
Checks that break off. The check of a definition answers with its issues but for three sorts of
definitions: a text that has an integer of too many digits, a text that is one number, and entries of which
one asks for an operation that can be no key or that is an integer of too many digits. Of what a catalogue
holds, only forms make a difference that tell no schema to a step without settings.
-/

namespace TextChain

/-! ## Entries -/

/-- An entry of which nothing can be said: what it asks for can be no key, as a list or a dictionary, or it
is not known and cannot be written into a message, or else the form that is bound to it tells no schema to a
step without settings. -/
def BreaksWith (catalogue : Catalogue) (kind : Kind) (entry : Value) (failure : Failure) : Prop :=
  ∃ fields operation, entry = .dict fields ∧ Settings.either fields "operation" .nothing = operation ∧
    operation.truthy = true ∧
    (operation.hashable = .error failure ∨
      operation.hashable = .ok () ∧ operation.writable = .error failure ∨
      Control.ofValue? operation = none ∧ ∃ name form, operation = Name.toValue name ∧
        catalogue.bound? kind name = some form ∧ form.schemaFor name [] = .error failure)

section Entries
variable {catalogue : Catalogue} {kind : Kind} {operation : Value} {failure : Failure}

theorem texts_tell (isText : operation.isText = true) :
    operation.hashable = .ok () ∧ operation.writable = .ok () := by
  obtain ⟨name, rfl⟩ := (isText_iff operation).mp isText
  exact ⟨Name.toValue_hashable name, Name.toValue_writable name⟩

theorem operation_breaks_iff (fields : Settings) :
    operationIssues catalogue kind operation fields = .error failure ↔
      operation.hashable = .error failure ∨
        operation.hashable = .ok () ∧ operation.writable = .error failure ∨
        ∃ name form, operation = Name.toValue name ∧ catalogue.bound? kind name = some form ∧
          form.schemaFor name [] = .error failure := by
  cases isText : operation.isText with
  | true =>
      obtain ⟨name, rfl⟩ := (isText_iff operation).mp isText
      simp only [Name.toValue_hashable, Name.toValue_writable, reduceCtorEq, and_false, false_or]
      constructor
      · intro broken
        obtain ⟨form, bound, untold⟩ := operation_untold broken
        exact ⟨name, form, rfl, bound, untold⟩
      · rintro ⟨other, form, same, bound, untold⟩
        obtain rfl := toValue_inj same
        simp [operationIssues, knows_bound, bound, schema_bound bound, untold]
  | false =>
      have noName (name : Name) (called : operation = name.toValue) : False := by
        rw [called, Value.isText, Name.toValue_chars?] at isText
        cases isText
      have unnamed : ¬ ∃ name form, operation = Name.toValue name ∧
          catalogue.bound? kind name = some form ∧ form.schemaFor name [] = .error failure := by
        rintro ⟨name, _, called, _⟩
        exact noName name called
      simp only [unnamed, or_false]
      cases hashed : operation.hashable with
      | error other => simp [operationIssues, Catalogue.knows, hashed]
      | ok _ =>
          cases asked : catalogue.knows kind operation with
          | error other => simp [Catalogue.knows, hashed] at asked
          | ok known =>
              cases known with
              | false =>
                  simp only [operationIssues, asked, ok_bind, Bool.not_false, ↓reduceIte]
                  cases operation.writable <;> simp
              | true =>
                  obtain ⟨name, form, called, _⟩ := knows_name asked
                  exact (noName name called).elim

theorem entry_breaks_iff (catalogue : Catalogue) (kind : Kind) (entry : Value) :
    entryIssues catalogue kind entry = .error failure ↔ BreaksWith catalogue kind entry failure := by
  unfold entryIssues BreaksWith
  split
  next fields =>
    simp only [Value.dict.injEq, exists_and_left, exists_eq_left']
    cases truthful : (Settings.either fields "operation" .nothing).truthy with
    | false => simp
    | true =>
        simp only [Bool.not_true, Bool.false_eq_true, ↓reduceIte, true_and]
        cases mark : Control.ofValue? (Settings.either fields "operation" .nothing) with
        | some control =>
            obtain ⟨hashed, written⟩ := texts_tell (control_isText mark)
            simp [hashed, written]
        | none =>
            simp only [true_and, ← exists_and_left, ← operation_breaks_iff fields]
            cases operationIssues catalogue kind (Settings.either fields "operation" .nothing) fields
            <;> simp [Except.map]
  next other =>
    refine iff_of_false nofun ?_
    rintro ⟨fields, _, same, _⟩
    exact other fields same

def Catalogue.Untold (catalogue : Catalogue) (failure : Failure) : Prop :=
  ∃ kind name form, name ≠ .text "" ∧ catalogue.bound? kind name = some form ∧
    form.schemaFor name [] = .error failure

theorem breaks_of_kinds {entry : Value} (breaks : BreaksWith catalogue kind entry failure) :
    failure.OfKinds [.value, .type] ∨ catalogue.Untold failure := by
  obtain ⟨_, _, _, _, truthful, unkeyed | ⟨_, unwritten⟩ | ⟨_, name, form, rfl, bound, untold⟩⟩ := breaks
  · exact Or.inl (ofKinds_more (hashable_fails _ failure unkeyed) (by simp))
  · exact Or.inl (ofKinds_more (writable_fails _ failure unwritten) (by simp))
  · exact Or.inr ⟨kind, name, form, Name.ne_empty_of_truthy truthful, bound, untold⟩

/-- The first entry of which nothing can be said, with what the check breaks off at it. -/
def BreaksAt (catalogue : Catalogue) (kind : Kind) (entries : List Value) (failure : Failure) : Prop :=
  ∃ front entry back, entries = front ++ entry :: back ∧
    (∀ before other behind, front = before ++ other :: behind →
      ∀ found, ¬ BreaksWith catalogue (kindAfter kind before) other found) ∧
    BreaksWith catalogue (kindAfter kind front) entry failure

theorem breaksAt_cons {entry : Value} {rest : List Value} :
    BreaksAt catalogue kind (entry :: rest) failure ↔
      BreaksWith catalogue kind entry failure ∨
        (∀ found, ¬ BreaksWith catalogue kind entry found) ∧
          BreaksAt catalogue (leadsOn kind entry) rest failure := by
  constructor
  · rintro ⟨front, broken, back, cut, sturdy, breaks⟩
    cases front with
    | nil =>
        cases cut
        exact Or.inl breaks
    | cons _ front =>
        cases cut
        refine Or.inr ⟨sturdy [] entry front rfl, front, broken, back, rfl, ?_, breaks⟩
        rintro before other behind rfl
        exact sturdy (entry :: before) other behind rfl
  · rintro (breaks | ⟨here, front, broken, back, rfl, sturdy, breaks⟩)
    · exact ⟨[], entry, rest, rfl, by simp, breaks⟩
    · refine ⟨entry :: front, broken, back, rfl, ?_, breaks⟩
      intro before other behind cut
      cases before with
      | nil =>
          cases cut
          exact here
      | cons _ before =>
          cases cut
          exact sturdy before other behind rfl

/-- Issues do not stop the check, so it comes to every entry before the first that breaks it off. -/
theorem issues_break_iff (position : Nat) (kind : Kind) (entries : List Value) :
    issuesFrom catalogue position kind entries = .error failure ↔
      BreaksAt catalogue kind entries failure := by
  induction entries generalizing position kind with
  | nil => simp [issuesFrom, BreaksAt]
  | cons entry rest ih =>
      rw [breaksAt_cons, issuesFrom, bind_eq_error, ← entry_breaks_iff catalogue kind entry]
      cases checked : entryIssues catalogue kind entry with
      | error found =>
          have breaks := (entry_breaks_iff catalogue kind entry).mp checked
          constructor
          · rintro (same | ⟨_, impossible, _⟩)
            · exact Or.inl same
            · cases impossible
          · rintro (same | ⟨sturdy, _⟩)
            · exact Or.inl same
            · exact absurd breaks (sturdy found)
      | ok found =>
          obtain ⟨issues, next⟩ := found
          have sturdy (found : Failure) : ¬ BreaksWith catalogue kind entry found := by
            intro breaks
            cases checked.symm.trans ((entry_breaks_iff catalogue kind entry).mpr breaks)
          obtain rfl := checked_leads checked
          rw [← ih (position + 1)]
          constructor
          · rintro (impossible | ⟨_, same, failed⟩)
            · cases impossible
            · cases same
              refine Or.inr ⟨sturdy, ?_⟩
              rcases bind_eq_error.mp failed with failed | ⟨_, _, impossible⟩
              · exact failed
              · cases impossible
          · rintro (impossible | ⟨_, failed⟩)
            · cases impossible
            · exact Or.inr ⟨_, rfl, bind_eq_error.mpr (Or.inl failed)⟩

end Entries

/-! ## Definitions -/

/-- What the check of a definition breaks off with. -/
inductive BreaksOff (catalogue : Catalogue) (kind : Kind) (definition : Value) : Failure → Prop
  | overlong {count : Nat}
      (read : loadDefinition definition "" = fault (.malformed "" (.tooManyDigits count))) :
      BreaksOff catalogue kind definition (.definition (.malformed "" (.tooManyDigits count)))
  | number {data : Value} (loaded : loadDefinition definition "" = .ok data)
      (truthful : data.truthy = true) (number : data.isNumber = true) :
      BreaksOff catalogue kind definition (.operand (.notIterable data.faultName))
  | entry {entries : List Value} {failure : Failure}
      (items : definitionEntries definition "" = .ok entries)
      (breaks : BreaksAt catalogue kind entries failure) :
      BreaksOff catalogue kind definition failure

section Definitions
variable {catalogue : Catalogue} {kind : Kind} {definition mode : Value} {failure : Failure}

theorem breaksOff_of_kinds (breaks : BreaksOff catalogue kind definition failure) :
    failure.OfKinds [.value, .type] ∨ catalogue.Untold failure := by
  cases breaks with
  | overlong => exact Or.inl (of_kind .value rfl (by decide))
  | number => exact Or.inl (of_kind .type rfl (by decide))
  | entry _ breaks =>
      obtain ⟨_, _, _, _, _, broken⟩ := breaks
      exact breaks_of_kinds broken

/-- Data that was loaded and counts as true is a number, or else it has items. -/
theorem loaded_items {data : Value} {label : String}
    (loaded : loadDefinition definition label = .ok data) (truthful : data.truthy = true) :
    data.items = .error failure ↔
      data.isNumber = true ∧ failure = .operand (.notIterable data.faultName) := by
  unfold loadDefinition at loaded
  split at loaded
  next items =>
    cases loaded
    simp [Value.items, Value.isNumber]
  next =>
    split at loaded
    · cases loaded
    · split at loaded
      next read =>
        cases loaded
        exact json_items (ofJson_json read) truthful
      next => cases loaded

theorem loaded_breaks_iff {data : Value} (loaded : loadDefinition definition "" = .ok data) :
    dataIssues catalogue kind data = .error failure ↔ BreaksOff catalogue kind definition failure := by
  have entries : definitionEntries definition "" = if !data.truthy then .ok [] else data.items := by
    rw [definitionEntries, loaded, ok_bind]
  unfold dataIssues
  constructor
  · intro failed
    split at failed
    · cases failed
    next truthful =>
      rw [Bool.not_eq_true', Bool.not_eq_false] at truthful
      rcases bind_eq_error.mp failed with unlisted | ⟨listed, items, broken⟩
      · obtain ⟨number, rfl⟩ := (loaded_items loaded truthful).mp unlisted
        exact .number loaded truthful number
      · refine .entry (entries.trans ?_) ((issues_break_iff 0 kind listed).mp broken)
        rw [truthful]
        exact items
  · intro breaks
    cases breaks with
    | overlong read =>
        rw [loaded] at read
        cases read
    | @number other loadedToo truthful number =>
        cases loaded.symm.trans loadedToo
        rw [truthful, (loaded_items loaded truthful).mpr ⟨number, rfl⟩]
        rfl
    | @entry listed _ items breaks =>
        rw [entries] at items
        split at items
        · cases items
          obtain ⟨front, _, _, cut, _⟩ := breaks
          simp at cut
        next truthful =>
          rw [if_neg truthful, items, ok_bind]
          exact (issues_break_iff 0 kind listed).mpr breaks

/-- A definition of which nothing is loaded has one issue, unless a number in it is too long. -/
theorem unloaded_breaks_iff {refused : Failure} (started : kindOfMode mode = .ok kind)
    (unread : loadDefinition definition "" = .error refused) :
    validate catalogue definition mode = .error failure ↔ BreaksOff catalogue kind definition failure := by
  have overlong : BreaksOff catalogue kind definition failure ↔
      ∃ count, refused = .definition (.malformed "" (.tooManyDigits count)) ∧ failure = refused := by
    constructor
    · intro breaks
      cases breaks with
      | overlong read =>
          rw [unread] at read
          cases read
          exact ⟨_, rfl, rfl⟩
      | number loaded =>
          rw [unread] at loaded
          cases loaded
      | entry items =>
          rw [definitionEntries, unread] at items
          cases items
    · rintro ⟨count, rfl, rfl⟩
      exact .overlong unread
  rw [overlong, validate, started]
  unfold loadDefinition at unread
  cases definition with
  | list items => cases unread
  | _ =>
      dsimp only at unread ⊢
      generalize Value.chars? _ = chars at unread ⊢
      cases chars with
      | none =>
          cases unread
          simp
      | some text =>
          dsimp only at unread ⊢
          cases parsed : Value.ofJson? (String.ofList text) with
          | ok data => simp only [parsed] at unread; cases unread
          | error error =>
              simp only [parsed] at unread
              cases unread
              cases error <;> simp [fault, eq_comm]

theorem validate_breaks_iff (started : kindOfMode mode = .ok kind) :
    validate catalogue definition mode = .error failure ↔ BreaksOff catalogue kind definition failure := by
  cases loaded : loadDefinition definition "" with
  | error refused => exact unloaded_breaks_iff started loaded
  | ok data =>
      rw [validate_loaded started loaded]
      exact loaded_breaks_iff loaded

end Definitions

theorem mode_cases (mode : Name) :
    mode.label ∈ modeLabels ∧ (∃ kind, kindOfMode mode.toValue = .ok kind) ∨
      mode.label ∉ modeLabels ∧
        kindOfMode mode.toValue =
          .error (.configuration (.unknownMode mode.toValue) .nothing .nothing .nothing) := by
  simp only [kindOfMode, Name.toValue_hashable, ok_bind, same_text, beq_iff_eq, modeLabels, List.mem_cons,
    List.not_mem_nil, or_false, Name.toValue_writable]
  by_cases transform : mode.label = "transform"
  · exact Or.inl ⟨Or.inl transform, .transformation, if_pos transform⟩
  · by_cases assertion : mode.label = "assert"
    · exact Or.inl ⟨Or.inr assertion, .assertion, by rw [if_neg transform, if_pos assertion]⟩
    · refine Or.inr ⟨fun either => either.elim transform assertion, ?_⟩
      rw [if_neg transform, if_neg assertion]

/-- The check of a definition breaks off with an error of a value or of a type, and only if the mode is
known: at an integer that is too long to be read, at data that is one number, or at the first entry of which
nothing can be said. A catalogue makes a difference only if it has a form that tells no schema to a step
without settings; then the check can break off with what that form raises. -/
theorem checks_answer_unless_broken_off (catalogue : Catalogue) (definition : Value) (mode : Name) :
    (mode.label ∈ modeLabels ↔ ∃ kind, kindOfMode mode.toValue = .ok kind) ∧
    (∀ failure, validate catalogue definition mode.toValue = .error failure ↔
      ∃ kind, kindOfMode mode.toValue = .ok kind ∧ BreaksOff catalogue kind definition failure) ∧
    FailsOnly (fun failure => failure.OfKinds [.value, .type] ∨ catalogue.Untold failure)
      (validate catalogue definition mode.toValue) := by
  have broken (failure : Failure) : validate catalogue definition mode.toValue = .error failure ↔
      ∃ kind, kindOfMode mode.toValue = .ok kind ∧ BreaksOff catalogue kind definition failure := by
    rcases mode_cases mode with ⟨_, kind, started⟩ | ⟨_, refused⟩
    · rw [validate_breaks_iff started, started]
      simp only [Except.ok.injEq, exists_eq_left']
    · rw [validate, refused]
      refine iff_of_false nofun ?_
      rintro ⟨kind, started, _⟩
      cases started
  refine ⟨?known, broken, fun failure failed => ?kinds⟩
  case known =>
    rcases mode_cases mode with ⟨known, starts⟩ | ⟨unknown, refused⟩
    · exact iff_of_true known starts
    · refine iff_of_false unknown ?_
      rintro ⟨kind, started⟩
      rw [refused] at started
      cases started
  case kinds =>
    obtain ⟨kind, _, breaks⟩ := (broken failure).mp failed
    exact breaksOff_of_kinds breaks

example : validate .builtIn (.list [.dict [("operation", .list [.text "trim"])]]) (.text "transform") =
    .error (.operand (.unhashable "list")) := rfl

end TextChain
