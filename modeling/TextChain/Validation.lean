import TextChain.Definition

/-!
The check of the parser, which builds nothing. Entries are checked in the order in which they are written,
each against the kind of chain that it would be replayed on; their places are not looked at. The outcome
is a list of issues.
-/

namespace TextChain

inductive EntryIssue where
  | notObject (type : String)
  | noOperation
  | misplaced (control : Control)
  | unknown (kind : Kind) (operation : Value)
  | settingsType (operation : Value)
  | missing (operation : Value) (parameter : String)
  | wrongType (operation : Value) (parameter type : String)
  | unexpected (operation : Value) (parameter : String)

def EntryIssue.message (issue : EntryIssue) (position : Nat) : String :=
  let step := "Step " ++ toString position
  let named := fun operation : Value => step ++ " (" ++ operation.plain ++ "): "
  match issue with
  | .notObject type => step ++ ": Expected dict, got " ++ type
  | .noOperation => step ++ ": Missing required 'operation' field"
  | .misplaced control => step ++ ": " ++ control.misplaced.message
  | .unknown kind operation => step ++ ": Unknown " ++ kind.label ++ " '" ++ operation.plain ++ "'"
  | .settingsType operation => named operation ++ "'operation_config' must be a dict"
  | .missing operation parameter =>
      named operation ++ "Missing required config '" ++ parameter ++ "'"
  | .wrongType operation parameter type =>
      named operation ++ "Config '" ++ parameter ++ "' has invalid type, expected " ++ type
  | .unexpected operation parameter => named operation ++ "Unknown config '" ++ parameter ++ "'"

inductive Issue where
  | mode (reason : ConfigurationReason)
  | malformed (error : JsonError)
  | wrongType (type : String)
  | empty
  | entry (position : Nat) (issue : EntryIssue)

def Issue.message : Issue → String
  | .mode reason => reason.message
  | .malformed error => "Invalid JSON: " ++ error.message
  | .wrongType type => "Expected JSON string or list, got " ++ type
  | .empty => "Chain cannot be empty"
  | .entry position issue => issue.message position

/-! ## Settings against a schema -/

def Parameter.typeLabel (parameter : Parameter) : String :=
  match parameter.type with
  | some type => type.label
  | none => "None"

/-- A required parameter has to be there with a value of its type. -/
def requiredIssue? (operation : Value) (settings : Settings) (parameter : Parameter) :
    Option EntryIssue :=
  match settings.get? parameter.name with
  | none => some (.missing operation parameter.name)
  | some value =>
      if parameter.admits value then none
      else some (.wrongType operation parameter.name parameter.typeLabel)

def settingIssues (operation : Value) (schema : Schema) (settings : Settings) : List EntryIssue :=
  let known := schema.parameters.map (·.name)
  schema.required.filterMap (requiredIssue? operation settings) ++
    (settings.filter fun setting => !known.contains setting.1).map fun setting =>
      .unexpected operation setting.1

/-! ## Entries -/

/-- The kind of chain after an entry: a bridge leads to the other kind, wherever it stands. -/
def Control.leadsTo (control : Control) (kind : Kind) : Kind :=
  match control with
  | .negate => kind
  | .toAssertion => .assertion
  | .toTransformation => .transformation

def controlIssues (control : Control) (kind : Kind) : List EntryIssue :=
  if control.home = kind then [] else [.misplaced control]

def operationIssues (catalogue : Catalogue) (kind : Kind) (operation : Value) (fields : Settings) :
    Outcome (List EntryIssue) := do
  let known ← catalogue.knows kind operation
  if !known then do
    operation.writable
    .ok [.unknown kind operation]
  else
    let schema ← catalogue.schema kind operation
    match fields.either "operation_config" (.dict []) with
    | .dict settings => .ok (settingIssues operation schema settings)
    -- Nothing counts as no settings when an entry is read, but not here.
    | _ => .ok [.settingsType operation]

/-- The issues of an entry, with the kind of chain that the next entry finds. -/
def entryIssues (catalogue : Catalogue) (kind : Kind) (entry : Value) :
    Outcome (List EntryIssue × Kind) :=
  match entry with
  | .dict fields =>
      let operation := Settings.either fields "operation" .nothing
      if !operation.truthy then .ok ([.noOperation], kind)
      else
        match Control.ofValue? operation with
        | some control => .ok (controlIssues control kind, control.leadsTo kind)
        | none => (operationIssues catalogue kind operation fields).map fun issues => (issues, kind)
  | other => .ok ([.notObject other.typeName], kind)

def issuesFrom (catalogue : Catalogue) (position : Nat) (kind : Kind) :
    List Value → Outcome (List Issue)
  | [] => .ok []
  | entry :: rest => do
      let (issues, next) ← entryIssues catalogue kind entry
      let later ← issuesFrom catalogue (position + 1) next rest
      .ok (issues.map (.entry position) ++ later)

/-! ## Definitions -/

def dataIssues (catalogue : Catalogue) (kind : Kind) (data : Value) : Outcome (List Issue) :=
  if !data.truthy then .ok [.empty]
  else do
    let entries ← data.items
    issuesFrom catalogue 0 kind entries

def validate (catalogue : Catalogue) (definition mode : Value) : Outcome (List Issue) :=
  match kindOfMode mode with
  | .error (.configuration reason _ _ _) => .ok [.mode reason]
  | .error failure => .error failure
  | .ok kind =>
      match definition with
      | .list items => dataIssues catalogue kind (.list items)
      | definition =>
          match definition.chars? with
          | none => .ok [.wrongType definition.typeName]
          | some text =>
              match Value.ofJson? (String.ofList text) with
              | .ok data => dataIssues catalogue kind data
              -- No fault of the text: the check itself fails on an integer of too many digits.
              | .error (.tooManyDigits count) => fault (.malformed "" (.tooManyDigits count))
              | .error error => .ok [.malformed error]

end TextChain
