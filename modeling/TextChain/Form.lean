import TextChain.Substitution

/-!
Operations and what they are made from. A form stands for a class of operations: how a step of its sort
is named in reports, which settings it takes, how it is made and what it does; an operation is one such
step with a name and settings. A form may make its steps and tell their schemas in a way of its own. Forms
that change from call to call are left out, as are those that log their steps in another way.
-/

namespace TextChain

inductive Kind where
  | transformation
  | assertion
  deriving DecidableEq, Repr

def Kind.label : Kind → String
  | .transformation => "transformation"
  | .assertion => "assertion"

def Kind.all : List Kind := [.transformation, .assertion]

/-! ## Settings a form takes -/

inductive ParameterType where
  | text
  | integer
  | flag
  | real
  | list
  | dict
  | callable
  | any
  | other (label : String)
  deriving DecidableEq, Repr

def ParameterType.label : ParameterType → String
  | .text => "str"
  | .integer => "int"
  | .flag => "bool"
  | .real => "float"
  | .list => "list"
  | .dict => "dict"
  | .callable => "callable"
  | .any => "any"
  | .other label => label

/-- Whether a value has a type. Truth values are integers and integers are real numbers; a type that is
not known admits every value. -/
def ParameterType.admits : ParameterType → Value → Bool
  | .text, value => value.isText
  | .integer, value => value.int?.isSome
  | .flag, .bool _ => true
  | .flag, _ => false
  | .real, .float _ => true
  | .real, value => value.int?.isSome
  | .list, .list _ => true
  | .list, .tuple _ => true
  | .list, _ => false
  | .dict, .dict _ => true
  | .dict, _ => false
  | .callable, .routine _ _ => true
  | .callable, _ => false
  | .any, _ => true
  | .other _, _ => true

structure Parameter where
  name : String
  type : Option ParameterType := none
  description : Option String := none
  standard : Option Value := none
  sample : Option Value := none

def Parameter.admits (parameter : Parameter) (value : Value) : Bool :=
  match parameter.type with
  | some type => type.admits value
  | none => true

structure Schema where
  required : List Parameter := []
  optional : List Parameter := []

def optionalEntry (name : String) (value : Option Value) : Settings :=
  match value with
  | some value => [(name, value)]
  | none => []

def Parameter.toEntry (parameter : Parameter) : String × Value :=
  (parameter.name, .dict
    (optionalEntry "type" (parameter.type.map fun type => .text type.label) ++
      optionalEntry "description" (parameter.description.map .text) ++
      optionalEntry "default" parameter.standard ++
      optionalEntry "example" parameter.sample))

def Schema.toValue (schema : Schema) : Value :=
  .dict [("required", .dict (schema.required.map Parameter.toEntry)),
    ("optional", .dict (schema.optional.map Parameter.toEntry))]

def Schema.parameters (schema : Schema) : List Parameter :=
  schema.required ++ schema.optional

def Schema.missing (schema : Schema) (settings : Settings) : List String :=
  (schema.required.map (·.name)).filter fun name => !settings.has name

def Schema.samples (schema : Schema) : Settings :=
  schema.parameters.filterMap fun parameter =>
    parameter.sample.map fun sample => (parameter.name, sample)

/-! ## Forms -/

inductive Remark where
  | note (line : String)
  | complaint (line : String)
  | sighting (value : Value)

/-- Forms are made for one kind of step. A loose form is counted as steps of its kind, but its steps
cannot be negated. -/
inductive Family where
  | transformation
  | assertion
  | loose (kind : Kind)
  deriving DecidableEq, Repr

def Family.kind : Family → Kind
  | .transformation => .transformation
  | .assertion => .assertion
  | .loose kind => kind

def requireName (name : Name) (_ : Settings) : Outcome Unit :=
  if name = .text "" then .error (.configuration .emptyName .nothing .nothing .nothing) else .ok ()

/-- Two forms may share a label; the serial number is what tells such forms apart. A form that is no class
cannot be called, and its label is the name of its type. A form may have a constructor of its own, which
refuses names and settings as it likes, and tell another schema to each of its steps. -/
structure Form where
  label : String
  serial : Nat := 0
  isClass : Bool := true
  family : Family
  summary : String
  schema : Schema := {}
  construct : Name → Settings → Outcome Unit := requireName
  tellSchema : Name → Settings → Outcome Schema := fun _ _ => .ok schema
  work : Name → Settings → Value → Outcome Value
  remarks : Name → Settings → Value → List Remark := fun _ _ _ => []

def Form.identity (form : Form) : String × Nat := (form.label, form.serial)

/-- A recorded step. The mark of negation is absent where a form has none. -/
structure Operation where
  form : Form
  name : Name
  settings : Settings := []
  negated : Option Bool := none

namespace Form

def operation (form : Form) (name : Name) (settings : Settings) : Operation :=
  { form, name, settings
    negated := match form.family with
      | .assertion => some false
      | _ => none }

def make (form : Form) (name : Name) (settings : Settings) : Outcome Operation :=
  if form.isClass then (form.construct name settings).map fun _ => form.operation name settings
  else refuse (.notCallable form.label)

/-- The schema that a step tells once it is made. -/
def schemaFor (form : Form) (name : Name) (settings : Settings) : Outcome Schema := do
  let _ ← form.make name settings
  form.tellSchema name settings

/-- A step whose required settings are all given. `entry` is the name under which the form was found. -/
def prepare (form : Form) (entry name : Name) (settings : Settings) : Outcome Operation := do
  let schema ← form.schemaFor name settings
  match schema.missing settings with
  | [] => .ok (form.operation name settings)
  | missing =>
      .error (.configuration (.missing missing) entry.toValue schema.toValue (.dict settings))

end Form

namespace Operation

def kind (operation : Operation) : Kind := operation.form.family.kind

def isNegated (operation : Operation) : Bool := operation.negated.getD false

def negate (operation : Operation) : Operation := { operation with negated := some true }

def execute (operation : Operation) (value : Value) : Outcome Value := do
  let answer ← operation.form.work operation.name operation.settings value
  match operation.form.family with
  -- An answer that is no truth value stays as it is, unless it is turned over.
  | .assertion => if operation.isNegated then .ok (.bool !answer.truthy) else .ok answer
  | _ => .ok answer

def remarks (operation : Operation) (value : Value) : List Remark :=
  operation.form.remarks operation.name operation.settings value

def shown (operation : Operation) : String :=
  let mark := match operation.form.family with
    | .assertion => if operation.isNegated then ", negated" else ""
    | _ => ""
  "<" ++ operation.form.label ++ "(name=" ++ operation.name.plain ++ ", type=" ++ operation.kind.label ++
    mark ++ ")>"

end Operation

/-! ## Settings of a running step -/

def Settings.need (settings : Settings) (name : String) : Outcome Value :=
  match settings.get? name with
  | some value => .ok value
  | none => .error (.raised .key [.text name])

def Settings.either (settings : Settings) (name : String) (standard : Value) : Value :=
  (settings.get? name).getD standard

end TextChain
