import TextChain.Checks

/-!
The registry of operations: registration, lookup, description and listing of forms. Each kind of step has
a list of names of its own, in the order in which they were first registered, so one name can mean a
transformation and an assertion. Only texts are registered as names. The one registry that the library
shares is a value here, which each call hands on.
-/

namespace TextChain

structure Catalogue where
  transformations : List (String × Form)
  assertions : List (String × Form)

/-- Binds a name. A name that is bound already keeps its place and gets the new form. -/
def bindForm (name : String) (form : Form) : List (String × Form) → List (String × Form)
  | [] => [(name, form)]
  | entry :: rest =>
      if entry.1 == name then (name, form) :: rest else entry :: bindForm name form rest

/-- The entries whose form was not bound to an earlier name. `seen` holds the forms met so far. -/
def firstBindings (seen : List (String × Nat)) : List (String × Form) → List (String × Form)
  | [] => []
  | entry :: rest =>
      if seen.contains entry.2.identity then firstBindings seen rest
      else entry :: firstBindings (entry.2.identity :: seen) rest

def Kind.ofValue (type : Value) : Outcome Kind :=
  match Kind.all.find? fun kind => type.same (.text kind.label) with
  | some kind => .ok kind
  | none => do
      type.writable
      .error (.configuration (.unknownKind type) .nothing .nothing .nothing)

/-- The kind with a given label; other values are none of its members. -/
def Kind.labelled (label : Value) : Outcome Kind :=
  match Kind.all.find? fun kind => label.same (.text kind.label) with
  | some kind => .ok kind
  | none => refuse (.notAMember label.shown "OperationType")

def Edit.Chance.catalogue (chance : Edit.Chance) : Catalogue := ⟨Edit.all chance, Check.all⟩

namespace Catalogue

def builtIn : Catalogue := Edit.Chance.standing.catalogue

def entries (catalogue : Catalogue) : Kind → List (String × Form)
  | .transformation => catalogue.transformations
  | .assertion => catalogue.assertions

def names (catalogue : Catalogue) (kind : Kind) : List String :=
  (catalogue.entries kind).map (·.1)

def bind (catalogue : Catalogue) (kind : Kind) (name : String) (form : Form) : Catalogue :=
  match kind with
  | .transformation =>
      { catalogue with transformations := bindForm name form catalogue.transformations }
  | .assertion => { catalogue with assertions := bindForm name form catalogue.assertions }

/-! ## Registration -/

def inferKind (form : Form) : Outcome Kind :=
  if form.isClass then
    match form.family with
    | .transformation => .ok .transformation
    | .assertion => .ok .assertion
    | .loose _ => .error (.configuration (.unclearKind form.label) .nothing .nothing .nothing)
  else refuse .notAClass

def kindFor (form : Form) (type : Value) : Outcome Kind :=
  match type with
  | .nothing => inferKind form
  | type => Kind.ofValue type

/-- The catalogue that a call leaves behind. It binds the name as soon as the kind is known. -/
def registered (catalogue : Catalogue) (name : String) (form : Form) (type : Value) : Catalogue :=
  match kindFor form type with
  | .ok kind => catalogue.bind kind name form
  | .error _ => catalogue

/-- What is noted of a call that has bound a name. Only classes have a name of their own to be told. -/
def registrationNote (kind : Kind) (name : String) (form : Form) : Outcome String :=
  if form.isClass then .ok ("Registered " ++ kind.label ++ ": " ++ name ++ " -> " ++ form.label)
  else refuse (.noAttribute form.label "__name__")

def register (catalogue : Catalogue) (name : String) (form : Form) (type : Value) :
    Outcome Catalogue := do
  let kind ← kindFor form type
  let _ ← registrationNote kind name form
  .ok (catalogue.registered name form type)

def registrationRemarks (name : String) (form : Form) (type : Value) : List Remark :=
  match kindFor form type >>= fun kind => registrationNote kind name form with
  | .ok note => [.note note]
  | .error _ => []

/-! ## Lookup -/

def knows (catalogue : Catalogue) (kind : Kind) (name : Value) : Outcome Bool := do
  name.hashable
  .ok ((catalogue.names kind).any fun known => (Value.text known).same name)

def find (catalogue : Catalogue) (kind : Kind) (name : Value) : Outcome (Name × Form) := do
  name.hashable
  match name.name?, (catalogue.entries kind).find? fun entry => (Value.text entry.1).same name with
  | some given, some entry => .ok (given, entry.2)
  | _, _ => do
      let failure ← raiseUnknown name (.list ((catalogue.names kind).map .text))
      .error failure

/-- The name of a step: the one that is given, unless it is empty, or else the name of the form. -/
def stepNameOr (entry : Name) : Option Name → Name
  | none => entry
  | some given => if given = .text "" then entry else given

def prepare (catalogue : Catalogue) (kind : Kind) (name : Value) (settings : Settings)
    (stepName : Option Name) : Outcome Operation := do
  let (entry, form) ← catalogue.find kind name
  form.prepare entry (stepNameOr entry stepName) settings

def get (catalogue : Catalogue) (name type : Value) (settings : Settings)
    (stepName : Option Name) : Outcome Operation := do
  let kind ← Kind.ofValue type
  catalogue.prepare kind name settings stepName

/-- Whether a name is bound for the kind that is named, or for any kind when none is. -/
def has (catalogue : Catalogue) (name type : Value) : Outcome Bool :=
  match type with
  | .nothing => do
      let first ← catalogue.knows .transformation name
      let second ← catalogue.knows .assertion name
      .ok (first || second)
  | type => do
      let kind ← Kind.ofValue type
      catalogue.knows kind name

/-! ## Description -/

def schema (catalogue : Catalogue) (kind : Kind) (name : Value) : Outcome Schema := do
  let (entry, form) ← catalogue.find kind name
  form.schemaFor entry []

structure Description where
  name : Name
  kind : Kind
  summary : String
  schema : Schema

def describe (catalogue : Catalogue) (kind : Kind) (name : Value) : Outcome Description := do
  let (entry, form) ← catalogue.find kind name
  let schema ← form.schemaFor entry []
  .ok { name := entry, kind := form.family.kind, summary := form.summary, schema }

def Description.toValue (description : Description) : Value :=
  let samples := description.schema.samples
  let settings := if samples.isEmpty then [] else [("operation_config", Value.dict samples)]
  .dict [("name", description.name.toValue), ("type", .text description.kind.label),
    ("description", .text description.summary), ("config_schema", description.schema.toValue),
    ("example", .dict (("operation", description.name.toValue) :: settings))]

structure Listing where
  name : String
  kind : Kind
  summary : String

def Listing.toValue (listing : Listing) : Value :=
  .dict [("name", .text listing.name), ("type", .text listing.kind.label),
    ("description", .text listing.summary)]

def listEntries (kind : Kind) : List (String × Form) → Outcome (List Listing)
  | [] => .ok []
  | (name, form) :: rest => do
      let operation ← form.make (.text name) []
      let listings ← listEntries kind rest
      .ok (⟨name, kind, operation.form.summary⟩ :: listings)

def Listing.le (a b : Listing) : Bool :=
  textLe a.name.toList b.name.toList

def listKind (catalogue : Catalogue) (kind : Kind) : Outcome (List Listing) :=
  (listEntries kind (firstBindings [] (catalogue.entries kind))).map (·.mergeSort Listing.le)

def wanted (category : Value) (kind : Kind) : Bool :=
  !category.truthy || category.same (.text kind.label)

/-- The forms of a category, or of all kinds when the category is empty, sorted by kind and name. -/
def list (catalogue : Catalogue) (category : Value) : Outcome (List Listing) := do
  let transformations ←
    if wanted category .transformation then catalogue.listKind .transformation else .ok []
  let assertions ← if wanted category .assertion then catalogue.listKind .assertion else .ok []
  -- Listings are sorted by the labels of their kinds first.
  .ok (assertions ++ transformations)

def byType (catalogue : Catalogue) : Value :=
  .dict (Kind.all.map fun kind =>
    (kind.label, .list ((sortTexts (catalogue.names kind)).map .text)))

end Catalogue

end TextChain
