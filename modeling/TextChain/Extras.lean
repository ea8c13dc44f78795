import TextChain.Edits

/-!
Forms beyond the catalogue, ready to be registered in it. They show what a form may do: answer with
something that is no text, test with a value that is no truth value, and stand outside both families. All
of them make their steps as the built-in ones do, and stand by one schema.
-/

namespace TextChain

namespace Extra

def reverse : Form :=
  { label := "Reverse"
    family := .transformation
    summary := "Reverse the string."
    work := fun _ _ value => value.reversed }

def loud (_ : Name) (settings : Settings) (value : Value) : Outcome Value := do
  let ⟨script, chars⟩ ← value.method "upper"
  (script.value (script.upper chars)).plus (settings.either "mark" (.text "!"))

def shout : Form :=
  { label := "Shout"
    family := .transformation
    summary := "Shout the string."
    schema :=
      { optional := [{ textParameter "mark" "Mark" (.text "!!") with
          standard := some (.text "!") }] }
    work := loud }

def greeting (_ : Name) (settings : Settings) (value : Value) : Outcome Value := do
  let name ← settings.need "name"
  name.writable
  value.writable
  .ok (.text (name.plain ++ ": " ++ value.plain))

def greet : Form :=
  { label := "Greet"
    family := .transformation
    summary := "Greet someone."
    schema :=
      { required := [{ name := "name", type := some .text, description := some "Who" }] }
    work := greeting }

def echo : Form :=
  { label := "Echo"
    family := .transformation
    summary := "Echo operation"
    work := fun _ _ value => .ok value }

def nullify : Form :=
  { label := "Nullify"
    family := .transformation
    summary := "Return None."
    work := fun _ _ _ => .ok .nothing }

def ofType (type : ParameterType) : Parameter := { name := type.label, type := some type }

def typed : Form :=
  { label := "Typed"
    family := .transformation
    summary := "Take one parameter of each type."
    schema :=
      { required :=
          [.text, .integer, .flag, .real, .list, .dict, .any, .callable, .other "weird"].map ofType ++
            [{ name := "untyped" }]
        optional := [{ name := "opt", type := some .integer }] }
    work := fun _ _ value => .ok value }

def hasDash : Form :=
  { label := "HasDash"
    family := .assertion
    summary := "Check for a dash."
    work := fun _ _ value => (value.holds (.text "-")).map .bool }

def truthy : Form :=
  { label := "Truthy"
    family := .assertion
    summary := "Return the subject itself."
    work := fun _ _ value => .ok value }

def untyped : Form :=
  { label := "Untyped"
    family := .loose .transformation
    summary := "Belong to no namespace."
    work := fun _ _ value => value.plus (.text "?") }

def all : List Form :=
  [reverse, shout, greet, echo, nullify, typed, hasDash, truthy, untyped]

def find? (label : String) : Option Form :=
  all.find? (·.label == label)

end Extra

end TextChain
