import TextChain.Operand

/-!
Errors that are made by kind and details, and calls of the functions that users hand in. Making an error
can fail itself: an unknown name has to be compared with the valid ones, and they have to be listed.
Functions are of a few sorts that answer, raise or record what they see; they change nothing else.
-/

namespace TextChain

/-! ## Errors by kind -/

def bindParameters (names : List String) (details : List Value) (named : Settings) : Settings :=
  let placed := names.zip details
  placed ++ (names.drop details.length).filterMap fun name =>
    (named.get? name).map fun value => (name, value)

def argument (bound : Settings) (name : String) : Value :=
  (bound.get? name).getD .nothing

def marksOf (value : Value) : List Nat :=
  match value.writing? with
  | some writing => writing.marks
  | none => []

/-- The failure of a name that is not among the valid ones. Names are compared in small letters, so each
has to have them; the close ones are listed, then the first ones in their order. -/
def raiseUnknown (name valid : Value) : Outcome Failure := do
  let writing ← name.method "lower"
  let known ← valid.items
  known.forM fun item => (item.method "lower").map fun _ => ()
  match known.mapM Value.name? with
  | some names => .ok (.unknownOperation name names)
  | none => do
      let _ ← Value.joinParts (.text ", ") (closestTo writing.marks marksOf known)
      let ordered ← Value.sorted known
      let _ ← Value.joinParts (.text ", ") (ordered.take 10)
      .ok (.unknownOperation name (known.filterMap Value.name?))

def Failure.make (kind : ErrorKind) (details : List Value) (named : Settings) : Outcome Failure :=
  match kind with
  | .general => .ok (.general details)
  | .step =>
      let bound := bindParameters ["message", "operation_name"] details named
      .ok (.step (.given (argument bound "message")) (argument bound "operation_name"))
  | .custom =>
      let bound := bindParameters ["message", "operation_name"] details named
      .ok (.custom (.given (argument bound "message")) (argument bound "operation_name") none)
  | .configuration => do
      let bound := bindParameters
        ["message", "operation_name", "config_schema", "provided_config"] details named
      -- A message is only put together, and so written, where there is a name to put in front.
      if (argument bound "operation_name").truthy then
        (argument bound "operation_name").writable
        (argument bound "message").writable
      .ok (.configuration (.given (argument bound "message")) (argument bound "operation_name")
        (argument bound "config_schema") (argument bound "provided_config"))
  | .bridge =>
      let bound := bindParameters
        ["message", "operation_name", "value_so_far", "original_error"] details named
      let origin := argument bound "original_error"
      .ok (.bridge (.given (argument bound "message")) (argument bound "operation_name")
        (argument bound "value_so_far") (if origin.truthy then some (.general [origin]) else none))
  | .unknownOperation =>
      let bound := bindParameters ["operation", "valid_operations"] details named
      raiseUnknown (argument bound "operation") (argument bound "valid_operations")
  | kind => .ok (.raised kind details)

/-- Whether the text of a failure that a function raised can be written: it must not hold an integer of too
many digits. -/
def Failure.writable : Failure → Outcome Unit
  | .raised _ details => (Value.list details).writable
  | .general details => (Value.list details).writable
  | .step (.given message) _ => message.writable
  | .custom (.given message) _ _ => message.writable
  | .configuration (.given message) _ _ _ => message.writable
  | .bridge (.given message) _ _ _ => message.writable
  | .caused failure _ => failure.writable
  | _ => .ok ()

def raise {α : Type} (kind : ErrorKind) (details : List Value) : Outcome α := do
  let failure ← Failure.make kind details []
  .error failure

/-! ## Functions -/

def Routine.call (r : Routine) (argument : Value) : Outcome Value :=
  match r with
  | .identity => .ok argument
  | .reverse => argument.reversed
  | .double => argument.plus argument
  | .length => argument.length.map fun count => .int count
  | .contains part => (argument.holds part).map .bool
  | .constant answer => .ok answer
  | .raises kind details => raise kind (details.getD [])
  | .spy answer => .ok (answer.getD argument)

def Value.call (function argument : Value) : Outcome Value :=
  match function with
  | .routine r _ => r.call argument
  | other => refuse (.notCallable other.faultName)

end TextChain
