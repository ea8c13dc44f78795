import TextChain.Definition

/-!
Chains as objects that calls change: a catalogue, chains in slots, and operations that several chains can
share. A chain of a session holds the places of its steps in the store of operations, so negating a shared
operation is seen by every chain that holds it. A call that fails gives back the session as it was, but for
two things: the log of the chain that was run may be new, and so may the binding of what was registered.
Operations are changed by nothing but negations, and no step or handler reaches into the session.
-/

namespace TextChain

structure Slot where
  chain : Chain Nat
  log : List LogEntry := []

structure Session where
  catalogue : Catalogue := .builtIn
  operations : List Operation := []
  handles : List (String × Nat) := []
  slots : List (String × Slot) := []

structure Reply (α : Type) where
  answer : Outcome α
  session : Session
  remarks : List Remark := []

/-- Binds a key; the newest binding is the one that is found. -/
def bindKey {α : Type} (key : String) (value : α) (entries : List (String × α)) :
    List (String × α) :=
  (key, value) :: entries.filter fun entry => entry.1 != key

def findKey? {α : Type} (key : String) (entries : List (String × α)) : Option α :=
  (entries.find? fun entry => entry.1 == key).map (·.2)

namespace Session

/-! ## Slots and operations -/

def lookUp {α : Type} (key : String) (entries : List (String × α)) : Outcome α :=
  match findKey? key entries with
  | some value => .ok value
  | none => .error (.raised .key [.text key])

def slot (session : Session) (key : String) : Outcome Slot := lookUp key session.slots

def setSlot (session : Session) (key : String) (slot : Slot) : Session :=
  { session with slots := bindKey key slot session.slots }

def resolve (session : Session) (places : List Nat) : List Operation :=
  places.filterMap fun place => session.operations[place]?

def steps (session : Session) (slot : Slot) : List Operation :=
  session.resolve slot.chain.steps

def store (session : Session) (operation : Operation) : Nat × Session :=
  (session.operations.length,
    { session with operations := session.operations ++ [operation] })

def negateAt (session : Session) (place : Nat) : Session :=
  { session with operations := session.operations.modify place Operation.negate }

/-- A slot with its chain, for an answer. -/
structure View where
  chain : Chain Nat
  steps : List Operation

def View.shown (view : View) : String :=
  view.chain.shown (view.steps.map (·.name.label))

def View.listed (view : View) : Value :=
  .list (view.steps.map Operation.listed)

def view (session : Session) (slot : Slot) : View := ⟨slot.chain, session.steps slot⟩

/-! ## Chains -/

def begin (session : Session) (key : String) (kind : Kind) (subject : Value) : Reply View :=
  match Chain.start kind subject with
  | .error failure => { answer := .error failure, session }
  | .ok chain =>
      let slot : Slot := { chain }
      { answer := .ok (session.view slot), session := session.setSlot key slot }

/-- Records the operation at a place of the store, with a pending negation if there is one. -/
def push (session : Session) (key : String) (slot : Slot) (place : Nat) : Session :=
  -- The mark is on the operation itself, for every chain that holds it.
  let negated := if slot.chain.negateNext then session.negateAt place else session
  negated.setSlot key { slot with chain := slot.chain.push place }

def reviewed (session : Session) (key : String) : Outcome View :=
  (session.slot key).map session.view

def record (session : Session) (key : String) (slot : Slot) (name : Value) (settings : Settings) :
    Reply View :=
  match session.catalogue.step slot.chain.kind name settings with
  | .error failure => { answer := .error failure, session }
  | .ok operation =>
      let (place, stored) := session.store operation
      let next := stored.push key slot place
      { answer := next.reviewed key, session := next }

def run (session : Session) (key : String) (slot : Slot) : Report × Session :=
  let report := evaluate slot.chain.kind (session.steps slot) slot.chain.subject
  (report, session.setSlot key { slot with log := report.log })

/-- Leaves the chain of a slot for a new chain of the other kind, which goes into the slot `target`. -/
def bridge (session : Session) (key target : String) (slot : Slot) : Reply View :=
  let (report, logged) := session.run key slot
  let crossed := slot.chain.crossed (lastName (session.steps slot)) report.verdict
  let remarks := report.remarks ++ Chain.crossingRemarks crossed
  match crossed with
  -- The chain stays in its slot, with the log of the run.
  | .error failure => { answer := .error failure, session := logged, remarks }
  | .ok subject => { logged.begin target slot.chain.kind.other subject with remarks }

def perform (session : Session) (key target : String) (slot : Slot) : Request → Reply View
  | .record name settings => session.record key slot name settings
  | .negate =>
      let changed := { slot with chain := slot.chain.isNot }
      { answer := .ok (session.view changed), session := session.setSlot key changed }
  | .bridge => session.bridge key target slot
  | .wait => { answer := .ok (session.view slot), session }

def call (session : Session) (key target : String) (first : Call) (closing : Option Call) :
    Reply View :=
  match session.slot key with
  | .error failure => { answer := .error failure, session }
  | .ok slot =>
      match first.request slot.chain.kind closing with
      | .error failure => { answer := .error failure, session }
      | .ok request => session.perform key target slot request

/-! ## Shared operations -/

def keep (session : Session) (handle : String) (name type : Value) (settings : Settings)
    (stepName : Option Name) (negated : Option Bool) : Reply Operation :=
  match session.catalogue.get name type settings stepName with
  | .error failure => { answer := .error failure, session }
  | .ok prepared =>
      -- A mark of negation can be set on any operation, whether it heeds the mark or not.
      let operation := match negated with
        | some mark => { prepared with negated := some mark }
        | none => prepared
      let (place, stored) := session.store operation
      { answer := .ok operation
        session := { stored with handles := bindKey handle place stored.handles } }

def addStep (session : Session) (key handle : String) : Reply View :=
  match session.slot key, lookUp handle session.handles with
  | .error failure, _ => { answer := .error failure, session }
  | _, .error failure => { answer := .error failure, session }
  | .ok slot, .ok place =>
      let next := session.push key slot place
      { answer := next.reviewed key, session := next }

/-! ## Evaluation -/

def verdict (session : Session) (key : String) : Reply Verdict :=
  match session.slot key with
  | .error failure => { answer := .error failure, session }
  | .ok slot =>
      let (report, logged) := session.run key slot
      { answer := .ok report.verdict, session := logged, remarks := report.remarks }

def attempt (session : Session) (key : String) (handler : Option Handler) : Reply Delivery :=
  match session.slot key with
  | .error failure => { answer := .error failure, session }
  | .ok slot =>
      let (report, logged) := session.run key slot
      let delivery := report.verdict.deliver handler
      { answer := .ok delivery
        session := logged
        remarks := report.remarks ++ delivery.remarks }

/-! ## Catalogue -/

def register (session : Session) (name : String) (form : Form) (type : Value) : Reply Unit :=
  { answer := (session.catalogue.register name form type).map fun _ => ()
    -- The binding stays even if the call fails.
    session := { session with catalogue := session.catalogue.registered name form type }
    remarks := Catalogue.registrationRemarks name form type }

end Session

end TextChain
