import TextChain.Session

/-!
Sessions as machines. A move is one thing that is done in a session; it comes to an end or fails, and
leaves the session behind it. A step that one move opens can be closed by any later one. One move is over
before the next begins.
-/

namespace TextChain

/-- A step that was opened and waits for the call that closes it. -/
structure Opened where
  opener : Fluent.Opener
  call : Call

def Call.opened? (kind : Kind) (call : Call) : Option Opened :=
  ((Fluent.openers kind).find? (·.method.name == call.method)).map fun opener => ⟨opener, call⟩

/-- A call by a name that is not that of a bridge, and that leaves no step open. -/
def Call.Recording (call : Call) (closing : Option Call) : Prop :=
  (∀ kind : Kind, call.method ≠ kind.bridgeMethod) ∧
    (closing = none → ∀ kind : Kind, call.opened? kind = none)

inductive Move where
  | begin (key : String) (kind : Kind) (subject : Value)
  | call (key target : String) (first : Call) (closing : Option Call)
  | finish (key : String) (opened : Opened) (last : Call)
  | keep (handle : String) (name type : Value) (settings : Settings) (stepName : Option Name)
      (negated : Option Bool)
  | addStep (key handle : String)
  | verdict (key : String)
  | attempt (key : String) (handler : Option Handler)
  | register (name : String) (form : Form) (type : Value)

namespace Move

def key? : Move → Option String
  | .begin key _ _ => some key
  | .call key _ _ _ => some key
  | .finish key _ _ => some key
  | .keep _ _ _ _ _ _ => none
  | .addStep key _ => some key
  | .verdict key => some key
  | .attempt key _ => some key
  | .register _ _ _ => none

def Asks (key : String) : Move → Prop
  | .call chain _ first _ => chain = key ∧ first.method = "is_not"
  | _ => False

/-- The move runs the chain of a slot; a bridge runs the chain that it leaves. -/
def Runs (key : String) : Move → Prop
  | .call chain _ first _ => chain = key ∧ ∃ kind : Kind, first.method = kind.bridgeMethod
  | .verdict chain => chain = key
  | .attempt chain _ => chain = key
  | _ => False

/-- The move is of those that prepare a step for the chain of a slot and record it. Leaving the chain is
not, and neither is opening a step. -/
def Records (key : String) : Move → Prop
  | .call chain _ first closing => chain = key ∧ first.Recording closing
  | .finish chain _ _ => chain = key
  | _ => False

def Starts (key : String) : Move → Prop
  | .begin chain _ _ => chain = key
  | .call _ target first _ => target = key ∧ ∃ kind : Kind, first.method = kind.bridgeMethod
  | _ => False

def Opens (key : String) (kind : Kind) : Move → Prop
  | .call chain _ first none => chain = key ∧ first.opened? kind ≠ none
  | _ => False

end Move

/-- Whether a reply tells of a failure, and the session after it. -/
def Reply.ended {α : Type} (reply : Reply α) : Outcome Unit × Session :=
  (reply.answer.map fun _ => (), reply.session)

namespace Session

/-- Closes a step that was opened on the chain of a slot. A chain that has left its slot is seen by nobody,
and closing steps on such chains is no move. -/
def finish (session : Session) (key : String) (opened : Opened) (last : Call) : Reply View :=
  match session.slot key with
  | .error failure => { answer := .error failure, session }
  | .ok slot =>
      match closeStep opened.opener opened.call (some last) with
      | .error failure => { answer := .error failure, session }
      | .ok request => session.perform key key slot request

def make (session : Session) : Move → Outcome Unit × Session
  | .begin key kind subject => (session.begin key kind subject).ended
  | .call key target first closing => (session.call key target first closing).ended
  | .finish key opened last => (session.finish key opened last).ended
  | .keep handle name type settings stepName negated =>
      (session.keep handle name type settings stepName negated).ended
  | .addStep key handle => (session.addStep key handle).ended
  | .verdict key => (session.verdict key).ended
  | .attempt key handler =>
      let reply := session.attempt key handler
      (reply.answer >>= fun delivery => delivery.answer.map fun _ => (), reply.session)
  | .register name form type => (session.register name form type).ended

def after (session : Session) (move : Move) : Session := (session.make move).2

def play (session : Session) (moves : List Move) : Session := moves.foldl after session

/-! ## What can be seen of a slot -/

def chain? (session : Session) (key : String) : Option (Chain Nat) :=
  (findKey? key session.slots).map (·.chain)

def log? (session : Session) (key : String) : Option (List LogEntry) :=
  (findKey? key session.slots).map (·.log)

def stepsOf (session : Session) (key : String) : List Operation :=
  match session.chain? key with
  | some chain => session.resolve chain.steps
  | none => []

def report? (session : Session) (key : String) : Option Report :=
  (session.chain? key).map fun chain => evaluate chain.kind (session.stepsOf key) chain.subject

/-- The chain of a slot answers alike in two sessions, whether its verdict is asked for or the run is
handed to a handler. -/
def AnswersAlike (first second : Session) (key : String) : Prop :=
  (first.verdict key).answer = (second.verdict key).answer ∧
    ∀ handler, (first.attempt key handler).answer = (second.attempt key handler).answer

end Session

end TextChain
