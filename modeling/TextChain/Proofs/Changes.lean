import Mathlib.Data.List.Basic
import TextChain.Moves
import TextChain.Proofs.Lookup

/-!
What a move can change. A move that fails may have run a chain, and that shows in the log of the chain
alone; a move that comes to an end records one step, asks for a negation, starts a chain, keeps an
operation or registers a form. A call that registers can fail and yet leave its binding behind. Steps
always stay in the store of operations.
-/

namespace TextChain

/-! ## Bindings -/

section Bindings
variable {α : Type} (key : String) (value : α) (entries : List (String × α))

@[simp] theorem findKey?_bindKey_self : findKey? key (bindKey key value entries) = some value := by
  simp [findKey?, bindKey]

theorem findKey?_bindKey_other {other : String} (different : other ≠ key) :
    findKey? other (bindKey key value entries) = findKey? other entries := by
  unfold findKey? bindKey
  rw [List.find?_cons_of_neg (by simpa using Ne.symm different), List.find?_filter]
  congr 2
  funext entry
  by_cases same : entry.1 = other <;> simp [same, different]

end Bindings

namespace Session

section Slots
variable (session : Session) (key : String) (slot : Slot)

@[simp] theorem setSlot_chain_self : (session.setSlot key slot).chain? key = some slot.chain := by
  simp [chain?, setSlot]

variable {key} {other : String}

theorem setSlot_chain_other (different : other ≠ key) :
    (session.setSlot key slot).chain? other = session.chain? other := by
  simp only [chain?, setSlot, findKey?_bindKey_other key slot _ different]

end Slots

theorem lookUp_iff {α : Type} {key : String} {value : α} {entries : List (String × α)} :
    lookUp key entries = .ok value ↔ findKey? key entries = some value := by
  unfold lookUp
  cases findKey? key entries <;> simp

theorem slot_iff {session : Session} {key : String} {slot : Slot} :
    session.slot key = .ok slot ↔ findKey? key session.slots = some slot :=
  lookUp_iff

end Session

/-! ## Requests -/

theorem closeStep_records {opener : Fluent.Opener} {call last : Call} {request : Request}
    (closed : closeStep opener call (some last) = .ok request) :
    ∃ name settings, request = .record name settings := by
  unfold closeStep at closed
  simp only at closed
  split at closed
  · cases closed
    exact ⟨_, _, rfl⟩
  · cases closed

theorem method_apart (kind other : Kind) : ∀ method ∈ Fluent.methods kind,
    method.name ≠ other.bridgeMethod ∧
      ∀ opener ∈ Fluent.openers other, opener.method.name ≠ method.name := by
  cases kind <;> cases other <;> decide

theorem opener_apart (kind other : Kind) : ∀ opener ∈ Fluent.openers kind,
    opener.method.name ≠ "apply" ∧ opener.method.name ≠ other.bridgeMethod ∧
      opener.method.name ≠ "is_not" := by
  cases kind <;> cases other <;> decide

theorem opened_named {kind : Kind} {call : Call} {opened : Opened}
    (opens : call.opened? kind = some opened) :
    opened.call = call ∧ opened.opener.method.name = call.method ∧
      opened.opener ∈ Fluent.openers kind := by
  obtain ⟨opener, found, rfl⟩ := Option.map_eq_some_iff.mp opens
  exact ⟨rfl, by simpa using List.find?_some found, List.mem_of_find?_eq_some found⟩

theorem opened_none {kind : Kind} {call : Call}
    (apart : ∀ opener ∈ Fluent.openers kind, opener.method.name ≠ call.method) :
    call.opened? kind = none := by
  refine Option.eq_none_iff_forall_ne_some.mpr fun opened opens => ?_
  obtain ⟨_, named, listed⟩ := opened_named opens
  exact apart opened.opener listed named

theorem apply_recording {call : Call} (applied : call.method = "apply") (closing : Option Call) :
    call.Recording closing := by
  refine ⟨fun kind => ?_, fun _ kind => opened_none fun opener listed => ?_⟩
  · rw [applied]
    cases kind <;> decide
  · rw [applied]
    exact (opener_apart kind kind opener listed).1

theorem recordStep_records {kind : Kind} {call : Call} {closing : Option Call} {request : Request}
    (asked : recordStep kind call closing = .ok request) :
    (∃ name settings, request = .record name settings) ∧ call.Recording closing ∨
      request = .wait ∧ closing = none := by
  unfold recordStep at asked
  split at asked
  next method found =>
    cases asked
    have listed := List.mem_of_find?_eq_some found
    -- A method that records is named neither like a bridge nor like one that opens a step.
    have named : method.name = call.method := by simpa using List.find?_some found
    refine Or.inl ⟨⟨_, _, rfl⟩, fun other => ?_, fun _ other => opened_none ?_⟩
    · rw [← named]
      exact (method_apart kind other method listed).1
    · rw [← named]
      exact (method_apart kind other method listed).2
  next =>
    split at asked
    next opener found =>
      cases closing with
      | none =>
          cases asked
          exact Or.inr ⟨rfl, rfl⟩
      | some last =>
          have named : opener.method.name = call.method := by simpa using List.find?_some found
          refine Or.inl ⟨closeStep_records asked, fun other => ?_, nofun⟩
          rw [← named]
          exact (opener_apart kind other opener (List.mem_of_find?_eq_some found)).2.1
    next => cases asked

/-- Everything that a call can ask of a chain. -/
theorem request_cases {kind : Kind} {call : Call} {closing : Option Call} {request : Request}
    (asked : call.request kind closing = .ok request) :
    (∃ name settings, request = .record name settings) ∧ call.Recording closing ∨
      request = .wait ∧ closing = none ∨
      request = .bridge ∧ call.method = kind.bridgeMethod ∨
      request = .negate ∧ call.method = "is_not" ∧ kind = .assertion := by
  unfold Call.request at asked
  split at asked
  next applied =>
    cases asked
    exact Or.inl ⟨⟨_, _, rfl⟩, apply_recording (by simpa using applied) closing⟩
  next =>
    split at asked
    next bridging =>
      cases asked
      exact Or.inr (Or.inr (Or.inl ⟨rfl, by simpa using bridging⟩))
    next =>
      split at asked
      next negating =>
        cases asked
        rw [Bool.and_eq_true, beq_iff_eq, beq_iff_eq] at negating
        exact Or.inr (Or.inr (Or.inr ⟨rfl, negating⟩))
      next =>
        rcases recordStep_records asked with records | waits
        · exact Or.inl records
        · exact Or.inr (Or.inl waits)

theorem request_is_not {call : Call} (closing : Option Call) (asked : call.method = "is_not") :
    call.request .assertion closing = .ok .negate := by
  simp [Call.request, asked, Kind.bridgeMethod]

theorem request_opened {kind : Kind} {call : Call} {opened : Opened} (closing : Option Call)
    (opens : call.opened? kind = some opened) :
    call.request kind closing = closeStep opened.opener opened.call closing := by
  obtain ⟨_, named, listed⟩ := opened_named opens
  obtain ⟨opener, found, rfl⟩ := Option.map_eq_some_iff.mp opens
  obtain ⟨notApply, notBridge, notNegation⟩ := opener_apart kind kind opener listed
  rw [named] at notApply notBridge notNegation
  have unrecorded : (Fluent.methods kind).find? (·.name == call.method) = none := by
    refine List.find?_eq_none.mpr fun method recorded => ?_
    have apart := (method_apart kind kind method recorded).2 opener listed
    rw [named] at apart
    simpa using apart.symm
  simp only [Call.request, beq_eq_false_iff_ne.mpr notApply, beq_eq_false_iff_ne.mpr notBridge,
    beq_eq_false_iff_ne.mpr notNegation, Bool.false_and, Bool.false_eq_true, ↓reduceIte, recordStep,
    unrecorded, found]

/-! ## Moves -/

theorem step_unmarked {catalogue : Catalogue} {kind : Kind} {name : Value} {settings : Settings}
    {operation : Operation} (made : catalogue.step kind name settings = .ok operation) :
    operation.negated ≠ some true := by
  obtain ⟨_, _, prepared⟩ := bind_eq_ok.mp made
  obtain ⟨⟨entry, form⟩, _, complete⟩ := bind_eq_ok.mp prepared
  obtain ⟨rfl, _⟩ := Form.prepare_ok_iff.mp complete
  unfold Form.operation
  split <;> simp

theorem starts_apart {move : Move} {key other : String} (stays : ¬ move.Starts key)
    (starts : move.Starts other) : key ≠ other := by
  rintro rfl
  exact stays starts

theorem call_stays {key chain target : String} {call : Call} {closing : Option Call}
    (toTests : call.method ≠ "assert_that") (toTransformations : call.method ≠ "string_transform") :
    ¬ (Move.call chain target call closing).Starts key := by
  rintro ⟨_, kind, bridging⟩
  cases kind with
  | transformation => exact toTests bridging
  | assertion => exact toTransformations bridging

/-- What a move can come to: whether it failed, and the session behind it. -/
inductive Change (session : Session) : Move → Outcome Unit → Session → Prop
  | refused {move : Move} (failure : Failure) : Change session move (.error failure) session
  | waited {key target : String} {first : Call} :
      Change session (.call key target first none) (.ok ()) session
  | ran {move : Move} {key : String} {slot : Slot} {outcome : Outcome Unit}
      (found : findKey? key session.slots = some slot) (runs : move.Runs key) :
      Change session move outcome (session.run key slot).2
  | asked {key target : String} {first : Call} {closing : Option Call} {slot : Slot}
      (found : findKey? key session.slots = some slot) (called : first.method = "is_not")
      (kind : slot.chain.kind = .assertion) :
      Change session (.call key target first closing) (.ok ())
        (session.setSlot key { slot with chain := slot.chain.isNot })
  | recorded {move : Move} {key : String} {slot : Slot} {operation : Operation}
      (found : findKey? key session.slots = some slot) (records : move.Records key)
      (unmarked : operation.negated ≠ some true) :
      Change session move (.ok ())
        ((session.store operation).2.push key slot session.operations.length)
  | added {key handle : String} {slot : Slot} {place : Nat}
      (found : findKey? key session.slots = some slot)
      (held : findKey? handle session.handles = some place) :
      Change session (.addStep key handle) (.ok ()) (session.push key slot place)
  | begun {move : Move} {key : String} {kind : Kind} {subject : Value} (starts : move.Starts key) :
      Change session move (.ok ()) (session.setSlot key { chain := { kind, subject } })
  | crossed {move : Move} {key target : String} {slot : Slot} {kind : Kind} {subject : Value}
      (found : findKey? key session.slots = some slot) (runs : move.Runs key)
      (starts : move.Starts target) :
      Change session move (.ok ())
        ((session.run key slot).2.setSlot target { chain := { kind, subject } })
  | kept {handle : String} {name type : Value} {settings : Settings} {stepName : Option Name}
      {negated : Option Bool} {operation : Operation} :
      Change session (.keep handle name type settings stepName negated) (.ok ())
        { (session.store operation).2 with
          handles := bindKey handle session.operations.length session.handles }
  | registered {name : String} {form : Form} {type : Value} :
      Change session (.register name form type)
        ((session.catalogue.register name form type).map fun _ => ())
        { session with catalogue := session.catalogue.registered name form type }

namespace Session

section Making
variable {session : Session} {move : Move} {key target : String} {slot : Slot}

theorem push_reviewed (session : Session) (key : String) (slot : Slot) (place : Nat) :
    ((session.push key slot place).reviewed key).map (fun _ => ()) = .ok () := by
  unfold reviewed Session.slot lookUp push setSlot
  simp [Except.map]

theorem record_change (name : Value) (settings : Settings)
    (found : findKey? key session.slots = some slot) (records : move.Records key) :
    Change session move (session.record key slot name settings).ended.1
      (session.record key slot name settings).ended.2 := by
  unfold record
  cases prepared : session.catalogue.step slot.chain.kind name settings with
  | error failure => exact .refused failure
  | ok operation =>
      simp only [Reply.ended, push_reviewed]
      exact .recorded found records (step_unmarked prepared)

theorem bridge_change (found : findKey? key session.slots = some slot) (runs : move.Runs key)
    (starts : move.Starts target) :
    Change session move (session.bridge key target slot).ended.1
      (session.bridge key target slot).ended.2 := by
  unfold bridge
  simp only
  split
  next failure _ => exact .ran found runs
  next subject _ =>
    unfold begin Chain.start
    by_cases text : subject.isText = true
    · simp only [text, ↓reduceIte]
      exact .crossed found runs starts
    · simp only [text]
      exact .ran found runs

theorem call_change (session : Session) (key target : String) (first : Call) (closing : Option Call) :
    Change session (.call key target first closing) (session.call key target first closing).ended.1
      (session.call key target first closing).ended.2 := by
  unfold call
  cases looked : session.slot key with
  | error failure => exact .refused failure
  | ok slot =>
      have found := slot_iff.mp looked
      simp only
      cases asked : first.request slot.chain.kind closing with
      | error failure => exact .refused failure
      | ok request =>
          rcases request_cases asked with ⟨⟨name, settings, rfl⟩, recording⟩ | ⟨rfl, rfl⟩ |
            ⟨rfl, bridging⟩ | ⟨rfl, called, kind⟩
          · exact record_change name settings found ⟨rfl, recording⟩
          · exact .waited
          · exact bridge_change found ⟨rfl, _, bridging⟩ ⟨rfl, _, bridging⟩
          · exact .asked found called kind

theorem finish_change (session : Session) (key : String) (opened : Opened) (last : Call) :
    Change session (.finish key opened last) (session.finish key opened last).ended.1
      (session.finish key opened last).ended.2 := by
  unfold finish
  cases looked : session.slot key with
  | error failure => exact .refused failure
  | ok slot =>
      simp only
      cases closed : closeStep opened.opener opened.call (some last) with
      | error failure => exact .refused failure
      | ok request =>
          obtain ⟨name, settings, rfl⟩ := closeStep_records closed
          exact record_change name settings (slot_iff.mp looked) rfl

/-- Everything that a move can come to. -/
theorem make_change (session : Session) (move : Move) :
    Change session move (session.make move).1 (session.after move) := by
  cases move with
  | begin key kind subject =>
      simp only [after, make, begin, Chain.start]
      by_cases text : subject.isText = true
      · simp only [text, ↓reduceIte]
        exact .begun rfl
      · simp only [text]
        exact .refused _
  | call key target first closing => exact call_change session key target first closing
  | finish key opened last => exact finish_change session key opened last
  | keep handle name type settings stepName negated =>
      simp only [after, make, keep]
      cases session.catalogue.get name type settings stepName with
      | error failure => exact .refused failure
      | ok operation => exact .kept
  | addStep key handle =>
      simp only [after, make, addStep]
      cases looked : session.slot key with
      | error failure => exact .refused failure
      | ok slot =>
          cases held : lookUp handle session.handles with
          | error failure => exact .refused failure
          | ok place =>
              -- The slot was bound, so looking at it again cannot fail.
              simp only [Reply.ended, push_reviewed]
              exact .added (slot_iff.mp looked) (lookUp_iff.mp held)
  | verdict key =>
      simp only [after, make, verdict]
      cases looked : session.slot key with
      | error failure => exact .refused failure
      | ok slot => exact .ran (slot_iff.mp looked) rfl
  | attempt key handler =>
      simp only [after, make, attempt]
      cases looked : session.slot key with
      | error failure => exact .refused failure
      | ok slot => exact .ran (slot_iff.mp looked) rfl
  | register name form type =>
      -- Refused or not, the call leaves the catalogue behind that it has made.
      have change : Change session (.register name form type) _ _ := .registered
      simp only [after, make, register, Reply.ended]
      cases outcome : session.catalogue.register name form type <;> rwa [outcome] at change

end Making

/-! ## What is seen after a change -/

section Views
variable {session : Session} {key other : String} {slot : Slot}

theorem found_chain (found : findKey? key session.slots = some slot) :
    session.chain? key = some slot.chain := by
  rw [chain?, found]
  rfl

theorem run_chain (found : findKey? key session.slots = some slot) (other : String) :
    (session.run key slot).2.chain? other = session.chain? other := by
  by_cases same : other = key
  · rw [same, found_chain found]
    exact setSlot_chain_self session key _
  · exact setSlot_chain_other session _ same

@[simp] theorem push_chain_self (place : Nat) :
    (session.push key slot place).chain? key = some (slot.chain.push place) :=
  setSlot_chain_self _ key _

theorem push_chain_other (place : Nat) (different : other ≠ key) :
    (session.push key slot place).chain? other = session.chain? other := by
  unfold push
  rw [setSlot_chain_other _ _ different]
  split <;> rfl

theorem push_operations (place : Nat) :
    (session.push key slot place).operations =
      if slot.chain.negateNext then session.operations.modify place Operation.negate
      else session.operations := by
  unfold push
  split <;> rfl

theorem push_mark {place : Nat} {operation : Operation} (key : String) (slot : Slot)
    (stored : session.operations[place]? = some operation) :
    ∃ pushed, (session.push key slot place).operations[place]? = some pushed ∧
      (pushed.negated = some true ↔ slot.chain.negateNext = true ∨ operation.negated = some true) := by
  rw [push_operations]
  cases pending : slot.chain.negateNext with
  | true => exact ⟨operation.negate, by simp [stored], by simp [Operation.negate]⟩
  | false => exact ⟨operation, by simp [stored], by simp⟩

end Views

/-! ## Places in the store -/

/-- The steps of chains and the operations that are kept are all in the store. -/
structure Sound (session : Session) : Prop where
  steps : ∀ key chain, session.chain? key = some chain →
    ∀ place ∈ chain.steps, place < session.operations.length
  handles : ∀ handle place, findKey? handle session.handles = some place →
    place < session.operations.length

theorem sound_empty : Sound {} := by
  constructor
  · intro key chain bound
    cases bound
  · intro handle place held
    cases held

section Soundness
variable {session : Session}

theorem Sound.grown {larger : Session} (sound : Sound session)
    (chains : ∀ key, larger.chain? key = session.chain? key)
    (handles : larger.handles = session.handles)
    (room : session.operations.length ≤ larger.operations.length) : Sound larger := by
  constructor
  · intro key chain bound place member
    rw [chains] at bound
    exact Nat.lt_of_lt_of_le (sound.steps key chain bound place member) room
  · intro handle place held
    rw [handles] at held
    exact Nat.lt_of_lt_of_le (sound.handles handle place held) room

theorem Sound.setSlot (sound : Sound session) (key : String) (slot : Slot)
    (stored : ∀ place ∈ slot.chain.steps, place < session.operations.length) :
    Sound (session.setSlot key slot) := by
  refine ⟨fun other chain bound => ?_, sound.handles⟩
  by_cases same : other = key
  · rw [same, setSlot_chain_self] at bound
    cases bound
    exact stored
  · rw [setSlot_chain_other _ _ same] at bound
    exact sound.steps other chain bound

theorem Sound.push {key : String} {slot : Slot} {place : Nat} (sound : Sound session)
    (found : findKey? key session.slots = some slot) (stored : place < session.operations.length) :
    Sound (session.push key slot place) := by
  have earlier := sound.steps key slot.chain (found_chain found)
  unfold Session.push
  refine Sound.setSlot ?_ key _ ?_
  · split
    · exact sound.grown (fun _ => rfl) rfl (by simp [negateAt])
    · exact sound
  · intro old member
    have inside : old < session.operations.length := by
      rcases List.mem_append.mp member with listed | new
      · exact earlier old listed
      · rw [List.mem_singleton.mp new]
        exact stored
    split <;> simpa [negateAt] using inside

theorem Sound.change {move : Move} {outcome : Outcome Unit} {after : Session} (sound : Sound session)
    (change : Change session move outcome after) : Sound after := by
  have stored (operation : Operation) : Sound (session.store operation).2 :=
    sound.grown (fun _ => rfl) rfl (by simp [store])
  cases change with
  | refused failure => exact sound
  | waited => exact sound
  | ran found runs => exact sound.grown (run_chain found) rfl (Nat.le_refl _)
  | asked found called kind =>
      have stored := sound.steps _ _ (found_chain found)
      exact sound.setSlot _ _ stored
  | recorded found records unmarked => exact (stored _).push found (by simp [store])
  | added found held => exact sound.push found (sound.handles _ _ held)
  | begun starts => exact sound.setSlot _ _ (by simp)
  | crossed found runs starts =>
      exact (sound.grown (run_chain found) rfl (Nat.le_refl _)).setSlot _ _ (by simp)
  | @kept handle _ _ _ _ _ operation =>
      refine ⟨(stored operation).steps, fun other place held => ?_⟩
      by_cases same : other = handle
      · rw [same, findKey?_bindKey_self] at held
        cases held
        simp [store]
      · rw [findKey?_bindKey_other _ _ _ same] at held
        exact (stored operation).handles other place held
  | registered => exact sound.grown (fun _ => rfl) rfl (Nat.le_refl _)

theorem play_concat (session : Session) (moves : List Move) (move : Move) :
    session.play (moves ++ [move]) = (session.play moves).after move :=
  List.foldl_append

theorem Sound.play (sound : Sound session) (moves : List Move) : Sound (session.play moves) := by
  induction moves generalizing session with
  | nil => exact sound
  | cons move rest ih => exact ih (sound.change (make_change session move))

end Soundness

def Reachable (session : Session) : Prop := ∃ history, session = ({} : Session).play history

theorem Reachable.sound {session : Session} (reachable : Reachable session) : Sound session := by
  obtain ⟨history, rfl⟩ := reachable
  exact sound_empty.play history

/-! ## Steps of a chain -/

section Steps
variable {session : Session} {key : String} {chain : Chain Nat}

theorem resolve_get {places : List Nat} (index : Nat)
    (stored : ∀ place ∈ places, place < session.operations.length) :
    (session.resolve places)[index]? = places[index]?.bind (session.operations[·]?) := by
  unfold resolve
  induction places generalizing index with
  | nil => rfl
  | cons place rest ih =>
      have inside := stored place List.mem_cons_self
      have kept : session.operations[place]? = some session.operations[place] :=
        List.getElem?_eq_getElem inside
      rw [List.filterMap_cons_some kept]
      cases index with
      | zero => exact kept.symm
      | succ index =>
          simpa using ih index fun next member => stored next (List.mem_cons_of_mem place member)

theorem stepsOf_bound (bound : session.chain? key = some chain) :
    session.stepsOf key = session.resolve chain.steps := by
  rw [stepsOf, bound]

theorem stepsOf_get (sound : Sound session) (bound : session.chain? key = some chain) (index : Nat) :
    (session.stepsOf key)[index]? = chain.steps[index]?.bind (session.operations[·]?) := by
  rw [stepsOf_bound bound]
  exact resolve_get index (sound.steps key chain bound)

theorem resolve_kept {after : Session} {places : List Nat}
    (kept : ∀ place ∈ places, after.operations[place]? = session.operations[place]?) :
    after.resolve places = session.resolve places :=
  List.filterMap_congr kept

theorem stepsOf_kept {after : Session} {next : Chain Nat} (bound : session.chain? key = some chain)
    (later : after.chain? key = some next) (steps : next.steps = chain.steps)
    (kept : ∀ place ∈ chain.steps, after.operations[place]? = session.operations[place]?) :
    after.stepsOf key = session.stepsOf key := by
  rw [stepsOf_bound bound, stepsOf_bound later, steps, resolve_kept kept]

theorem stepsOf_push {place : Nat} {operation : Operation}
    (pushed : session.chain? key = some (chain.push place))
    (stored : session.operations[place]? = some operation) :
    session.stepsOf key = session.resolve chain.steps ++ [operation] := by
  rw [stepsOf_bound pushed, resolve, Chain.push, List.filterMap_append,
    List.filterMap_cons_some stored, List.filterMap_nil, resolve]

end Steps

/-! ## Answers -/

section Answers
variable (session : Session) (key : String)

theorem verdict_answer : (session.verdict key).answer =
    match session.report? key with
    | some report => .ok report.verdict
    | none => .error (.raised .key [.text key]) := by
  unfold verdict Session.slot lookUp report? stepsOf chain?
  cases findKey? key session.slots <;> rfl

theorem attempt_answer (handler : Option Handler) : (session.attempt key handler).answer =
    match session.report? key with
    | some report => .ok (report.verdict.deliver handler)
    | none => .error (.raised .key [.text key]) := by
  unfold attempt Session.slot lookUp report? stepsOf chain?
  cases findKey? key session.slots <;> rfl

theorem answersAlike_of_report {first second : Session} {key : String}
    (same : first.report? key = second.report? key) : AnswersAlike first second key := by
  refine ⟨?_, fun handler => ?_⟩
  · rw [verdict_answer, verdict_answer, same]
  · rw [attempt_answer, attempt_answer, same]

end Answers

/-! ## One chain and one operation -/

section Effects
variable {session after : Session} {move : Move} {outcome : Outcome Unit}

/-- The mark of a step that was just recorded: a pending negation sets it, and a kept operation brings
its own along. -/
def NewMark (session : Session) (move : Move) (key : String) (chain : Chain Nat) (place : Nat)
    (operation : Operation) : Prop :=
  operation.negated = some true ↔ chain.negateNext = true ∨
    ∃ handle stored, move = .addStep key handle ∧ findKey? handle session.handles = some place ∧
      session.operations[place]? = some stored ∧ stored.negated = some true

/-- A chain stays as it is, or it is asked to negate its next step, or one step is recorded in it. -/
theorem chain_change {key : String} {chain : Chain Nat} (sound : Sound session)
    (change : Change session move outcome after) (stays : ¬ move.Starts key)
    (bound : session.chain? key = some chain) :
    after.chain? key = some chain ∨
      (move.Asks key ∧ after.chain? key = some chain.isNot) ∨
      ∃ place operation, after.chain? key = some (chain.push place) ∧ outcome = .ok () ∧
        after.operations[place]? = some operation ∧ NewMark session move key chain place operation := by
  cases change with
  | refused failure => exact Or.inl bound
  | waited => exact Or.inl bound
  | ran found runs => exact Or.inl ((run_chain found key).trans bound)
  | @asked other target first closing slot found called kind =>
      by_cases same : key = other
      · subst same
        rw [found_chain found] at bound
        cases bound
        exact Or.inr (Or.inl ⟨⟨rfl, called⟩, setSlot_chain_self session key _⟩)
      · exact Or.inl ((setSlot_chain_other session _ same).trans bound)
  | @recorded _ other slot operation found records unmarked =>
      by_cases same : key = other
      · subst same
        rw [found_chain found] at bound
        cases bound
        have stored : (session.store operation).2.operations[session.operations.length]? =
            some operation := by simp [store]
        obtain ⟨pushed, atPlace, mark⟩ := push_mark key slot stored
        refine Or.inr (Or.inr ⟨_, pushed, push_chain_self _, rfl, atPlace, mark.trans ?_⟩)
        -- The place is new, so nothing was kept there.
        refine or_congr_right (iff_of_false unmarked ?_)
        rintro ⟨handle, _, _, held, _⟩
        exact absurd (sound.handles handle _ held) (Nat.lt_irrefl _)
      · exact Or.inl ((push_chain_other _ same).trans bound)
  | @added other handle slot place found held =>
      by_cases same : key = other
      · subst same
        rw [found_chain found] at bound
        cases bound
        obtain ⟨operation, stored⟩ : ∃ operation, session.operations[place]? = some operation :=
          ⟨_, List.getElem?_eq_getElem (sound.handles handle place held)⟩
        obtain ⟨pushed, atPlace, mark⟩ := push_mark key slot stored
        refine Or.inr (Or.inr ⟨_, pushed, push_chain_self _, rfl, atPlace, mark.trans ?_⟩)
        refine or_congr_right ⟨fun marked => ⟨handle, _, rfl, held, stored, marked⟩, ?_⟩
        rintro ⟨_, other, _, _, same, marked⟩
        rw [stored] at same
        cases same
        exact marked
      · exact Or.inl ((push_chain_other _ same).trans bound)
  | begun starts =>
      exact Or.inl ((setSlot_chain_other session _ (starts_apart stays starts)).trans bound)
  | crossed found runs starts =>
      refine Or.inl ((setSlot_chain_other _ _ (starts_apart stays starts)).trans ?_)
      exact (run_chain found key).trans bound
  | kept => exact Or.inl bound
  | registered => exact Or.inl bound

/-- Operations of the store stay as they are. Only adding one to a chain that is to negate its next step
puts a mark on it. -/
theorem operations_change (change : Change session move outcome after) :
    (∀ place < session.operations.length,
      after.operations[place]? = session.operations[place]?) ∨
    ∃ key handle chain place, move = .addStep key handle ∧ session.chain? key = some chain ∧
      chain.negateNext = true ∧ findKey? handle session.handles = some place ∧
      after.operations = session.operations.modify place Operation.negate := by
  cases change with
  | @recorded _ key slot operation found records unmarked =>
      refine Or.inl fun place inside => ?_
      have apart : session.operations.length ≠ place := by omega
      rw [push_operations]
      split
      · exact (List.getElem?_modify_ne _ _ apart).trans (List.getElem?_append_left inside)
      · exact List.getElem?_append_left inside
  | @added key handle slot place found held =>
      rw [push_operations]
      cases pending : slot.chain.negateNext with
      | false => exact Or.inl fun _ _ => rfl
      | true => exact Or.inr ⟨key, handle, slot.chain, place, rfl, found_chain found, pending, held, rfl⟩
  | kept => exact Or.inl fun place inside => List.getElem?_append_left inside
  | _ => exact Or.inl fun _ _ => rfl

end Effects

end Session

end TextChain
