import TextChain.Proofs.FailedMoves

/-!
Where negations go. A chain that was asked to negate its next step promises to negate the step that comes
next, and a step that was recorded has had its promise kept or was not promised anything. Every move keeps
the promises there are, and only asking for a negation makes a new one.
-/

namespace TextChain

namespace Session

/-- Seen from the chain of a slot the move adds a fresh operation only: nowhere one that the chain has
already, and to the chain itself none that is negated already. -/
def AddsFresh (session : Session) (key : String) : Move → Prop
  | .addStep other handle => ∀ place, findKey? handle session.handles = some place →
      (∀ chain, session.chain? key = some chain → place ∉ chain.steps) ∧
        (other = key → ∀ operation, session.operations[place]? = some operation →
          operation.negated ≠ some true)
  | _ => True

def AskedAt (start : Session) (moves : List Move) (key : String) (index : Nat) : Prop :=
  ∃ before move later, moves = before ++ move :: later ∧ move.Asks key ∧
    ((start.play before).stepsOf key).length = index

/-- The step of an index is negated, or it is the one that comes next and a negation waits for it. -/
def Promised (session : Session) (key : String) (index : Nat) : Prop :=
  (∃ operation, (session.stepsOf key)[index]? = some operation ∧ operation.negated = some true) ∨
    (session.stepsOf key).length = index ∧
      ∃ chain, session.chain? key = some chain ∧ chain.negateNext = true

/-! ## One move -/

section Moving
variable {session after : Session} {move : Move} {outcome : Outcome Unit} {key : String}
  {chain : Chain Nat}

theorem fresh_keeps (sound : Sound session) (change : Change session move outcome after)
    (fresh : session.AddsFresh key move) (bound : session.chain? key = some chain) :
    ∀ place ∈ chain.steps, after.operations[place]? = session.operations[place]? := by
  intro place member
  rcases operations_change change with kept | ⟨_, handle, _, added, rfl, _, _, held, negated⟩
  · exact kept place (sound.steps key chain bound place member)
  · have apart : added ≠ place := by
      rintro rfl
      exact (fresh added held).1 chain bound member
    rw [negated]
    exact List.getElem?_modify_ne _ _ apart

theorem kind_stays (sound : Sound session) (change : Change session move outcome after)
    (stays : ¬ move.Starts key) (bound : session.chain? key = some chain) :
    ∃ next, after.chain? key = some next ∧ next.kind = chain.kind := by
  rcases chain_change sound change stays bound with same | ⟨_, asked⟩ | ⟨place, _, pushed, _⟩
  · exact ⟨chain, same, rfl⟩
  · exact ⟨chain.isNot, asked, rfl⟩
  · exact ⟨chain.push place, pushed, rfl⟩

/-- What a move does to a chain: nothing, or it makes it wait to negate, or it appends a step, which is
negated if that was waited for. -/
theorem fresh_change (sound : Sound session) (change : Change session move outcome after)
    (stays : ¬ move.Starts key) (fresh : session.AddsFresh key move)
    (bound : session.chain? key = some chain) :
    ∃ next, after.chain? key = some next ∧
      (next = chain ∧ after.stepsOf key = session.stepsOf key ∨
        move.Asks key ∧ next = chain.isNot ∧ after.stepsOf key = session.stepsOf key ∨
        ∃ place operation, next = chain.push place ∧
          after.stepsOf key = session.stepsOf key ++ [operation] ∧
          (operation.negated = some true ↔ chain.negateNext = true)) := by
  have kept := fresh_keeps sound change fresh bound
  rcases chain_change sound change stays bound with
    same | ⟨asks, asked⟩ | ⟨place, operation, pushed, _, stored, mark⟩
  · exact ⟨chain, same, Or.inl ⟨rfl, stepsOf_kept bound same rfl kept⟩⟩
  · exact ⟨chain.isNot, asked, Or.inr (Or.inl ⟨asks, rfl, stepsOf_kept bound asked rfl kept⟩)⟩
  · refine ⟨chain.push place, pushed, Or.inr (Or.inr ⟨place, operation, rfl, ?_, mark.trans ?_⟩)⟩
    · rw [stepsOf_bound bound, stepsOf_push pushed stored, resolve_kept kept]
    · refine or_iff_left ?_
      rintro ⟨handle, _, rfl, held, found, marked⟩
      exact (fresh place held).2 rfl _ found marked

/-- A test chain always lets itself be asked for a negation. -/
theorem asks_change (asks : move.Asks key) (bound : session.chain? key = some chain)
    (kind : chain.kind = .assertion) :
    (session.after move).chain? key = some chain.isNot ∧
      (session.after move).operations = session.operations ∧
      ∀ other, other ≠ key → (session.after move).chain? other = session.chain? other := by
  obtain ⟨slot, found, rfl⟩ := Option.map_eq_some_iff.mp bound
  cases move with
  | call source target first closing =>
      obtain ⟨rfl, called⟩ := asks
      have looked := slot_iff.mpr found
      have changed : session.after (.call source target first closing) =
          session.setSlot source { slot with chain := slot.chain.isNot } := by
        simp only [after, make, call, looked, kind, request_is_not closing called]
        rfl
      rw [changed]
      exact ⟨setSlot_chain_self .., rfl, fun other different => setSlot_chain_other _ _ different⟩
  | _ => exact asks.elim

theorem asks_steps (asks : move.Asks key) (bound : session.chain? key = some chain)
    (kind : chain.kind = .assertion) (other : String) :
    (session.after move).stepsOf other = session.stepsOf other := by
  obtain ⟨asked, operations, others⟩ := asks_change asks bound kind
  by_cases same : other = key
  · rw [same]
    exact stepsOf_kept bound asked rfl fun place _ => by rw [operations]
  · rw [stepsOf, stepsOf, others other same]
    unfold resolve
    rw [operations]

theorem asks_answers (asks : move.Asks key) (bound : session.chain? key = some chain)
    (kind : chain.kind = .assertion) (other : String) :
    AnswersAlike (session.after move) session other := by
  refine answersAlike_of_report ?_
  obtain ⟨asked, _, others⟩ := asks_change asks bound kind
  unfold report?
  rw [asks_steps asks bound kind]
  by_cases same : other = key
  · rw [same, asked, bound]
    rfl
  · rw [others other same]

/-- A step that is appended takes up the promise that was made for it. -/
theorem promised_push {place : Nat} {operation : Operation} (bound : session.chain? key = some chain)
    (later : after.chain? key = some (chain.push place))
    (steps : after.stepsOf key = session.stepsOf key ++ [operation])
    (mark : operation.negated = some true ↔ chain.negateNext = true) (index : Nat) :
    after.Promised key index ↔ session.Promised key index := by
  have settled : ¬ ∃ next, after.chain? key = some next ∧ next.negateNext = true := by
    rintro ⟨next, bound, waits⟩
    rw [later] at bound
    cases bound
    cases waits
  unfold Promised
  rw [or_iff_left fun ⟨_, waits⟩ => settled waits, steps, bound]
  rcases Nat.lt_trichotomy index (session.stepsOf key).length with old | rfl | beyond
  · rw [List.getElem?_append_left old, or_iff_left fun ⟨next, _⟩ => absurd next (Nat.ne_of_gt old)]
  · simp [mark]
  · have absent : (session.stepsOf key)[index]? = none :=
      List.getElem?_eq_none (Nat.le_of_lt beyond)
    have absentLater : (session.stepsOf key ++ [operation])[index]? = none := by
      refine List.getElem?_eq_none ?_
      rwa [List.length_append, List.length_singleton]
    simp [absent, absentLater, Nat.ne_of_lt beyond]

/-- Only asking for a negation makes a promise, and no promise is lost. -/
theorem promised_move (sound : Sound session) (stays : ¬ move.Starts key)
    (fresh : session.AddsFresh key move) (bound : session.chain? key = some chain)
    (kind : chain.kind = .assertion) (index : Nat) :
    (session.after move).Promised key index ↔ session.Promised key index ∨
      move.Asks key ∧ (session.stepsOf key).length = index := by
  by_cases asks : move.Asks key
  · have asked := (asks_change asks bound kind).1
    have steps := asks_steps asks bound kind key
    unfold Promised
    rw [steps, asked, bound]
    constructor
    · rintro (marked | ⟨next, _⟩)
      · exact Or.inl (Or.inl marked)
      · exact Or.inr ⟨asks, next⟩
    · rintro ((marked | ⟨next, _⟩) | ⟨_, next⟩)
      · exact Or.inl marked
      · exact Or.inr ⟨next, _, rfl, rfl⟩
      · exact Or.inr ⟨next, _, rfl, rfl⟩
  · -- Without being asked the chain keeps its flag or uses it up on the step that it appends.
    rw [or_iff_left fun ⟨asked, _⟩ => asks asked]
    obtain ⟨next, later, course⟩ := fresh_change sound (make_change session move) stays fresh bound
    rcases course with ⟨rfl, steps⟩ | ⟨asked, _⟩ | ⟨place, operation, rfl, steps, mark⟩
    · unfold Promised
      rw [steps, later, bound]
    · exact absurd asked asks
    · exact promised_push bound later steps mark index

end Moving

/-! ## Moves that record nothing -/

section Idling
variable {session after : Session} {move : Move} {outcome : Outcome Unit} {key source : String}

theorem records_busy {kind : Kind} (records : move.Records source) :
    ¬ (move.Runs key ∨ move.Opens key kind) := by
  cases move with
  | call chain target first closing =>
      obtain ⟨_, named, unopened⟩ := records
      rintro (⟨_, other, bridging⟩ | opens)
      · exact named other bridging
      · cases closing with
        | none => exact opens.2 (unopened rfl kind)
        | some last => exact opens
  | finish chain opened last => exact fun idle => idle.elim id id
  | _ => exact records.elim

theorem asks_busy {kind : Kind} {target : String} {first : Call} {closing : Option Call}
    (called : first.method = "is_not") :
    ¬ ((Move.call source target first closing).Runs key ∨
      (Move.call source target first closing).Opens key kind) := by
  rintro (⟨_, other, bridging⟩ | opens)
  · rw [called] at bridging
    cases other <;> exact absurd bridging (by decide)
  · cases closing with
    | none =>
        refine opens.2 (opened_none fun opener listed => ?_)
        rw [called]
        exact (opener_apart kind kind opener listed).2.2
    | some last => exact opens

theorem idle_keeps {kind : Kind} (change : Change session move outcome after)
    (idle : move.Runs key ∨ move.Opens key kind) (stays : ¬ move.Starts key) :
    after.chain? key = session.chain? key ∧ after.operations = session.operations := by
  cases change with
  | ran found runs => exact ⟨run_chain found key, rfl⟩
  | asked found called _ => exact absurd idle (asks_busy called)
  | recorded found records _ => exact absurd idle (records_busy records)
  | added found held => exact idle.elim False.elim False.elim
  | begun starts => exact ⟨setSlot_chain_other session _ (starts_apart stays starts), rfl⟩
  | crossed found runs starts =>
      have apart := starts_apart stays starts
      exact ⟨(setSlot_chain_other _ _ apart).trans (run_chain found key), rfl⟩
  | kept => exact idle.elim False.elim False.elim
  | _ => exact ⟨rfl, rfl⟩

/-- A call that opens a step leaves the session as it is, and to close the step in the same call is to
close it afterwards. -/
theorem opened_closed {chain : Chain Nat} {first : Call} {opened : Opened}
    (bound : session.chain? key = some chain) (opens : first.opened? chain.kind = some opened)
    (target : String) :
    session.after (.call key target first none) = session ∧
      ∀ last, session.make (.call key target first (some last)) =
        session.make (.finish key opened last) := by
  obtain ⟨slot, found, rfl⟩ := Option.map_eq_some_iff.mp bound
  have looked := slot_iff.mpr found
  constructor
  · simp only [Session.after, make, call, looked, request_opened none opens]
    rfl
  · intro last
    simp only [make, call, finish, looked, request_opened (some last) opens]
    cases closed : closeStep opened.opener opened.call (some last) with
    | error failure => rfl
    | ok request =>
        obtain ⟨name, settings, rfl⟩ := closeStep_records closed
        rfl

end Idling

/-! ## All moves -/

section Playing
variable {start : Session} {key : String}

theorem askedAt_nil (index : Nat) : ¬ AskedAt start [] key index := by
  rintro ⟨before, move, later, empty, _⟩
  exact absurd empty.symm (by simp)

theorem askedAt_cons (move : Move) (rest : List Move) (index : Nat) :
    AskedAt start (move :: rest) key index ↔
      (move.Asks key ∧ (start.stepsOf key).length = index) ∨
        AskedAt (start.after move) rest key index := by
  constructor
  · rintro ⟨before, asking, later, split, asks, count⟩
    cases before with
    | nil =>
        cases split
        exact Or.inl ⟨asks, count⟩
    | cons first before =>
        cases split
        exact Or.inr ⟨before, asking, later, rfl, asks, count⟩
  · rintro (⟨asks, count⟩ | ⟨before, asking, later, rfl, asks, count⟩)
    · exact ⟨[], move, rest, rfl, asks, count⟩
    · exact ⟨move :: before, asking, later, rfl, asks, count⟩

/-- Moves that start no other chain in a slot and add fresh operations only. -/
structure Building (start : Session) (moves : List Move) (key : String) : Prop where
  stays : ∀ move ∈ moves, ¬ move.Starts key
  fresh : ∀ before move later, moves = before ++ move :: later →
    (start.play before).AddsFresh key move

theorem Building.none : Building start [] key :=
  ⟨nofun, fun before move later empty => absurd empty.symm (by simp)⟩

theorem Building.more {move : Move} {rest : List Move} (stays : ¬ move.Starts key)
    (fresh : start.AddsFresh key move) (building : Building (start.after move) rest key) :
    Building start (move :: rest) key := by
  refine ⟨?_, fun before next later split => ?_⟩
  · rintro next (_ | ⟨_, member⟩)
    · exact stays
    · exact building.stays next member
  · cases before with
    | nil =>
        cases split
        exact fresh
    | cons first before =>
        cases split
        exact building.fresh before next later rfl

theorem Building.rest {move : Move} {rest : List Move} (building : Building start (move :: rest) key) :
    Building (start.after move) rest key := by
  constructor
  · exact fun later member => building.stays later (List.mem_cons_of_mem move member)
  · rintro before next later rfl
    exact building.fresh (move :: before) next later rfl

/-- The promises in the end are those of the beginning and those that were asked for. -/
theorem promised_play {moves : List Move} {chain : Chain Nat} (sound : Sound start)
    (building : Building start moves key) (bound : start.chain? key = some chain)
    (kind : chain.kind = .assertion) (index : Nat) :
    (start.play moves).Promised key index ↔
      start.Promised key index ∨ AskedAt start moves key index := by
  -- The flag comes and goes and marks are set, but what is promised only grows, by what each move asks.
  induction moves generalizing start chain with
  | nil => exact (or_iff_left (askedAt_nil index)).symm
  | cons move rest ih =>
      have stays := building.stays move List.mem_cons_self
      have fresh := building.fresh [] move rest rfl
      have change := make_change start move
      obtain ⟨next, later, sameKind⟩ := kind_stays sound change stays bound
      have first := promised_move sound stays fresh bound kind index
      have others := ih (sound.change change) building.rest later (sameKind.trans kind)
      exact others.trans ((or_congr_left first).trans (or_assoc.trans
        (or_congr_right (askedAt_cons move rest index).symm)))

theorem Building.kind_stays {moves : List Move} {chain : Chain Nat} (sound : Sound start)
    (building : Building start moves key) (bound : start.chain? key = some chain) :
    ∃ last, (start.play moves).chain? key = some last ∧ last.kind = chain.kind := by
  induction moves generalizing start chain with
  | nil => exact ⟨chain, bound, rfl⟩
  | cons move rest ih =>
      have change := make_change start move
      have stays := building.stays move List.mem_cons_self
      obtain ⟨next, later, same⟩ := Session.kind_stays sound change stays bound
      obtain ⟨last, final, sameLast⟩ := ih (sound.change change) building.rest later
      exact ⟨last, final, sameLast.trans same⟩

theorem promised_get {session : Session} {index : Nat} {operation : Operation}
    (recorded : (session.stepsOf key)[index]? = some operation) :
    session.Promised key index ↔ operation.negated = some true := by
  have inside : index < (session.stepsOf key).length := (List.getElem?_eq_some_iff.mp recorded).1
  unfold Promised
  rw [or_iff_left fun ⟨next, _⟩ => absurd next (Nat.ne_of_gt inside), recorded]
  simp

theorem promised_next {session : Session} {chain : Chain Nat}
    (bound : session.chain? key = some chain) :
    session.Promised key (session.stepsOf key).length ↔ chain.negateNext = true := by
  unfold Promised
  simp [bound]

end Playing

/-- On a test chain, built by any moves that add fresh operations only, a step is negated exactly if a
negation was asked for while there were as many steps as stand in front of it. Steps come one at a time.
Failing moves, runs of the chain and opened steps use up no negation. To ask once more changes nothing, and
no answer depends on a negation that still waits. -/
theorem negations_go_to_the_next_step {start : Session} {key : String} {subject : Value}
    {moves : List Move} (reachable : Reachable start)
    (bound : start.chain? key = some { kind := .assertion, subject })
    (building : Building start moves key) :
    (∀ index operation, ((start.play moves).stepsOf key)[index]? = some operation →
      (operation.negated = some true ↔ AskedAt start moves key index)) ∧
    (∀ move, ¬ move.Starts key → (start.play moves).AddsFresh key move →
      ∃ recorded, recorded.length ≤ 1 ∧
        ((start.play moves).after move).stepsOf key = (start.play moves).stepsOf key ++ recorded) ∧
    (∀ move, ¬ move.Starts key →
      (∃ failure, ((start.play moves).make move).1 = .error failure) ∨ move.Runs key ∨
        move.Opens key .assertion →
      ((start.play moves).after move).chain? key = (start.play moves).chain? key ∧
        ((start.play moves).after move).stepsOf key = (start.play moves).stepsOf key) ∧
    ∀ move, move.Asks key →
      (AskedAt start moves key ((start.play moves).stepsOf key).length →
        ((start.play moves).after move).chain? key = (start.play moves).chain? key) ∧
      ∀ other, ((start.play moves).after move).stepsOf other = (start.play moves).stepsOf other ∧
        AnswersAlike ((start.play moves).after move) (start.play moves) other := by
  have sound := reachable.sound
  have soundLast := sound.play moves
  obtain ⟨last, final, kind⟩ := building.kind_stays sound bound
  -- At the start there is no step and nothing pending, so every promise comes from the moves.
  have unpromised : ∀ index, ¬ start.Promised key index := by
    intro index
    have steps : start.stepsOf key = [] := by rw [stepsOf_bound bound]; rfl
    unfold Promised
    simp [steps, bound]
  have promises : ∀ index, (start.play moves).Promised key index ↔ AskedAt start moves key index :=
    fun index => (promised_play sound building bound rfl index).trans
      (or_iff_right (unpromised index))
  refine ⟨?marks, ?steps, ?idle, ?asking⟩
  case marks => exact fun index operation recorded => (promised_get recorded).symm.trans (promises index)
  case steps =>
    intro move stays fresh
    obtain ⟨next, _, course⟩ := fresh_change soundLast (make_change _ move) stays fresh final
    rcases course with ⟨_, same⟩ | ⟨_, _, same⟩ | ⟨_, operation, _, more, _⟩
    · exact ⟨[], by simp, by simp [same]⟩
    · exact ⟨[], by simp, by simp [same]⟩
    · exact ⟨[operation], by simp, more⟩
  case idle =>
    intro move stays idle
    have change := make_change (start.play moves) move
    have kept : ((start.play moves).after move).chain? key = (start.play moves).chain? key ∧
        ((start.play moves).after move).operations = (start.play moves).operations := by
      -- A move that fails keeps all chains; one that does not may run the chain or open a step of it.
      rcases idle with ⟨failure, failed⟩ | idle
      · rw [failed] at change
        exact ⟨(failed_keeps change).2 key, (failed_keeps change).1⟩
      · exact idle_keeps change idle stays
    refine ⟨kept.1, stepsOf_kept final (kept.1.trans final) rfl fun place _ => ?_⟩
    rw [kept.2]
  case asking =>
    intro move asks
    refine ⟨fun asked => ?_, fun other => ⟨asks_steps asks final kind other,
      asks_answers asks final kind other⟩⟩
    have waits : last.negateNext = true := (promised_next final).mp ((promises _).mpr asked)
    rw [(asks_change asks final kind).1, final, Chain.isNot, ← waits]

/-! ### A step that is opened first and recorded last -/

def begunFoo : Session := ({} : Session).play [.begin "a" .assertion (.text "foo")]

def keptHas : Move :=
  .keep "h" (.text "has") (.text "assertion") [("substring", .text "x")] none none

def firstCharacter : Call := { method := "where_value_at", positional := [.int 0] }

def firstOpened : Opened := ⟨(Fluent.openers .assertion).head (by decide), firstCharacter⟩

def closedLast : List Move :=
  [keptHas, .call "a" "a" { method := "is_not" } none, .call "a" "a" firstCharacter none,
    .addStep "a" "h", .finish "a" firstOpened { method := "is_", positional := [.text "f"] }]

/-- The step that was added is negated, and the one that was opened before it is not. -/
theorem closed_last_unnegated :
    (Reachable begunFoo ∧ begunFoo.chain? "a" = some { kind := .assertion, subject := .text "foo" } ∧
      Building begunFoo closedLast "a") ∧
    ((begunFoo.play closedLast).stepsOf "a").length = 2 ∧
    ∀ index operation, ((begunFoo.play closedLast).stepsOf "a")[index]? = some operation →
      (operation.negated = some true ↔ index = 0) := by
  have reachable : Reachable begunFoo := ⟨_, rfl⟩
  have building : Building begunFoo closedLast "a" := by
    refine .more id trivial <| .more (call_stays (by decide) (by decide)) trivial <|
      .more (call_stays (by decide) (by decide)) trivial <| .more id ?_ <| .more id trivial .none
    intro place held
    cases held
    refine ⟨fun chain bound => ?_, fun _ operation stored => ?_⟩
    · cases bound
      exact List.not_mem_nil
    · cases stored
      decide
  refine ⟨⟨reachable, rfl, building⟩, rfl, fun index operation recorded => ?_⟩
  have marks := (negations_go_to_the_next_step reachable rfl building).1 index operation recorded
  have asked : AskedAt begunFoo closedLast "a" index ↔
      ((begunFoo.after keptHas).stepsOf "a").length = index := by
    simp [closedLast, askedAt_cons, askedAt_nil, Move.Asks, firstCharacter, keptHas]
  exact marks.trans (asked.trans eq_comm)

end Session

end TextChain
