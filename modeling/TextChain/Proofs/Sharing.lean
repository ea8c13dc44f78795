import TextChain.Proofs.Changes

/-!
What a chain has to fear from calls on other chains. Its slot is its own, and so are its subject, its list
of steps and its pending negation. Its steps are operations that other chains may hold as well, and a chain
that is to negate its next step leaves the mark on the operation, for all who hold it to see.
-/

namespace TextChain

namespace Session

/-- The move adds an operation that the chain of a slot holds, not negated so far, to a chain that is to
negate its next step. -/
def NegatesShared (session : Session) (move : Move) (other : String) : Prop :=
  ∃ key handle place chain held operation, move = .addStep key handle ∧
    findKey? handle session.handles = some place ∧
    session.chain? key = some chain ∧ chain.negateNext = true ∧
    session.chain? other = some held ∧ place ∈ held.steps ∧
    session.operations[place]? = some operation ∧ operation.negated ≠ some true

/-- The move is not made on a slot and puts no new chain into it. -/
structure Elsewhere (other : String) (move : Move) : Prop where
  unasked : move.key? ≠ some other
  stays : ¬ move.Starts other

section Moving
variable {session after : Session} {move : Move} {outcome : Outcome Unit} {other : String}

theorem runs_key {key : String} (runs : move.Runs key) : move.key? = some key := by
  cases move with
  | call => exact congrArg some runs.1
  | verdict => exact congrArg some runs
  | attempt => exact congrArg some runs
  | _ => exact runs.elim

theorem records_key {key : String} (records : move.Records key) : move.key? = some key := by
  cases move with
  | call => exact congrArg some records.1
  | finish => exact congrArg some records
  | _ => exact records.elim

theorem push_slot_other {key : String} (slot : Slot) (place : Nat) (different : other ≠ key) :
    findKey? other (session.push key slot place).slots = findKey? other session.slots := by
  unfold push setSlot
  rw [findKey?_bindKey_other _ _ _ different]
  split <;> rfl

/-- Slots are changed by moves that are made on them. -/
theorem elsewhere_slot (change : Change session move outcome after)
    (elsewhere : Elsewhere other move) :
    findKey? other after.slots = findKey? other session.slots := by
  have apart {key : String} (made : move.key? = some key) : other ≠ key := by
    rintro rfl
    exact elsewhere.unasked made
  have unstarted {key : String} : move.Starts key → other ≠ key := starts_apart elsewhere.stays
  cases change with
  | ran found runs => exact findKey?_bindKey_other _ _ _ (apart (runs_key runs))
  | asked found called kind => exact findKey?_bindKey_other _ _ _ (apart rfl)
  | recorded found records unmarked => exact push_slot_other _ _ (apart (records_key records))
  | added found held => exact push_slot_other _ _ (apart rfl)
  | begun starts => exact findKey?_bindKey_other _ _ _ (unstarted starts)
  | crossed found runs starts =>
      exact (findKey?_bindKey_other _ _ _ (unstarted starts)).trans
        (findKey?_bindKey_other _ _ _ (apart (runs_key runs)))
  | _ => rfl

theorem negate_marked {operation : Operation} (marked : operation.negated = some true) :
    operation.negate = operation := by
  rw [Operation.negate, ← marked]

/-- A chain without the one operation that was negated has the steps it had. -/
theorem unshared_keeps (sound : Sound session) (change : Change session move outcome after)
    (unshared : ¬ NegatesShared session move other) {held : Chain Nat}
    (bound : session.chain? other = some held) :
    ∀ place ∈ held.steps, after.operations[place]? = session.operations[place]? := by
  intro place member
  have inside := sound.steps other held bound place member
  rcases operations_change change with
    kept | ⟨key, handle, chain, added, asked, asking, waits, found, negated⟩
  · exact kept place inside
  · rw [negated]
    by_cases same : added = place
    · -- The operation is shared, so it must have been negated before, and negating it again does nothing.
      subst same
      have stored : session.operations[added]? = some session.operations[added] :=
        List.getElem?_eq_getElem inside
      have marked : session.operations[added].negated = some true := by
        refine Decidable.byContradiction fun unmarked => unshared ?_
        exact ⟨key, handle, added, chain, held, _, asked, found, asking, waits, bound, member, stored,
          unmarked⟩
      rw [List.getElem?_modify_eq, stored]
      exact congrArg some (negate_marked marked)
    · exact List.getElem?_modify_ne _ _ same

theorem elsewhere_chain (change : Change session move outcome after)
    (elsewhere : Elsewhere other move) : after.chain? other = session.chain? other := by
  rw [chain?, chain?, elsewhere_slot change elsewhere]

theorem unbound_steps (unbound : session.chain? other = none) : session.stepsOf other = [] := by
  rw [stepsOf, unbound]

theorem unshared_steps (sound : Sound session) (change : Change session move outcome after)
    (elsewhere : Elsewhere other move) (unshared : ¬ NegatesShared session move other) :
    after.stepsOf other = session.stepsOf other := by
  have same := elsewhere_chain change elsewhere
  cases bound : session.chain? other with
  | none => rw [unbound_steps bound, unbound_steps (same.trans bound)]
  | some held =>
      exact stepsOf_kept bound (same.trans bound) rfl (unshared_keeps sound change unshared bound)

/-- The most that can happen to a step is that it is negated. -/
theorem elsewhere_step (sound : Sound session) (change : Change session move outcome after)
    (elsewhere : Elsewhere other move) (index : Nat) :
    (after.stepsOf other)[index]? = (session.stepsOf other)[index]? ∨
      (after.stepsOf other)[index]? = (session.stepsOf other)[index]?.map Operation.negate := by
  have same := elsewhere_chain change elsewhere
  cases bound : session.chain? other with
  | none => exact Or.inl (by rw [unbound_steps bound, unbound_steps (same.trans bound)])
  | some held =>
      rw [stepsOf_get sound bound, stepsOf_get (sound.change change) (same.trans bound)]
      cases listed : held.steps[index]? with
      | none => exact Or.inl rfl
      | some place =>
          have inside := sound.steps other held bound place (List.mem_of_getElem? listed)
          simp only [Option.bind_some]
          rcases operations_change change with kept | ⟨_, _, _, added, _, _, _, _, negated⟩
          · exact Or.inl (kept place inside)
          · rw [negated]
            by_cases shared : added = place
            · rw [shared, List.getElem?_modify_eq]
              exact Or.inr rfl
            · exact Or.inl (List.getElem?_modify_ne _ _ shared)

theorem added_after {key handle : String} {slot : Slot} {place : Nat}
    (found : findKey? key session.slots = some slot)
    (held : findKey? handle session.handles = some place) :
    session.after (.addStep key handle) = session.push key slot place := by
  simp only [Session.after, make, addStep, slot_iff.mpr found, lookUp_iff.mpr held]
  rfl

/-- A step that is negated from elsewhere is not what it was. -/
theorem shared_steps (sound : Sound session) (elsewhere : Elsewhere other move)
    (shared : NegatesShared session move other) :
    (session.after move).stepsOf other ≠ session.stepsOf other := by
  have change := make_change session move
  have same := elsewhere_chain change elsewhere
  obtain ⟨key, handle, place, chain, held, operation, rfl, kept, asking, waits, bound, member, stored,
    unmarked⟩ := shared
  obtain ⟨slot, found, rfl⟩ := Option.map_eq_some_iff.mp asking
  obtain ⟨index, listed⟩ := List.getElem?_of_mem member
  have before : (session.stepsOf other)[index]? = some operation := by
    rw [stepsOf_get sound bound, listed]
    exact stored
  have later : ((session.after (.addStep key handle)).stepsOf other)[index]? =
      some operation.negate := by
    rw [stepsOf_get (sound.change change) (same.trans bound), listed, added_after found kept,
      Option.bind_some, push_operations, if_pos waits, List.getElem?_modify_eq, stored]
    rfl
  -- Were the steps the same, the operation would have been negated all along.
  intro equal
  rw [equal, before] at later
  refine unmarked ?_
  rw [Option.some.inj later]
  rfl

theorem answers_of_steps (chains : after.chain? other = session.chain? other)
    (steps : after.stepsOf other = session.stepsOf other) : AnswersAlike after session other := by
  refine answersAlike_of_report ?_
  rw [report?, report?, chains, steps]

end Moving

/-- Moves elsewhere that negate no shared step leave a chain, its log and its steps as they are. -/
theorem elsewhere_play {session : Session} {moves : List Move} {other : String} (sound : Sound session)
    (elsewhere : ∀ move ∈ moves, Elsewhere other move)
    (unshared : ∀ before move later, moves = before ++ move :: later →
      ¬ NegatesShared (session.play before) move other) :
    findKey? other (session.play moves).slots = findKey? other session.slots ∧
      (session.play moves).stepsOf other = session.stepsOf other := by
  induction moves generalizing session with
  | nil => exact ⟨rfl, rfl⟩
  | cons move rest ih =>
      have change := make_change session move
      have first := elsewhere move List.mem_cons_self
      have others := ih (sound.change change)
        (fun later member => elsewhere later (List.mem_cons_of_mem move member))
        (fun before next later split => unshared (move :: before) next later (by rw [split]; rfl))
      constructor
      · exact others.1.trans (elsewhere_slot change first)
      · exact others.2.trans (unshared_steps sound change first (unshared [] move rest rfl))

/-- What is done elsewhere leaves a chain its subject, its list of steps, its pending negation and its log.
Its steps can be negated, but nothing else can happen to them, and that does happen exactly if one of them
is added to a chain that is to negate its next step. Otherwise the chain answers as it did. -/
theorem marks_are_shared {session : Session} (reachable : Reachable session) (other : String) :
    (∀ move, Elsewhere other move →
      findKey? other (session.after move).slots = findKey? other session.slots ∧
      (∀ index : Nat, ((session.after move).stepsOf other)[index]? =
          (session.stepsOf other)[index]? ∨
        ((session.after move).stepsOf other)[index]? =
          (session.stepsOf other)[index]?.map Operation.negate) ∧
      ((session.after move).stepsOf other ≠ session.stepsOf other ↔
        NegatesShared session move other) ∧
      (¬ NegatesShared session move other → AnswersAlike (session.after move) session other)) ∧
    ∀ moves, (∀ move ∈ moves, Elsewhere other move) →
      (∀ before move later, moves = before ++ move :: later →
        ¬ NegatesShared (session.play before) move other) →
      findKey? other (session.play moves).slots = findKey? other session.slots ∧
        (session.play moves).stepsOf other = session.stepsOf other ∧
        AnswersAlike (session.play moves) session other := by
  have sound := reachable.sound
  constructor
  · intro move elsewhere
    have change := make_change session move
    refine ⟨elsewhere_slot change elsewhere, elsewhere_step sound change elsewhere, ⟨?_, ?_⟩, ?_⟩
    · exact fun changed => Classical.byContradiction fun unshared =>
        changed (unshared_steps sound change elsewhere unshared)
    · exact shared_steps sound elsewhere
    · exact fun unshared => answers_of_steps (elsewhere_chain change elsewhere)
        (unshared_steps sound change elsewhere unshared)
  -- Each of the moves leaves the chain alone, and the next one starts from there.
  · intro moves elsewhere unshared
    obtain ⟨slots, steps⟩ := elsewhere_play sound elsewhere unshared
    refine ⟨slots, steps, answers_of_steps ?_ steps⟩
    rw [chain?, chain?, slots]

/-! ### One operation in two chains -/

/-- The chain "b" holds a test, and the chain "a" waits to negate its next step. -/
def twoChains : Session := ({} : Session).play
  [.begin "b" .assertion (.text "abc"),
    .keep "h" (.text "has") (.text "assertion") [("substring", .text "a")] none none,
    .addStep "b" "h", .begin "a" .assertion (.text "abc"), .call "a" "a" { method := "is_not" } none]

theorem shared_test_turns :
    (Reachable twoChains ∧ Elsewhere "b" (.addStep "a" "h")) ∧
    (twoChains.after (.addStep "a" "h")).stepsOf "b" ≠ twoChains.stepsOf "b" ∧
    (twoChains.verdict "b").answer = .ok (.passed (.bool true)) ∧
    ((twoChains.after (.addStep "a" "h")).verdict "b").answer =
      .ok (.failed (.text "has") (.text "abc")) := by
  have reachable : Reachable twoChains := ⟨_, rfl⟩
  have elsewhere : Elsewhere "b" (.addStep "a" "h") := ⟨by decide, id⟩
  have shared : NegatesShared twoChains (.addStep "a" "h") "b" :=
    ⟨"a", "h", 0, _, _, _, rfl, rfl, rfl, rfl, rfl, List.mem_cons_self, rfl, by decide⟩
  obtain ⟨_, _, changed, _⟩ := (marks_are_shared reachable "b").1 _ elsewhere
  exact ⟨⟨reachable, elsewhere⟩, changed.mpr shared, rfl, rfl⟩

end Session

end TextChain
