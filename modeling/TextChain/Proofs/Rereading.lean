import TextChain.Proofs.JsonValues
import TextChain.Proofs.Places

/-!
Steps that are written down and read again. Reading settles everything that a definition leaves open: each
step has its settings and a place of its own. Written down as they are, steps ask for what they have, so
reading them gives them back, in whatever order they stand.
-/

namespace TextChain

variable {label : String} {position : Nat}

/-! ## What was asked for -/

/-- An entry that is read asks for the step that is read. -/
theorem asks_of_read {entry : Value} {step : Step} (read : readEntry label position entry = .ok step) :
    Asks position entry step := by
  obtain ⟨fields, rfl, operation, truthful, given⟩ := read_entry_fields read
  refine ⟨fields, rfl, operation, truthful, ?settings, ?order⟩
  case settings =>
    unfold entrySettings at given
    split at given
    next absent => exact Or.inl ⟨absent, (Except.ok.inj given).symm⟩
    next settings present =>
      rw [← Except.ok.inj given]
      exact Or.inr present
    next => cases given
  case order =>
    simp only [readEntry, ← operation, truthful, Bool.not_true, Bool.false_eq_true, ↓reduceIte, given,
      ok_bind] at read
    obtain ⟨order, asked, made⟩ := bind_eq_ok.mp read
    rw [← Except.ok.inj made]
    exact asked

theorem requests_of_read {rows : List Row} {entries : List Value} {written : List Step}
    (read : readEntries label position rows entries = .ok written) :
    ∃ asked, Requests position entries asked := by
  induction entries generalizing position rows written with
  | nil => exact ⟨[], .none⟩
  | cons entry rest ih =>
      obtain ⟨step, later, head, tail, _⟩ := read_entries_cons.mp read
      obtain ⟨asked, others⟩ := ih tail
      exact ⟨step :: asked, .more (asks_of_read head) others⟩

theorem read_settles {entries : List Value} {asked : List Step} (label : String)
    (requests : Requests 0 entries asked) : readEntries label 0 [] entries = .ok (settle [] asked) :=
  read_entries_settle label requests ⟨by simp, List.Pairwise.nil⟩ fun place => by simp [Covered]

theorem read_ascending {definition : Value} {steps : List Step}
    (read : readDefinition definition label = .ok steps) :
    steps.Pairwise fun a b => a.order < b.order := by
  obtain ⟨entries, written, _, readAll, rfl⟩ := read_definition_iff.mp read
  obtain ⟨asked, requests⟩ := requests_of_read readAll
  cases readAll.symm.trans (read_settles label requests)
  exact sorted_ascending (settle_apart [] asked).2

/-! ## Reading again -/

theorem written_step_asks {step : Step} (truthful : step.operation.truthy = true) (position : Nat) :
    Asks position step.toValue step := by
  refine ⟨_, rfl, rfl, truthful, Or.inr ?settings, rfl⟩
  cases given : step.settings with
  | nil => simp [Settings.either, get?_cons, Step.toSketch, given, Value.truthy]
  | cons setting rest => simp [Settings.either, get?_cons, Step.toSketch, given, Value.truthy]

theorem written_steps_request {steps : List Step}
    (truthful : ∀ step ∈ steps, step.operation.truthy = true) (position : Nat) :
    Requests position (steps.map Step.toValue) steps := by
  induction steps generalizing position with
  | nil => exact .none
  | cons step rest ih =>
      obtain ⟨first, others⟩ := List.forall_mem_cons.mp truthful
      exact .more (written_step_asks first position) (ih others (position + 1))

theorem settle_apart_steps {taken : List Int} {steps : List Step}
    (free : ∀ step ∈ steps, step.order ∉ taken)
    (apart : steps.Pairwise fun a b => a.order ≠ b.order) : settle taken steps = steps := by
  induction steps generalizing taken with
  | nil => rfl
  | cons step rest ih =>
      obtain ⟨freeHere, freeLater⟩ := List.forall_mem_cons.mp free
      obtain ⟨different, apartLater⟩ := List.pairwise_cons.mp apart
      have place : countUp taken step.order = step.order := by
        rw [countUp, if_neg freeHere]
      have freeBehind : ∀ later ∈ rest, later.order ∉ step.order :: taken := by
        intro later member old
        rcases List.mem_cons.mp old with same | before
        · exact different later member same.symm
        · exact freeLater later member before
      rw [settle, place, ih freeBehind apartLater]

theorem list_definition (entries : List Value) :
    definitionEntries (.list entries) label = .ok entries := by
  cases entries <;> rfl

theorem reread_any_order {steps other : List Step}
    (ascending : steps.Pairwise fun a b => a.order < b.order)
    (truthful : ∀ step ∈ steps, step.operation.truthy = true) (order : other.Perm steps) :
    readDefinition (.list (other.map Step.toValue)) label = .ok steps := by
  have apart : other.Pairwise fun a b => a.order ≠ b.order :=
    (order.pairwise_iff Ne.symm).mpr (ascending.imp fun less => by omega)
  have requests := written_steps_request (fun step member => truthful step (order.subset member)) 0
  have read := read_settles label requests
  rw [settle_apart_steps (by simp) apart] at read
  refine read_definition_iff.mpr ⟨_, other, list_definition _, read, ?_⟩
  -- A list in ascending order is the only one among its rearrangements.
  refine (order.symm.trans (List.mergeSort_perm other Step.le).symm).eq_of_pairwise ?_ ascending
    (sorted_ascending apart)
  intro a b _ _ less greater
  omega

/-! ## Equality of steps -/

section Written
variable {sort : Float → Prop}

theorem written_items {data : Value} {items : List Value} (written : data.Written sort)
    (taken : data.items = .ok items) : ∀ item ∈ items, item.Written sort := by
  cases written with
  | list each =>
      cases taken
      exact each
  | text s =>
      cases taken
      intro item member
      obtain ⟨c, _, rfl⟩ := List.mem_map.mp member
      exact .text _
  | dict distinct each =>
      cases taken
      intro item member
      obtain ⟨entry, _, rfl⟩ := List.mem_map.mp member
      exact .text _
  | _ => cases taken

theorem written_either {fields : Settings} {name : String} {standard : Value}
    (each : ∀ entry ∈ fields, entry.2.Written sort) (plain : standard.Written sort) :
    (fields.either name standard).Written sort := by
  unfold Settings.either
  cases given : fields.get? name with
  | none => exact plain
  | some value =>
      obtain ⟨entry, found, rfl⟩ := Option.map_eq_some_iff.mp given
      exact each entry (List.mem_of_find?_eq_some found)

theorem asked_written {entry : Value} {step : Step} (asks : Asks position entry step)
    (written : entry.Written sort) :
    step.operation.Written sort ∧ (Value.dict step.settings).Written sort := by
  obtain ⟨fields, rfl, operation, _, settings, _⟩ := asks
  cases written with
  | dict distinct each =>
      rw [operation]
      refine ⟨written_either each .nothing, ?_⟩
      rcases settings with ⟨_, empty⟩ | given
      · rw [empty]
        exact .dict List.nodup_nil nofun
      · rw [← given]
        exact written_either each .nothing

theorem step_written {step : Step} (operation : step.operation.Written sort)
    (settings : (Value.dict step.settings).Written sort) : step.toValue.Written sort := by
  refine .dict (by simp) ?_
  simp only [List.forall_mem_cons]
  refine ⟨operation, ?_, .int _, nofun⟩
  split
  · exact settings
  · exact .dict List.nodup_nil nofun

theorem settled_written {entries : List Value} {asked : List Step} (taken : List Int)
    (requests : Requests position entries asked) (written : ∀ entry ∈ entries, entry.Written sort) :
    ∀ step ∈ settle taken asked, step.toValue.Written sort := by
  induction requests generalizing taken with
  | none => exact nofun
  | more first others ih =>
      obtain ⟨here, later⟩ := List.forall_mem_cons.mp written
      obtain ⟨operation, settings⟩ := asked_written first here
      exact List.forall_mem_cons.mpr ⟨step_written operation settings, ih _ later⟩

theorem read_written {definition data : Value} {steps : List Step}
    (read : readDefinition definition label = .ok steps)
    (loaded : loadDefinition definition label = .ok data) (written : data.Written sort) :
    ∀ step ∈ steps, step.toValue.Written sort := by
  obtain ⟨entries, settled, items, readAll, rfl⟩ := read_definition_iff.mp read
  obtain ⟨asked, requests⟩ := requests_of_read readAll
  cases readAll.symm.trans (read_settles label requests)
  rw [definitionEntries, loaded, ok_bind] at items
  have each : ∀ entry ∈ entries, entry.Written sort := by
    split at items
    · cases items
      exact List.forall_mem_nil _
    · exact written_items written items
  intro step member
  exact settled_written [] requests each step (List.mem_mergeSort.mp member)

end Written

/-- Steps that were read and are written down again, in whatever order, are read as the same steps in the
same order. If no number of the data differs from itself, none of them does. -/
theorem steps_reread {definition : Value} {label : String} {steps : List Step}
    (read : readDefinition definition label = .ok steps) :
    (∀ (other : List Step) (again : String), other.Perm steps →
      readDefinition (.list (other.map Step.toValue)) again = .ok steps) ∧
    ∀ data, loadDefinition definition label = .ok data → data.Written (fun x => (x == x) = true) →
      ∀ step ∈ steps, step.toSketch.same step.toSketch = true := by
  refine ⟨fun other again order => ?_, fun data loaded written step member => ?_⟩
  · exact reread_any_order (read_ascending read) (read_definition_truthy read) order
  · exact written_same (read_written read loaded written step member)

/-! ### Steps written down in reverse -/

def openEntries : List Value :=
  [.dict [("operation", .text "trim"), ("operation_config", .nothing), ("order_index", .text "1")],
    .dict [("operation", .text "to_hash")]]

def settledSteps : List Step := [⟨.text "trim", [], 1⟩, ⟨.text "to_hash", [], 2⟩]

theorem reversed_steps_reread :
    readDefinition (.list openEntries) "Unnamed" = .ok settledSteps ∧
      readDefinition (.list (settledSteps.reverse.map Step.toValue)) "again" = .ok settledSteps := by
  have read : readDefinition (.list openEntries) "Unnamed" = .ok settledSteps := by
    refine read_definition_iff.mpr ⟨openEntries, settledSteps, rfl, rfl, Eq.symm ?_⟩
    exact List.mergeSort_of_pairwise (by simp [settledSteps, Step.le])
  exact ⟨read, (steps_reread read).1 settledSteps.reverse "again" (List.reverse_perm settledSteps)⟩

end TextChain
