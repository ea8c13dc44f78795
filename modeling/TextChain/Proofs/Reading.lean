import TextChain.Definition
import TextChain.Proofs.Lookup

/-!
What reading makes of a definition: every entry that is read names an operation, and the steps that come
out are those of the entries, in the order of their places.
-/

namespace TextChain

variable {label : String} {position : Nat} {taken : List Row}

theorem read_entry_fields {entry : Value} {step : Step}
    (read : readEntry label position entry = .ok step) :
    ∃ fields, entry = .dict fields ∧ step.operation = Settings.either fields "operation" .nothing ∧
      step.operation.truthy = true ∧ entrySettings position label fields = .ok step.settings := by
  cases entry with
  | dict fields =>
      simp only [readEntry] at read
      split at read
      · cases read
      · next present =>
          obtain ⟨settings, given, rest⟩ := bind_eq_ok.mp read
          obtain ⟨order, _, made⟩ := bind_eq_ok.mp rest
          cases made
          exact ⟨fields, rfl, rfl, by simpa using present, given⟩
  | _ => cases read

theorem read_entries_cons {entry : Value} {rest : List Value} {steps : List Step} :
    readEntries label position taken (entry :: rest) = .ok steps ↔
      ∃ step later, readEntry label position entry = .ok step ∧
        readEntries label (position + 1) (takePlace step.order taken).2 rest = .ok later ∧
        steps = { step with order := (takePlace step.order taken).1 } :: later := by
  simp only [readEntries, bind_eq_ok]
  constructor
  · rintro ⟨step, read, later, continued, made⟩
    cases made
    exact ⟨step, later, read, continued, rfl⟩
  · rintro ⟨step, later, read, continued, rfl⟩
    exact ⟨step, read, later, continued, rfl⟩

theorem read_entries_truthy {entries : List Value} {steps : List Step}
    (read : readEntries label position taken entries = .ok steps) :
    ∀ step ∈ steps, step.operation.truthy = true := by
  induction entries generalizing position taken steps with
  | nil =>
      cases read
      intro step member
      cases member
  | cons entry rest ih =>
      obtain ⟨first, later, head, tail, rfl⟩ := read_entries_cons.mp read
      obtain ⟨_, _, _, truthful, _⟩ := read_entry_fields head
      intro step member
      rcases List.mem_cons.mp member with same | behind
      · rw [same]
        exact truthful
      · exact ih tail step behind

def definitionEntries (definition : Value) (label : String) : Outcome (List Value) := do
  let data ← loadDefinition definition label
  if !data.truthy then .ok [] else data.items

theorem read_definition_sorts (definition : Value) (label : String) :
    readDefinition definition label =
      (definitionEntries definition label >>= fun entries =>
        (readEntries label 0 [] entries).map fun written => written.mergeSort Step.le) := by
  simp only [readDefinition, definitionEntries]
  cases loadDefinition definition label with
  | error failure => rfl
  | ok data =>
      simp only [ok_bind]
      by_cases empty : (!data.truthy) = true
      · simp [empty, readEntries, Except.map]
      · simp only [empty, Bool.false_eq_true, ↓reduceIte]
        rfl

theorem read_definition_iff {definition : Value} {steps : List Step} :
    readDefinition definition label = .ok steps ↔
      ∃ entries written, definitionEntries definition label = .ok entries ∧
        readEntries label 0 [] entries = .ok written ∧ steps = written.mergeSort Step.le := by
  rw [read_definition_sorts, bind_eq_ok]
  constructor
  · rintro ⟨entries, items, sorted⟩
    cases read : readEntries label 0 [] entries with
    | error failure =>
        rw [read] at sorted
        cases sorted
    | ok written =>
        rw [read] at sorted
        cases sorted
        exact ⟨entries, written, items, read, rfl⟩
  · rintro ⟨entries, written, items, read, rfl⟩
    refine ⟨entries, items, ?_⟩
    rw [read]
    rfl

theorem read_definition_truthy {definition : Value} {steps : List Step}
    (read : readDefinition definition label = .ok steps) :
    ∀ step ∈ steps, step.operation.truthy = true := by
  obtain ⟨entries, written, _, readAll, rfl⟩ := read_definition_iff.mp read
  intro step member
  exact read_entries_truthy readAll step (List.mem_mergeSort.mp member)

end TextChain
