import TextChain.Proofs.Stops

/-!
What the check has against definitions that can be built. It takes settings that are written down as
nothing for a fault, and it looks at the entries in the order in which they are written, whatever places
they ask for. Apart from that it finds nothing but settings of a wrong type and settings too many, as long
as every form stands by one schema.
-/

namespace TextChain

def Issue.minor : Issue → Bool
  | .entry _ issue => issue.minor
  | _ => false

section Clearance
variable {catalogue : Catalogue}

theorem replayed_in_turn {chain last : Chain Operation} {steps : List Step}
    (replayed : Chain.replay catalogue chain steps = .ok last)
    (truthful : ∀ step ∈ steps, step.operation.truthy = true) :
    InTurn (Step.Suits catalogue) chain.kind steps ∧ ∀ step ∈ steps, step.Named := by
  induction steps generalizing chain with
  | nil => exact ⟨trivial, by simp⟩
  | cons step rest ih =>
      obtain ⟨truthfulHere, truthfulLater⟩ := List.forall_mem_cons.mp truthful
      obtain ⟨next, stepped, replayed⟩ := bind_eq_ok.mp replayed
      have named := replayed_named stepped truthfulHere
      obtain ⟨suits, leads⟩ := replayed_suits stepped named
      obtain ⟨suit, namedLater⟩ := ih replayed truthfulLater
      rw [leads] at suit
      exact ⟨⟨suits, suit⟩, List.forall_mem_cons.mpr ⟨named, namedLater⟩⟩

theorem built_replays {subject definition mode : Value} {label : String} {chain : Chain Operation}
    (built : Chain.build catalogue subject definition mode label = .ok chain) :
    ∃ kind steps, kindOfMode mode = .ok kind ∧ readDefinition definition label = .ok steps ∧
      Chain.replay catalogue { kind, subject } steps = .ok chain := by
  obtain ⟨kind, started, rest⟩ := bind_eq_ok.mp built
  obtain ⟨start, begun, rest⟩ := bind_eq_ok.mp rest
  obtain ⟨steps, read, replayed⟩ := bind_eq_ok.mp rest
  unfold Chain.start at begun
  split at begun <;> cases begun
  exact ⟨kind, steps, started, read, replayed⟩

theorem Checked.grave_blank {kind : Kind} {entries : List Value} {steps : List Step}
    {checks : List Checkup} (checked : Checked catalogue kind entries steps checks)
    (pass : InTurn (Step.Passes catalogue) kind steps) {index : Nat} {checkup : Checkup} {issue : EntryIssue}
    (listed : checks[index]? = some checkup) (member : issue ∈ checkup.issues)
    (grave : issue.minor = false) : ∃ entry, entries[index]? = some entry ∧ BlankSettings entry := by
  induction checked generalizing index with
  | none => cases listed
  | @more kind entry step issues entries steps checks first others ih =>
      cases index with
      | zero =>
          cases listed
          rcases first.mp ⟨issue, member, grave⟩ with failing | blank
          · exact absurd pass.1 failing
          · exact ⟨entry, rfl, blank⟩
      | succ index => simpa using ih pass.2 (by simpa using listed)

theorem gather_minor {checks : List Checkup} :
    (∀ issue ∈ gather 0 checks, issue.minor = true) ↔
      ∀ checkup ∈ checks, ∀ issue ∈ checkup.issues, issue.minor = true := by
  constructor
  · intro minor checkup member issue found
    obtain ⟨position, listed⟩ := List.getElem?_of_mem member
    exact minor (.entry (0 + position) issue)
      (gather_mem.mpr ⟨position, checkup, issue, listed, found, rfl⟩)
  · intro minor issue member
    obtain ⟨position, checkup, found, listed, inside, rfl⟩ := gather_mem.mp member
    exact minor checkup (List.mem_of_getElem? listed) found inside

/-- The check of a definition that can be built ends with a list of issues, unless a form tells no schema to
a step without settings. All issues are minor just if every step, in the order in which they are written,
passes for the kind of chain to which those before it lead, and no entry of a step has nothing written down
for its settings. Where the places are in the order in which the entries are written, every step suits.
If all forms stand by one schema, there is a list, every step in such an order passes, and only entries with
nothing written down for their settings have issues that are not minor. -/
theorem built_definition_issues {subject definition mode : Value} {label : String}
    {entries : List Value} {chain : Chain Operation}
    (items : definitionEntries definition label = .ok entries) (nonempty : entries ≠ [])
    (built : Chain.build catalogue subject definition mode label = .ok chain) :
    ∃ kind written, kindOfMode mode = .ok kind ∧ readEntries label 0 [] entries = .ok written ∧
      (∀ issues, validate catalogue definition mode = .ok issues →
        ((∀ issue ∈ issues, issue.minor = true) ↔
          InTurn (Step.Passes catalogue) kind written ∧ ∀ entry ∈ entries, ¬ BlankSettings entry)) ∧
      (∀ failure, validate catalogue definition mode = .error failure →
        ∃ (index : Nat) (step : Step), written[index]? = some step ∧
          step.Untold catalogue (kindAfter kind (entries.take index)) failure) ∧
      (written.Pairwise (fun a b => a.order ≤ b.order) →
        InTurn (Step.Suits catalogue) kind written) ∧
      (catalogue.Steady → ∃ issues, validate catalogue definition mode = .ok issues ∧
        (written.Pairwise (fun a b => a.order ≤ b.order) →
          InTurn (Step.Passes catalogue) kind written ∧
            ∀ issue ∈ issues, issue.minor = false →
              ∃ position found entry, issue = .entry position found ∧
                entries[position]? = some entry ∧ BlankSettings entry)) := by
  obtain ⟨kind, steps, started, read, replayed⟩ := built_replays built
  obtain ⟨suit, named⟩ := replayed_in_turn replayed (read_definition_truthy read)
  obtain ⟨listed, written, itemsToo, readAll, sorted⟩ := read_definition_iff.mp read
  rw [items] at itemsToo
  cases itemsToo
  have namedWritten : ∀ step ∈ written, step.Named := by
    intro step member
    exact named step (sorted ▸ List.mem_mergeSort.mpr member)
  -- In the order in which they are written, the steps are those that were replayed.
  have inOrder (ascending : written.Pairwise fun a b => a.order ≤ b.order) :
      InTurn (Step.Suits catalogue) kind written := by
    have same := read_in_written_order items readAll ascending
    rw [read] at same
    cases same
    exact suit
  refine ⟨kind, written, started, readAll, ?_⟩
  rw [validate_walks started items nonempty]
  -- The check comes to the end of the entries, or breaks off at one that no steady form has.
  rcases entries_checked catalogue kind readAll namedWritten with
    ⟨checks, walked, checked⟩ | ⟨untold, broken, index, step, there, silent⟩
  · rw [walked]
    refine ⟨?minor, nofun, inOrder, fun steady => ⟨_, rfl, fun ascending => ?ordered⟩⟩
    case minor =>
      rintro _ ⟨⟩
      rw [gather_minor, checked.minor_iff]
    case ordered =>
      have pass := (inOrder ascending).imp fun step member kind =>
        steady_passes steady (namedWritten step member)
      refine ⟨pass, fun issue member grave => ?_⟩
      obtain ⟨position, checkup, found, listed, inside, rfl⟩ := gather_mem.mp member
      obtain ⟨entry, there, blank⟩ := checked.grave_blank pass listed inside grave
      exact ⟨0 + position, found, entry, rfl, by simpa using there, blank⟩
  · rw [broken]
    refine ⟨nofun, ?silent, inOrder, fun steady => ?steady⟩
    case silent =>
      rintro _ ⟨⟩
      exact ⟨index, step, there, silent⟩
    case steady =>
      exact absurd silent (steady_told steady (namedWritten step (List.mem_of_getElem? there)) untold)

end Clearance

/-! ### Settings written down as nothing -/

def blankTrim : List Value :=
  [.dict [("operation", .text "trim"), ("operation_config", .nothing)]]

/-- The chain is built, and the check has something against it all the same. -/
theorem blankTrim_faulted :
    ∃ chain issues, Chain.build .builtIn (.text " abc ") (.list blankTrim) (.text "transform") "Unnamed" =
        .ok chain ∧
      validate .builtIn (.list blankTrim) (.text "transform") = .ok issues ∧
        ∃ issue ∈ issues, issue.minor = false := by
  have items : definitionEntries (.list blankTrim) "Unnamed" = .ok blankTrim := rfl
  let trim : Step := ⟨.text "trim", [], 0⟩
  have sorted : [trim] = [trim].mergeSort Step.le := by simp
  have read : readDefinition (.list blankTrim) "Unnamed" = .ok [trim] :=
    read_definition_iff.mpr ⟨_, [trim], items, rfl, sorted⟩
  obtain ⟨chain, built⟩ : ∃ chain,
      Chain.build .builtIn (.text " abc ") (.list blankTrim) (.text "transform") "Unnamed" =
        .ok chain := by
    rw [build_started .builtIn (.list blankTrim) "Unnamed" rfl rfl, read]
    exact ⟨_, rfl⟩
  obtain ⟨kind, written, _, _, clear, _, _, answers⟩ :=
    built_definition_issues items (by simp [blankTrim]) built
  obtain ⟨issues, valid, _⟩ := answers Edit.Chance.standing.steady
  refine ⟨chain, issues, built, valid, ?_⟩
  have blank : BlankSettings (.dict [("operation", .text "trim"), ("operation_config", .nothing)]) :=
    ⟨_, rfl, rfl, rfl⟩
  have faulted : ¬ ∀ issue ∈ issues, issue.minor = true :=
    fun minor => ((clear issues valid).mp minor).2 _ List.mem_cons_self blank
  simpa using faulted

end TextChain
