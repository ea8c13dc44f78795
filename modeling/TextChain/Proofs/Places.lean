import TextChain.Proofs.Reading

/-!
Places of steps. Taken places are kept in rows, and the rows give what counting up one by one gives: the
first free place at or after the wanted one. So reading loses no step, gives no place twice, and keeps
two steps in order unless the later one asks for an earlier place.
-/

namespace TextChain

/-! ## Counting up -/

/-- The first place at or after the wanted one that is not taken. -/
structure FirstFree (taken : Int → Prop) (wanted place : Int) : Prop where
  reached : wanted ≤ place
  free : ¬ taken place
  passed : ∀ other, wanted ≤ other → other < place → taken other

theorem FirstFree.unique {taken : Int → Prop} {wanted a b : Int} (first : FirstFree taken wanted a)
    (second : FirstFree taken wanted b) : a = b := by
  have notBelow : ¬ a < b := fun below => first.free (second.passed a first.reached below)
  have notAbove : ¬ b < a := fun above => second.free (first.passed b second.reached above)
  omega

/-- Counts up from the wanted place for as long as the place is taken. Every round leaves a taken place
behind, so there is a last one. -/
def countUp (taken : List Int) (wanted : Int) : Int :=
  if wanted ∈ taken then countUp taken (wanted + 1) else wanted
termination_by (taken.filter fun place => wanted ≤ place).length
decreasing_by
  next present =>
    have ahead : (taken.filter fun place => wanted + 1 ≤ place) =
        (taken.filter fun place => wanted ≤ place).filter fun place => wanted ≠ place := by
      rw [List.filter_filter]
      apply List.filter_congr
      intro place _
      simp only [ne_eq, decide_not, Bool.and_eq_decide, decide_eq_true_eq, decide_eq_decide]
      simp
      omega
    rw [ahead, List.length_filter_lt_length_iff_exists]
    exact ⟨wanted, List.mem_filter.mpr ⟨present, by simp⟩, by simp⟩

theorem countUp_firstFree (taken : List Int) (wanted : Int) :
    FirstFree (· ∈ taken) wanted (countUp taken wanted) := by
  fun_induction countUp taken wanted with
  | case1 wanted present ih =>
      refine ⟨by have := ih.reached; omega, ih.free, fun other from_wanted below => ?_⟩
      by_cases here : other = wanted
      · rw [here]
        exact present
      · exact ih.passed other (by omega) below
  | case2 wanted absent =>
      exact ⟨by omega, absent, fun other from_wanted below => by omega⟩

/-- Steps take their places one after the other. Each counts up from the place that it asks for. -/
def settle : List Int → List Step → List Step
  | _, [] => []
  | taken, step :: rest =>
      let place := countUp taken step.order
      { step with order := place } :: settle (place :: taken) rest

/-! ## Rows -/

def Row.Covers (row : Row) (place : Int) : Prop := row.first ≤ place ∧ place < row.stop

def Covered (rows : List Row) (place : Int) : Prop := ∃ row ∈ rows, row.Covers place

def Spaced (rows : List Row) : Prop :=
  (∀ row ∈ rows, row.first < row.stop) ∧ rows.Pairwise fun a b => a.stop < b.first

theorem covered_cons {row : Row} {rest : List Row} {place : Int} :
    Covered (row :: rest) place ↔ row.Covers place ∨ Covered rest place := by
  simp [Covered]

theorem spaced_cons {row : Row} {rest : List Row} :
    Spaced (row :: rest) ↔
      row.first < row.stop ∧ (∀ later ∈ rest, row.stop < later.first) ∧ Spaced rest := by
  simp only [Spaced, List.forall_mem_cons, List.pairwise_cons, and_assoc, and_left_comm]

section Before
variable {row : Row} {rest : List Row}

theorem before_covered (filled : row.first < row.stop) (spaced : Spaced rest) (place : Int) :
    Covered (row.before rest) place ↔ row.Covers place ∨ Covered rest place := by
  cases rest with
  | nil => exact covered_cons
  | cons next rest =>
      obtain ⟨nextFilled, _, _⟩ := spaced_cons.mp spaced
      by_cases touch : row.stop = next.first
      · have joined : (Row.mk row.first next.stop).Covers place ↔
            row.Covers place ∨ next.Covers place := by
          simp only [Row.Covers]
          omega
        rw [Row.before, if_pos touch, covered_cons, covered_cons, joined, or_assoc]
      · rw [Row.before, if_neg touch]
        exact covered_cons

theorem before_spaced (filled : row.first < row.stop) (spaced : Spaced rest)
    (behind : ∀ later ∈ rest, row.stop ≤ later.first) : Spaced (row.before rest) := by
  cases rest with
  | nil => exact spaced_cons.mpr ⟨filled, by simp, spaced⟩
  | cons next rest =>
      obtain ⟨nextFilled, later, restSpaced⟩ := spaced_cons.mp spaced
      have nextBehind := behind next List.mem_cons_self
      by_cases touch : row.stop = next.first
      · rw [Row.before, if_pos touch]
        exact spaced_cons.mpr ⟨Int.lt_trans (touch ▸ filled) nextFilled, later, restSpaced⟩
      · rw [Row.before, if_neg touch]
        refine spaced_cons.mpr ⟨filled, ?_, spaced⟩
        intro other member
        rcases List.mem_cons.mp member with rfl | further
        · omega
        · have := later other further
          omega

end Before

/-- Taking a place gives the first free one, and rows that cover it besides what they covered. -/
structure Takes (rows : List Row) (wanted place : Int) (after : List Row) : Prop where
  firstFree : FirstFree (Covered rows) wanted place
  spaced : Spaced after
  covered : ∀ other, Covered after other ↔ other = place ∨ Covered rows other

section Takes
variable {row : Row} {rest : List Row} {wanted : Int}

theorem not_covered_ahead {rows : List Row} {place : Int} (ahead : ∀ row ∈ rows, place < row.first) :
    ¬ Covered rows place := by
  rintro ⟨row, member, reached, _⟩
  have := ahead row member
  omega

theorem takes_in_front {rows : List Row} (spaced : Spaced rows)
    (ahead : ∀ row ∈ rows, wanted < row.first) :
    Takes rows wanted wanted (Row.before ⟨wanted, wanted + 1⟩ rows) := by
  have filled : wanted < wanted + 1 := by omega
  refine ⟨⟨Int.le_refl wanted, not_covered_ahead ahead, ?_⟩, ?_, ?_⟩
  · intro other from_wanted below
    omega
  · exact before_spaced filled spaced ahead
  · intro other
    rw [before_covered filled spaced]
    refine or_congr_left ?_
    simp only [Row.Covers]
    omega

/-- A place in the first row is passed, along with the rest of the row. -/
theorem takes_inside (spaced : Spaced (row :: rest)) (inside : row.Covers wanted) :
    Takes (row :: rest) wanted row.stop (Row.before ⟨row.first, row.stop + 1⟩ rest) := by
  obtain ⟨filled, apart, restSpaced⟩ := spaced_cons.mp spaced
  obtain ⟨reached, below⟩ := inside
  have longer : row.first < row.stop + 1 := by omega
  refine ⟨⟨by omega, ?_, ?_⟩, ?_, ?_⟩
  · rw [covered_cons]
    rintro (⟨_, beyond⟩ | covered)
    · omega
    · exact not_covered_ahead apart covered
  · intro other from_wanted before
    exact covered_cons.mpr (Or.inl ⟨by omega, before⟩)
  · exact before_spaced longer restSpaced apart
  · intro other
    rw [before_covered longer restSpaced, covered_cons, ← or_assoc]
    refine or_congr_left ?_
    simp only [Row.Covers]
    omega

/-- A place behind the first row is looked for in the rows behind it. -/
theorem takes_behind {place : Int} {after : List Row} (spaced : Spaced (row :: rest))
    (behind : row.stop ≤ wanted) (takes : Takes rest wanted place after) :
    Takes (row :: rest) wanted place (row.before after) := by
  obtain ⟨filled, apart, restSpaced⟩ := spaced_cons.mp spaced
  have reached := takes.firstFree.reached
  have later : ∀ next ∈ after, row.stop ≤ next.first := by
    intro next member
    have filledNext := takes.spaced.1 next member
    rcases (takes.covered next.first).mp ⟨next, member, Int.le_refl _, filledNext⟩ with
      new | ⟨old, listed, first, _⟩
    · omega
    · have := apart old listed
      omega
  refine ⟨⟨reached, ?_, ?_⟩, before_spaced filled takes.spaced later, ?_⟩
  · rw [covered_cons]
    rintro (⟨_, before⟩ | covered)
    · omega
    · exact takes.firstFree.free covered
  · intro other from_wanted below
    exact covered_cons.mpr (Or.inr (takes.firstFree.passed other from_wanted below))
  · intro other
    rw [before_covered filled takes.spaced, takes.covered, covered_cons, or_left_comm]

theorem takePlace_takes (wanted : Int) {rows : List Row} (spaced : Spaced rows) :
    Takes rows wanted (takePlace wanted rows).1 (takePlace wanted rows).2 := by
  induction rows with
  | nil => exact takes_in_front spaced (by simp)
  | cons row rest ih =>
      obtain ⟨filled, apart, restSpaced⟩ := spaced_cons.mp spaced
      by_cases inFront : wanted < row.first
      · rw [takePlace, if_pos inFront]
        refine takes_in_front spaced (List.forall_mem_cons.mpr ⟨inFront, fun later member => ?_⟩)
        have := apart later member
        omega
      · by_cases inside : wanted < row.stop
        · rw [takePlace, if_neg inFront, if_pos inside]
          exact takes_inside spaced ⟨by omega, inside⟩
        · rw [takePlace, if_neg inFront, if_neg inside]
          exact takes_behind spaced (by omega) (ih restSpaced)

end Takes

theorem takePlace_countUp {rows : List Row} {taken : List Int} (wanted : Int) (spaced : Spaced rows)
    (same : ∀ place, Covered rows place ↔ place ∈ taken) :
    (takePlace wanted rows).1 = countUp taken wanted := by
  have found := (takePlace_takes wanted spaced).firstFree
  rw [funext fun place => propext (same place)] at found
  exact found.unique (countUp_firstFree taken wanted)

/-! ## Reading -/

/-- An entry is well formed and asks for a step: it names an operation, its settings are a dictionary or
nothing, and the place that it gives, or else its position, is read as an integer. -/
def Asks (position : Nat) (entry : Value) (step : Step) : Prop :=
  ∃ fields, entry = .dict fields ∧ step.operation = Settings.either fields "operation" .nothing ∧
    step.operation.truthy = true ∧
    (Settings.either fields "operation_config" .nothing = .nothing ∧ step.settings = [] ∨
      Settings.either fields "operation_config" .nothing = .dict step.settings) ∧
    (Settings.either fields "order_index" (.int position)).toInteger = .ok step.order

/-- What entries ask for, one after the other, from a position on. -/
inductive Requests : Nat → List Value → List Step → Prop
  | none {position : Nat} : Requests position [] []
  | more {position : Nat} {entry : Value} {step : Step} {rest : List Value} {later : List Step}
      (first : Asks position entry step) (others : Requests (position + 1) rest later) :
      Requests position (entry :: rest) (step :: later)

theorem read_asked {position : Nat} {entry : Value} {step : Step} (label : String)
    (asks : Asks position entry step) : readEntry label position entry = .ok step := by
  obtain ⟨fields, rfl, operation, truthful, settings, order⟩ := asks
  have given : entrySettings position label fields = .ok step.settings := by
    unfold entrySettings
    rcases settings with ⟨absent, empty⟩ | present
    · rw [absent, empty]
    · rw [present]
  simp only [readEntry, ← operation, truthful, Bool.not_true, Bool.false_eq_true, ↓reduceIte, given,
    order, ok_bind]

/-- Reading gives the steps that are asked for, each with the place at which counting up ends. -/
theorem read_entries_settle {position : Nat} {entries : List Value} {asked : List Step}
    {rows : List Row} {taken : List Int} (label : String) (requests : Requests position entries asked)
    (spaced : Spaced rows) (same : ∀ place, Covered rows place ↔ place ∈ taken) :
    readEntries label position rows entries = .ok (settle taken asked) := by
  -- Along the entries the rows go on covering just the places that were given so far.
  induction requests generalizing rows taken with
  | none => rfl
  | @more position entry step rest later first others ih =>
      have takes := takePlace_takes step.order spaced
      have place := takePlace_countUp step.order spaced same
      have covers : ∀ other, Covered (takePlace step.order rows).2 other ↔
          other ∈ countUp taken step.order :: taken := by
        intro other
        rw [takes.covered, place, same, List.mem_cons]
      refine read_entries_cons.mpr ⟨step, _, read_asked label first, ih takes.spaced covers, ?_⟩
      rw [place]
      rfl

/-! ## Settled steps -/

theorem settle_length (taken : List Int) (asked : List Step) :
    (settle taken asked).length = asked.length := by
  induction asked generalizing taken with
  | nil => rfl
  | cons step rest ih => simp only [settle, List.length_cons, ih]

/-- Every step takes the first place, from the one that it asks for on, that none before it has. -/
theorem settle_firstFree {asked : List Step} {index : Nat} {step : Step} (taken : List Int)
    (found : asked[index]? = some step) :
    ∃ place, (settle taken asked)[index]? = some { step with order := place } ∧
      FirstFree (fun other => other ∈ taken ∨
        other ∈ ((settle taken asked).take index).map (·.order)) step.order place := by
  induction asked generalizing taken index with
  | nil => simp at found
  | cons first rest ih =>
      cases index with
      | zero =>
          cases found
          refine ⟨countUp taken step.order, rfl, ?_⟩
          simpa using countUp_firstFree taken step.order
      | succ index =>
          obtain ⟨place, settled, free⟩ := ih (countUp taken first.order :: taken) (by simpa using found)
          refine ⟨place, by simpa [settle] using settled, ?_⟩
          simpa [settle, or_assoc, or_left_comm] using free

theorem settle_apart (taken : List Int) (asked : List Step) :
    (∀ step ∈ settle taken asked, step.order ∉ taken) ∧
      (settle taken asked).Pairwise fun a b => a.order ≠ b.order := by
  induction asked generalizing taken with
  | nil => exact ⟨by simp [settle], List.Pairwise.nil⟩
  | cons step rest ih =>
      obtain ⟨fresh, apart⟩ := ih (countUp taken step.order :: taken)
      have free := (countUp_firstFree taken step.order).free
      constructor
      · refine List.forall_mem_cons.mpr ⟨free, fun later member old => ?_⟩
        exact fresh later member (List.mem_cons_of_mem _ old)
      · refine List.pairwise_cons.mpr ⟨fun later member same => ?_, apart⟩
        exact fresh later member (same ▸ List.mem_cons_self)

theorem firstFree_ordered {taken later : Int → Prop} {wanted wantedLater place placeLater : Int}
    (first : FirstFree taken wanted place) (second : FirstFree later wantedLater placeLater)
    (more : ∀ other, taken other → later other) (placed : later place)
    (ordered : wanted ≤ wantedLater) : place < placeLater := by
  rcases Int.lt_trichotomy place placeLater with less | same | greater
  · exact less
  · exact absurd (same ▸ placed) second.free
  · have reached : wanted ≤ placeLater := Int.le_trans ordered second.reached
    exact absurd (more placeLater (first.passed placeLater reached greater)) second.free

/-! ## The order of the result -/

theorem sorted_ascending {written : List Step} (apart : written.Pairwise fun a b => a.order ≠ b.order) :
    (written.mergeSort Step.le).Pairwise fun a b => a.order < b.order := by
  have transitive (a b c : Step) : a.le b → b.le c → a.le c := by
    simp only [Step.le, decide_eq_true_eq]
    omega
  have total (a b : Step) : a.le b || b.le a := by
    simp only [Step.le, Bool.or_eq_true, decide_eq_true_eq]
    omega
  have sorted := List.pairwise_mergeSort transitive total written
  have different := ((List.mergeSort_perm written Step.le).pairwise_iff Ne.symm).mpr apart
  refine (sorted.and different).imp fun {a b} both => ?_
  simp only [Step.le, decide_eq_true_eq] at both
  omega

theorem ascending_before {steps : List Step} {a b : Step}
    (ascending : steps.Pairwise fun a b => a.order < b.order) (first : a ∈ steps) (second : b ∈ steps)
    (less : a.order < b.order) : [a, b].Sublist steps := by
  obtain ⟨front, back, rfl⟩ := List.append_of_mem first
  obtain ⟨_, behind, across⟩ := List.pairwise_append.mp ascending
  rcases List.mem_append.mp second with early | late
  · have := across b early a List.mem_cons_self
    omega
  · rcases List.mem_cons.mp late with rfl | late
    · omega
    · exact ((List.singleton_sublist.mpr late).cons_cons a).trans (List.sublist_append_right front _)

/-- Reading a definition of well-formed entries gives their steps, none lost and none twice, with places
that strictly ascend. Every step has the first place, from the one that it asks for on, that no step
written before it has; counting up ends there. A step comes before those written behind it that ask for
the same place or for a later one. -/
theorem places_given_in_turn {definition : Value} {label : String} {entries : List Value}
    {asked : List Step} (items : definitionEntries definition label = .ok entries)
    (requests : Requests 0 entries asked) :
    ∃ steps, readDefinition definition label = .ok steps ∧
      steps.Perm (settle [] asked) ∧ steps.Pairwise (fun a b => a.order < b.order) ∧
      (settle [] asked).length = asked.length ∧
      (∀ (index : Nat) (step : Step), asked[index]? = some step →
        ∃ place, (settle [] asked)[index]? = some { step with order := place } ∧
          FirstFree (· ∈ ((settle [] asked).take index).map (·.order)) step.order place) ∧
      ∀ (first second : Nat) (a b : Step), first < second → asked[first]? = some a →
        asked[second]? = some b → a.order ≤ b.order →
          ∃ placed placedLater, (settle [] asked)[first]? = some placed ∧
            (settle [] asked)[second]? = some placedLater ∧ [placed, placedLater].Sublist steps := by
  -- At the start no place is taken, neither in rows nor by counting up.
  have read := read_entries_settle label requests (⟨by simp, List.Pairwise.nil⟩ : Spaced [])
    (fun place => by simp [Covered] : ∀ place, Covered [] place ↔ place ∈ [])
  have ascending := sorted_ascending (settle_apart [] asked).2
  refine ⟨(settle [] asked).mergeSort Step.le,
    read_definition_iff.mpr ⟨entries, settle [] asked, items, read, rfl⟩,
    List.mergeSort_perm _ _, ascending, settle_length [] asked, ?placed, ?ordered⟩
  case placed =>
    intro index step found
    obtain ⟨place, settled, free⟩ := settle_firstFree [] found
    exact ⟨place, settled, by simpa using free⟩
  case ordered =>
    intro first second a b before foundFirst foundSecond ordered
    obtain ⟨place, settled, free⟩ := settle_firstFree [] foundFirst
    obtain ⟨placeLater, settledLater, freeLater⟩ := settle_firstFree [] foundSecond
    refine ⟨_, _, settled, settledLater, ascending_before ascending ?_ ?_ ?_⟩
    · exact List.mem_mergeSort.mpr (List.mem_of_getElem? settled)
    · exact List.mem_mergeSort.mpr (List.mem_of_getElem? settledLater)
    -- What was taken for the first step is taken for the second one, and its own place is too.
    · refine firstFree_ordered free freeLater ?_ ?_ ordered
      · rintro other (impossible | taken)
        · cases impossible
        · refine Or.inr (List.map_subset _ (List.take_subset_take_left _ ?_) taken)
          omega
      · refine Or.inr (List.mem_map.mpr ⟨{ a with order := place }, ?_, rfl⟩)
        refine List.mem_of_getElem? (i := first) ?_
        rw [List.getElem?_take_of_lt before, settled]

/-! ### Places asked for twice -/

def placedEntry (operation : String) (order : Value) : Value :=
  .dict [("operation", .text operation), ("order_index", order)]

def crowdedEntries : List Value :=
  [placedEntry "trim" (.int 1), placedEntry "to_hash" (.int 1), .dict [("operation", .text "to_hex")],
    placedEntry "escape_string" (.int (-1)), placedEntry "randomize" (.text "-1")]

def crowdedRequests : List Step :=
  [⟨.text "trim", [], 1⟩, ⟨.text "to_hash", [], 1⟩, ⟨.text "to_hex", [], 2⟩,
    ⟨.text "escape_string", [], -1⟩, ⟨.text "randomize", [], -1⟩]

/-- The first two entries ask for 1 and the last two for -1; the one between them gives no place. -/
theorem crowded_places :
    (definitionEntries (.list crowdedEntries) "Unnamed" = .ok crowdedEntries ∧
      Requests 0 crowdedEntries crowdedRequests) ∧
    readDefinition (.list crowdedEntries) "Unnamed" = .ok
      [⟨.text "escape_string", [], -1⟩, ⟨.text "randomize", [], 0⟩, ⟨.text "trim", [], 1⟩,
        ⟨.text "to_hash", [], 2⟩, ⟨.text "to_hex", [], 3⟩] := by
  have items : definitionEntries (.list crowdedEntries) "Unnamed" = .ok crowdedEntries := rfl
  have requests : Requests 0 crowdedEntries crowdedRequests :=
    .more ⟨_, rfl, rfl, rfl, Or.inl ⟨rfl, rfl⟩, rfl⟩ <|
    .more ⟨_, rfl, rfl, rfl, Or.inl ⟨rfl, rfl⟩, rfl⟩ <|
    .more ⟨_, rfl, rfl, rfl, Or.inl ⟨rfl, rfl⟩, rfl⟩ <|
    .more ⟨_, rfl, rfl, rfl, Or.inl ⟨rfl, rfl⟩, rfl⟩ <|
    .more ⟨_, rfl, rfl, rfl, Or.inl ⟨rfl, rfl⟩, rfl⟩ .none
  obtain ⟨steps, read, order, ascending, _⟩ := places_given_in_turn items requests
  refine ⟨⟨items, requests⟩, ?_⟩
  have settled : settle [] crowdedRequests =
      [⟨.text "trim", [], 1⟩, ⟨.text "to_hash", [], 2⟩, ⟨.text "to_hex", [], 3⟩] ++
        [⟨.text "escape_string", [], -1⟩, ⟨.text "randomize", [], 0⟩] := by
    simp [settle, crowdedRequests, countUp]
  rw [settled] at order
  -- A list in ascending order is the only one among its rearrangements.
  rw [read, (order.trans List.perm_append_comm).eq_of_pairwise ?_ ascending (by simp)]
  · rfl
  · intro a b _ _ less greater
    omega

end TextChain
