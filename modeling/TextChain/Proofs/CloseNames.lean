import Mathlib.Algebra.Order.Ring.Rat
import Mathlib.Data.Finset.Card
import Mathlib.Data.List.Lex
import Mathlib.Data.Prod.Lex
import TextChain.Proofs.Lookup

/-!
Names that are suggested for an unknown one. Names are compared in small letters: up to three spellings that
come closest are chosen, and every valid name that is spelled in one of these ways is suggested, in the order
of the valid names.
-/

namespace TextChain

/-! ## Ranks -/

theorem marksLe_iff (a b : List Nat) : marksLe a b = true ↔ a ≤ b := by
  rw [← not_lt]
  induction a generalizing b with
  | nil => simp [marksLe]
  | cons x a ih =>
      cases b with
      | nil => simp [marksLe]
      | cons y b =>
          rw [marksLe, List.cons_lt_cons_iff]
          by_cases same : x = y
          · simp [same, ih]
          · simp only [same, Ne.symm same, ↓reduceIte, decide_eq_true_eq, false_and, or_false]
            omega

theorem outranks_iff (a b : Rat × List Nat) : outranks marksLe a b = true ↔ toLex b ≤ toLex a := by
  rw [Prod.Lex.toLex_le_toLex]
  simp only [outranks, Bool.or_eq_true, Bool.and_eq_true, decide_eq_true_eq, beq_iff_eq, marksLe_iff]
  rw [eq_comm (a := a.1)]

section Ranking
variable {text marks : List Nat} {candidates : List (List Nat)}

def scored (text : List Nat) (candidates : List (List Nat)) : List (Rat × List Nat) :=
  candidates.map fun candidate => (similarity candidate text, candidate)

def ranking (text : List Nat) (candidates : List (List Nat)) : List (Rat × List Nat) :=
  ((scored text candidates).filter fun entry => 1 / 2 ≤ entry.1).mergeSort (outranks marksLe)

theorem closeMatches_ranking (text : List Nat) (candidates : List (List Nat)) :
    closeMatches marksLe text candidates = ((ranking text candidates).take 3).map (·.2) := rfl

theorem ranking_sorted (text : List Nat) (candidates : List (List Nat)) :
    (ranking text candidates).Pairwise fun better worse => toLex worse ≤ toLex better := by
  have sorted : (ranking text candidates).Pairwise fun better worse =>
      outranks marksLe better worse = true := by
    refine List.pairwise_mergeSort ?trans ?total _
    case trans =>
      intro first second third
      simp only [outranks_iff]
      exact fun better best => le_trans best better
    case total =>
      intro first second
      simp only [Bool.or_eq_true, outranks_iff]
      exact le_total _ _
  exact sorted.imp fun better => (outranks_iff _ _).mp better

theorem mem_ranking {entry : Rat × List Nat} : entry ∈ ranking text candidates ↔
    entry.2 ∈ candidates ∧ entry.1 = similarity entry.2 text ∧ 1 / 2 ≤ entry.1 := by
  obtain ⟨score, marks⟩ := entry
  rw [ranking, (List.mergeSort_perm _ _).mem_iff, List.mem_filter, scored, List.mem_map]
  constructor
  · rintro ⟨⟨candidate, listed, same⟩, close⟩
    cases same
    exact ⟨listed, rfl, of_decide_eq_true close⟩
  · rintro ⟨listed, scored, close⟩
    exact ⟨⟨marks, listed, by rw [← scored]⟩, decide_eq_true close⟩

theorem ranking_within (text : List Nat) (candidates : List (List Nat)) :
    List.Subperm ((ranking text candidates).map (·.2)) candidates := by
  have unscored : (scored text candidates).map (·.2) = candidates := by
    rw [scored, List.map_map]
    exact List.map_id candidates
  have reordered := (List.mergeSort_perm
    ((scored text candidates).filter fun entry => 1 / 2 ≤ entry.1) (outranks marksLe)).map (·.2)
  have fewer : List.Sublist
      (((scored text candidates).filter fun entry => 1 / 2 ≤ entry.1).map (·.2)) candidates := by
    conv_rhs => rw [← unscored]
    exact List.filter_sublist.map _
  exact reordered.subperm.trans fewer.subperm

/-! ## The best of them -/

theorem closeMatches_few (text : List Nat) (candidates : List (List Nat)) :
    (closeMatches marksLe text candidates).length ≤ 3 := by
  rw [closeMatches_ranking, List.length_map]
  exact List.length_take_le _ _

theorem closeMatches_within (text : List Nat) (candidates : List (List Nat)) :
    List.Subperm (closeMatches marksLe text candidates) candidates :=
  ((List.take_sublist _ _).map _).subperm.trans (ranking_within text candidates)

theorem closeMatches_close (chosen : marks ∈ closeMatches marksLe text candidates) :
    1 / 2 ≤ similarity marks text := by
  rw [closeMatches_ranking] at chosen
  obtain ⟨entry, taken, rfl⟩ := List.mem_map.mp chosen
  obtain ⟨_, score, close⟩ := mem_ranking.mp (List.mem_of_mem_take taken)
  rwa [← score]

/-- A candidate that comes close is left out only if three others were chosen, and none of lower rank. -/
theorem closeMatches_best (listed : marks ∈ candidates) (close : 1 / 2 ≤ similarity marks text)
    (leftOut : marks ∉ closeMatches marksLe text candidates) :
    (closeMatches marksLe text candidates).length = 3 ∧
      ∀ other ∈ closeMatches marksLe text candidates,
        toLex (similarity marks text, marks) ≤ toLex (similarity other text, other) := by
  rw [closeMatches_ranking] at leftOut ⊢
  have ranked : (similarity marks text, marks) ∈ ranking text candidates :=
    mem_ranking.mpr ⟨listed, rfl, close⟩
  have untaken : (similarity marks text, marks) ∉ (ranking text candidates).take 3 := fun taken =>
    leftOut (List.mem_map_of_mem taken)
  -- It is ranked but was not taken, so it stands behind the three that were.
  have behind : (similarity marks text, marks) ∈ (ranking text candidates).drop 3 := by
    rw [← List.take_append_drop 3 (ranking text candidates), List.mem_append] at ranked
    exact ranked.resolve_left untaken
  constructor
  · have more : 0 < ((ranking text candidates).drop 3).length := List.length_pos_of_mem behind
    rw [List.length_drop] at more
    rw [List.length_map, List.length_take]
    omega
  · intro other chosen
    obtain ⟨entry, taken, rfl⟩ := List.mem_map.mp chosen
    obtain ⟨_, score, _⟩ := mem_ranking.mp (List.mem_of_mem_take taken)
    have sorted := ranking_sorted text candidates
    rw [← List.take_append_drop 3 (ranking text candidates), List.pairwise_append] at sorted
    have before := sorted.2.2 entry taken _ behind
    rwa [← score]

end Ranking

/-! ## Suggestions -/

def Name.score (name valid : Name) : Rat := similarity valid.marks name.marks

def Name.rank (name valid : Name) : Rat ×ₗ List Nat := toLex (name.score valid, valid.marks)

/-- The names that are suggested for an unknown name stand in the order of the valid names. Each comes close
to the name, and they have three spellings in small letters at most. Of valid names that have the same
spelling, all are suggested or none is, wherever they stand. A valid name that comes close is left out only
if three names are suggested at least, and none of lower rank. -/
structure BestMatches (name : Name) (valid suggested : List Name) : Prop where
  inOrder : suggested.Sublist valid
  close : ∀ other ∈ suggested, 1 / 2 ≤ name.score other
  few : (suggested.map Name.marks).toFinset.card ≤ 3
  alike : ∀ one ∈ valid, ∀ other ∈ valid, one.marks = other.marks → (one ∈ suggested ↔ other ∈ suggested)
  throughout : ∀ other ∈ suggested, suggested.count other = valid.count other
  best : ∀ other ∈ valid, other ∉ suggested → 1 / 2 ≤ name.score other →
    3 ≤ suggested.length ∧ ∀ better ∈ suggested, name.rank other ≤ name.rank better

section Suggestions
variable {name : Name} {valid : List Name}

def closeSpellings (name : Name) (valid : List Name) : List (List Nat) :=
  closeMatches marksLe name.marks (valid.map Name.marks)

theorem suggestions_filter (name : Name) (valid : List Name) : suggestions name.toValue valid =
    valid.filter fun other => (closeSpellings name valid).contains other.marks := by
  rw [suggestions, Name.toValue_writing?]
  rfl

theorem mem_suggestions {other : Name} : other ∈ suggestions name.toValue valid ↔
    other ∈ valid ∧ other.marks ∈ closeSpellings name valid := by
  rw [suggestions_filter, List.mem_filter, List.contains_iff_mem]

theorem suggestions_enough (name : Name) (valid : List Name) :
    (closeSpellings name valid).length ≤ (suggestions name.toValue valid).length := by
  have within : List.Subperm (closeSpellings name valid) (valid.map Name.marks) :=
    closeMatches_within name.marks _
  have all : (closeSpellings name valid).countP (closeSpellings name valid).contains =
      (closeSpellings name valid).length :=
    List.countP_eq_length.mpr fun marks chosen => List.contains_iff_mem.mpr chosen
  -- A spelling is chosen as often at most as valid names have it, and all of these are suggested.
  rw [suggestions_filter, ← List.countP_eq_length_filter, ← all]
  calc (closeSpellings name valid).countP (closeSpellings name valid).contains
      ≤ (valid.map Name.marks).countP (closeSpellings name valid).contains := within.countP_le _
    _ = valid.countP fun other => (closeSpellings name valid).contains other.marks := List.countP_map

theorem suggestions_best (name : Name) (valid : List Name) :
    BestMatches name valid (suggestions name.toValue valid) where
  inOrder := by
    rw [suggestions_filter]
    exact List.filter_sublist
  close other suggested := closeMatches_close (mem_suggestions.mp suggested).2
  few := by
    have within : ((suggestions name.toValue valid).map Name.marks).toFinset ⊆
        (closeSpellings name valid).toFinset := by
      intro marks spelled
      obtain ⟨other, suggested, rfl⟩ := List.mem_map.mp (List.mem_toFinset.mp spelled)
      exact List.mem_toFinset.mpr (mem_suggestions.mp suggested).2
    calc ((suggestions name.toValue valid).map Name.marks).toFinset.card
        ≤ (closeSpellings name valid).toFinset.card := Finset.card_le_card within
      _ ≤ (closeSpellings name valid).length := List.toFinset_card_le _
      _ ≤ 3 := closeMatches_few _ _
  alike one listed other otherListed same := by
    simp only [mem_suggestions, listed, otherListed, same]
  throughout other suggested := by
    rw [suggestions_filter] at suggested ⊢
    exact List.count_filter (List.mem_filter.mp suggested).2
  best other listed leftOut close := by
    have spelledOut : other.marks ∉ closeSpellings name valid := fun chosen =>
      leftOut (mem_suggestions.mpr ⟨listed, chosen⟩)
    obtain ⟨three, least⟩ := closeMatches_best (List.mem_map_of_mem listed) close spelledOut
    refine ⟨three.symm.le.trans (suggestions_enough name valid), fun better suggested => ?_⟩
    exact least better.marks (mem_suggestions.mp suggested).2

/-- The complaint about an unknown name lists suggestions among its details, and they are the best matches
of the valid names. A catalogue complains so about a name to which no form is bound, and its valid names are
those that are bound. -/
theorem suggestions_are_best_matches (name : Name) (valid : List Name) :
    ∃ (failure : Failure) (details : Settings) (suggested : List Name),
      Failure.make .unknownOperation [name.toValue, .list (valid.map Name.toValue)] [] = .ok failure ∧
      failure.details? = some (.dict details) ∧
      details.get? "suggestions" = some (.list (suggested.map Name.toValue)) ∧
      BestMatches name valid suggested ∧
      ∀ (catalogue : Catalogue) (kind : Kind), catalogue.bound? kind name = none →
        valid = (catalogue.names kind).map .text →
        catalogue.find kind name.toValue = .error failure := by
  refine ⟨.unknownOperation name.toValue valid, _, suggestions name.toValue valid,
    raise_unknown_name name valid, rfl, rfl, suggestions_best name valid, ?_⟩
  rintro catalogue kind unbound rfl
  rw [Catalogue.find_name, unbound]
  rfl

end Suggestions

end TextChain
