import TextChain.Proofs.LetterForms
import TextChain.Proofs.LoneSteps

/-!
Capitals and small letters. Neither mapping leads to a character that it would map to something else: what
the shifts lead to is touched by no shift and has no expansion, and the letters of an expansion are capitals
themselves. So a text that was put into capitals or into small letters stays as it is, however many
characters a letter was mapped to and whatever stood around it.
-/

namespace TextChain

variable {chance : Edit.Chance}

/-! ## Capitals -/

def Capital (c : Char) : Prop :=
  upperOf c = [c]

def expansionSpans : List Span :=
  upperExpansions.map fun entry => ⟨entry.1, entry.1⟩

theorem upperShifts_settle : Shift.settles upperShifts = true := by decide +kernel

theorem upperShifts_land : upperShifts.all (Shift.lands (surrogates ++ expansionSpans)) = true := by
  decide +kernel

theorem expansions_capital : ∀ entry ∈ upperExpansions, ∀ letter ∈ entry.2, Capital (Char.ofNat letter) := by
  unfold Capital
  decide +kernel

theorem expansion_outside {table : List (Nat × List Nat)} {point : Nat}
    (outside : Outside (table.map fun entry => ⟨entry.1, entry.1⟩) point) : expansion? table point = none := by
  induction table with
  | nil => rfl
  | cons entry rest ih =>
      have away : point ≠ entry.1 := fun same =>
        (outside _ List.mem_cons_self).elim (Nat.ne_of_lt · same) (Nat.ne_of_gt · same)
      rw [expansion?, if_neg away, ih fun span listed => outside span (List.mem_cons_of_mem _ listed), ite_self]

theorem upperOf_moved {c : Char} (plain : expansion? upperExpansions c.toNat = none) :
    upperOf c = [Char.ofNat (Shift.move upperShifts c.toNat)] := by
  rw [upperOf, plain]

theorem capital_moved {c : Char} (plain : expansion? upperExpansions c.toNat = none) :
    Capital (Char.ofNat (Shift.move upperShifts c.toNat)) := by
  rcases Shift.move_char upperShifts_land c with stays | ⟨shift, listed, touched, moved, outside⟩
  · rw [stays]
    exact (upperOf_moved plain).trans (congrArg (fun d => [d]) stays)
  · -- What a shift leads to is touched by no shift, and no letter there has an expansion.
    generalize Char.ofNat (Shift.move upperShifts c.toNat) = d at moved outside
    have untouched := moved ▸ Shift.settles_untouched upperShifts_settle listed touched
    rw [Capital, upperOf_moved (expansion_outside outside), Shift.move_untouched untouched, Char.ofNat_toNat]

theorem upperOf_capital {c d : Char} (listed : d ∈ upperOf c) : Capital d := by
  cases expanded : expansion? upperExpansions c.toNat with
  | none =>
      rw [upperOf_moved expanded, List.mem_singleton] at listed
      exact listed ▸ capital_moved expanded
  | some letters =>
      obtain ⟨entry, among, rfl⟩ := expansion_listed expanded
      rw [upperOf, expanded] at listed
      obtain ⟨letter, here, rfl⟩ := List.mem_map.mp listed
      exact expansions_capital entry among letter here

theorem upper_capital {text : List Char} : ∀ c ∈ upper text, Capital c := by
  intro d listed
  obtain ⟨c, _, made⟩ := List.mem_flatMap.mp listed
  exact upperOf_capital made

theorem upper_stays {text : List Char} (capital : ∀ c ∈ text, Capital c) : upper text = text :=
  (List.flatMap_congr capital).trans (List.flatMap_singleton' text)

theorem upper_fixed {text : List Char} : upper text = text ↔ ∀ c ∈ text, Capital c :=
  ⟨fun fixed => fixed ▸ upper_capital, upper_stays⟩

theorem lower_fixed {text : List Char} : lower text = text ↔ ∀ c ∈ text, Small c :=
  ⟨fun fixed => fixed ▸ lower_small, lower_stays⟩

/-! ## Steps -/

theorem upper_answer (subject : Name) :
    chance.catalogue.answer .transformation "to_upper_case" [] subject.toValue =
      .ok (.text (.ofList (upper subject.label.toList))) := by
  rw [answer_transformation Edit.upperCase rfl rfl]
  cases subject <;> rfl

theorem lower_answer (subject : Name) :
    chance.catalogue.answer .transformation "to_lower_case" [] subject.toValue =
      .ok (.text (.ofList (lower subject.label.toList))) := by
  rw [answer_transformation Edit.lowerCase rfl rfl]
  cases subject <;> rfl

/-- The capitals of a text are those of its characters, and its small letters are those of its characters in
their places. Both are made of characters that stay as they are, and only a text of such characters is left
as it was. So a second step of the same sort changes nothing. -/
theorem case_mappings_settle (chance : Edit.Chance) (subject : Name) :
    ∃ capitals small : String,
      chance.catalogue.answer .transformation "to_upper_case" [] subject.toValue = .ok (.text capitals) ∧
      chance.catalogue.answer .transformation "to_lower_case" [] subject.toValue = .ok (.text small) ∧
      chance.catalogue.chained [("to_upper_case", []), ("to_upper_case", [])] subject.toValue =
        .ok (.text capitals) ∧
      chance.catalogue.chained [("to_lower_case", []), ("to_lower_case", [])] subject.toValue =
        .ok (.text small) ∧
      capitals.toList = subject.label.toList.flatMap upperOf ∧ (∀ c ∈ capitals.toList, Capital c) ∧
      small.toList = lowerFrom [] subject.label.toList ∧ (∀ c ∈ small.toList, Small c) ∧
      (capitals = subject.label ↔ ∀ c ∈ subject.label.toList, Capital c) ∧
      (small = subject.label ↔ ∀ c ∈ subject.label.toList, Small c) := by
  have raises : chance.Grants ("to_upper_case", []) Edit.upperCase :=
    ⟨rfl, rfl⟩
  have lowers : chance.Grants ("to_lower_case", []) Edit.lowerCase :=
    ⟨rfl, rfl⟩
  have spelled {text : List Char} : String.ofList text = subject.label ↔ text = subject.label.toList := by
    rw [← String.toList_inj, String.toList_ofList]
  refine ⟨_, _, upper_answer subject, lower_answer subject, ?twiceUpper, ?twiceLower, String.toList_ofList,
    ?capital, ?inPlace, ?small, spelled.trans upper_fixed, spelled.trans lower_fixed⟩
  case twiceUpper =>
    rw [chained_pair raises raises subject (.text (.ofList (upper subject.label.toList)))
        (upper_answer subject), upper_answer, Name.label, String.toList_ofList, upper_stays upper_capital]
  case twiceLower =>
    rw [chained_pair lowers lowers subject (.text (.ofList (lower subject.label.toList)))
        (lower_answer subject), lower_answer, Name.label, String.toList_ofList, lower_lower]
  case capital =>
    rw [String.toList_ofList]
    exact upper_capital
  case inPlace => rw [String.toList_ofList, lower_eq]
  case small =>
    rw [String.toList_ofList]
    exact lower_small

example : Catalogue.builtIn.answer .transformation "to_upper_case" [] (.text "ŉﬃ") = .ok (.text "ʼNFFI") ∧
    Catalogue.builtIn.answer .transformation "to_lower_case" [] (.text "ΟΔΟΣ") = .ok (.text "οδος") :=
  ⟨rfl, rfl⟩

end TextChain
