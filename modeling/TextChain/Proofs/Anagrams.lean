import TextChain.Proofs.LoneSteps

/-!
Anagrams. A text that is sorted by code point depends on nothing but how often each character occurs in it,
so the test compares just that, and the step that merges two texts gives the one sorted text with the
characters of both.
-/

namespace TextChain

variable {chance : Edit.Chance}

namespace Editing

/-! ## Sorted texts -/

def Sorted (text : List Char) : Prop :=
  text.Pairwise fun c d => c.toNat ≤ d.toNat

section Sorting
variable {text other : List Char}

theorem sortChars_perm (text : List Char) : (sortChars text).Perm text :=
  List.mergeSort_perm text charLe

theorem sortChars_sorted (text : List Char) : Sorted (sortChars text) := by
  have transitive (a b c : Char) (first : charLe a b = true) (second : charLe b c = true) :
      charLe a c = true := by
    simp only [charLe, decide_eq_true_eq] at first second ⊢
    exact Nat.le_trans first second
  have total (a b : Char) : (charLe a b || charLe b a) = true := by
    simpa [charLe] using Nat.le_total a.toNat b.toNat
  exact (List.pairwise_mergeSort transitive total text).imp of_decide_eq_true

theorem Sorted.unique (first : Sorted text) (second : Sorted other) (alike : text.Perm other) :
    text = other :=
  alike.eq_of_pairwise (fun _ _ _ _ below above => Char.toNat_inj.mp (Nat.le_antisymm below above)) first second

theorem sortChars_inj : sortChars text = sortChars other ↔ text.Perm other := by
  constructor
  · intro same
    exact (sortChars_perm text).symm.trans (same ▸ sortChars_perm other)
  · -- Both sorted forms have the characters of both texts, and there is one sorted text of them.
    intro alike
    exact (sortChars_sorted text).unique (sortChars_sorted other)
      ((sortChars_perm text).trans (alike.trans (sortChars_perm other).symm))

end Sorting

end Editing

open Editing

theorem isAnagram_iff {text other : List Char} :
    Checking.isAnagram text other = true ↔ text.Perm other := by
  rw [Checking.isAnagram, beq_iff_eq, sortChars_inj]

/-! ## Steps -/

def testAnagram (chance : Edit.Chance) (other subject : Name) : Outcome Value :=
  chance.catalogue.answer .assertion "anagram" [("other", other.toValue)] subject.toValue

def mergeAnagram (chance : Edit.Chance) (other subject : Name) : Outcome Value :=
  chance.catalogue.answer .transformation "anagram" [("other", other.toValue)] subject.toValue

theorem testAnagram_answer (other subject : Name) :
    testAnagram chance other subject =
      .ok (.bool (Checking.isAnagram subject.label.toList other.label.toList)) := by
  have given : (Settings.get? [("other", other.toValue)] "other").bind Value.chars? =
      some other.label.toList := Name.toValue_chars? other
  rw [testAnagram, answer_check Check.sameLetters rfl (by decide) rfl]
  simp only [Check.sameLetters, Name.toValue_chars?, given]
  rfl

theorem mergeAnagram_answer (other subject : Name) :
    mergeAnagram chance other subject =
      .ok (.text (.ofList (sortChars (subject.label.toList ++ other.label.toList)))) := by
  have given : Settings.need [("other", other.toValue)] "other" = .ok other.toValue := rfl
  have joined : subject.toValue.plus other.toValue =
      .ok (.ofChars (subject.label.toList ++ other.label.toList)) := by
    cases subject <;> cases other <;> rfl
  refine answer_made Edit.anagram rfl rfl ?_
  simp only [Edit.anagram, Edit.mixed, given, ok_bind, joined, Value.ofChars, Value.chars?,
    String.toList_ofList]

def Anagrams (chance : Edit.Chance) (subject other : Name) : Prop :=
  testAnagram chance other subject = .ok (.bool true)

theorem anagrams_iff {subject other : Name} :
    Anagrams chance subject other ↔ subject.label.toList.Perm other.label.toList := by
  rw [Anagrams, testAnagram_answer, ← isAnagram_iff]
  exact ⟨fun answered => Value.bool.inj (Except.ok.inj answered), fun holds => by rw [holds]⟩

theorem anagrams_equivalence : Equivalence (Anagrams chance) where
  refl _ := anagrams_iff.mpr (List.Perm.refl _)
  symm alike := anagrams_iff.mpr (anagrams_iff.mp alike).symm
  trans first second := anagrams_iff.mpr ((anagrams_iff.mp first).trans (anagrams_iff.mp second))

/-- The test for an anagram passes just if every character occurs equally often in both texts, so being
anagrams is an equivalence. Two texts are merged into the one sorted text that is an anagram of both put
together; it does not depend on the order of the characters, nor on which of the texts comes first. -/
theorem anagrams_agree (chance : Edit.Chance) :
    Equivalence (Anagrams chance) ∧ ∀ subject other : Name, ∃ (holds : Bool) (merged : String),
      testAnagram chance other subject = .ok (.bool holds) ∧
      (holds = true ↔ ∀ c, subject.label.toList.count c = other.label.toList.count c) ∧
      mergeAnagram chance other subject = .ok (.text merged) ∧
      Sorted merged.toList ∧
      Anagrams chance (.text merged) (.text (subject.label ++ other.label)) ∧
      (∀ text : String, Sorted text.toList →
        Anagrams chance (.text text) (.text (subject.label ++ other.label)) → text = merged) ∧
      mergeAnagram chance subject other = .ok (.text merged) ∧
      ∀ subject' other' : Name, subject'.label.toList.Perm subject.label.toList →
        other'.label.toList.Perm other.label.toList →
          mergeAnagram chance other' subject' = .ok (.text merged) := by
  refine ⟨anagrams_equivalence, fun subject other => ⟨_, _, testAnagram_answer other subject, ?counts,
    mergeAnagram_answer other subject, ?sorted, ?anagram, ?unique, ?exchanged, ?reordered⟩⟩
  case counts => rw [isAnagram_iff, List.perm_iff_count]
  case sorted =>
    rw [String.toList_ofList]
    exact sortChars_sorted _
  case anagram =>
    rw [anagrams_iff, Name.label, Name.label, String.toList_ofList, String.toList_append]
    exact sortChars_perm _
  case unique =>
    intro text sorted alike
    rw [anagrams_iff, Name.label, Name.label, String.toList_append] at alike
    rw [← String.toList_inj, String.toList_ofList]
    exact sorted.unique (sortChars_sorted _) (alike.trans (sortChars_perm _).symm)
  case exchanged =>
    rw [mergeAnagram_answer, sortChars_inj.mpr List.perm_append_comm]
  case reordered =>
    intro subject' other' first second
    rw [mergeAnagram_answer, sortChars_inj.mpr (first.append second)]

example : mergeAnagram .standing (.text "cab") (.text "éa") = .ok (.text "aabcé") := by cbv

end TextChain
