import TextChain.Proofs.Addresses
import TextChain.Proofs.Sweeps

/-!
Patterns of one set of characters. Removing the hits of a set leaves the characters outside of it, a search
for it finds something as soon as one of its characters is there, and a run of it fits the texts that have
nothing else.
-/

namespace TextChain

variable {chance : Edit.Chance}

/-- The pattern of one character of a set. -/
def setPattern (source : String) (flags : Flags) (negated : Bool) (members : List Member) : Pattern where
  source := source.toList
  flags := flags
  node := .set negated members
  groups := 0
  names := []

/-- The pattern of a run of characters of a set, one at least. -/
def runPattern (source : String) (members : List Member) : Pattern where
  source := source.toList
  flags := {}
  node := .loop .greedy 1 none (.set false members)
  groups := 0
  names := []

/-! ## Searches -/

theorem sweeps_findFrom {search : Search} {set : CharClass} (sweeps : search.Sweeps set) (before : List Char)
    (place : Nat) (text : List Char) : (search.findFrom before place text).isSome = text.any set.accepts := by
  induction text generalizing before place with
  | nil =>
      have nowhere := sweeps.missed { before, after := [], place } (by simp)
      simp [Search.findFrom, nowhere]
  | cons c rest ih =>
      cases inside : set.accepts c with
      | true =>
          obtain ⟨_, _, _, _, found⟩ :=
            sweeps.taken { before, after := c :: rest, place } c rest rfl inside
          simp [Search.findFrom, found, inside]
      | false =>
          have missed := sweeps.missed { before, after := c :: rest, place } fun _ listed =>
            Option.some.inj listed ▸ inside
          simp [Search.findFrom, missed, ih, inside]

section Sets
variable {source : String} {flags : Flags} {negated : Bool} {members : List Member} {kind : Char → Bool}

theorem set_sweeps (cased : flags.ignoreCase = false) :
    (setPattern source flags negated members).search.Sweeps (setClass flags negated members) :=
  sweeping_sweeps cased (.single negated members)

theorem set_removed (cased : flags.ignoreCase = false)
    (same : ∀ c, (setClass flags negated members).accepts c = kind c) (subject : Name) :
    chance.catalogue.answer .transformation "remove_all"
        [("pattern", .pattern (setPattern source flags negated members))] subject.toValue =
      .ok (.text (.ofList (subject.label.toList.filter (!kind ·)))) := by
  rw [← funext same]
  refine answer_made Edit.removedAll rfl rfl ?_
  exact removeAll_swept rfl cased (.single negated members) subject

theorem set_found (cased : flags.ignoreCase = false)
    (same : ∀ c, (setClass flags negated members).accepts c = kind c) (subject : Name) :
    chance.catalogue.answer .assertion "passes_regex"
        [("pattern", .pattern (setPattern source flags negated members))] subject.toValue =
      .ok (.bool (subject.label.toList.any kind)) := by
  have sweeps : (setPattern source flags negated members).search.Sweeps _ := set_sweeps cased
  have found := sweeps_findFrom sweeps [] 0 subject.label.toList
  rw [answer_check Check.passes rfl (by decide) rfl, ← funext same, ← found]
  cases subject <;> rfl

theorem run_fits (same : ∀ c, (setClass {} false members).accepts c = kind c) (text : List Char) :
    (runPattern source members).fits text = Checking.isRunOf kind text := by
  rw [Bool.eq_iff_iff, Pattern.fits_iff rfl, isRunOf_iff]
  exact figures_set same

end Sets

end TextChain
