import Mathlib.Algebra.BigOperators.Fin
import Mathlib.Data.Int.ModEq
import Mathlib.Tactic.Ring
import TextChain.Proofs.DigitTexts
import TextChain.Proofs.LoneSteps

/-!
Hashes as signed words. The hash of a text is kept as an unsigned word of 32 bits and read as a signed one
at the end. It is the same to keep it signed after every unit, and it is the only signed word that agrees
with the number that the units make up in base 33.
-/

namespace TextChain

variable {chance : Edit.Chance}

/-! ## Units -/

/-- The units of a character: its code point itself, or above the basic plane a high and a low surrogate,
which hold ten bits each of what the code point exceeds the plane by. -/
inductive CharUnits (c : Char) : List Nat → Prop
  | single (basic : c.toNat ≤ 0xFFFF) : CharUnits c [c.toNat]
  | pair {high low : Nat} (upper : high < 0x400) (lower : low < 0x400)
      (sum : c.toNat = 0x10000 + high * 0x400 + low) : CharUnits c [0xD800 + high, 0xDC00 + low]

/-- The UTF-16 form of a text. -/
inductive Utf16 : List Char → List Nat → Prop
  | empty : Utf16 [] []
  | more {c : Char} {text : List Char} {front units : List Nat} (first : CharUnits c front)
      (rest : Utf16 text units) : Utf16 (c :: text) (front ++ units)

theorem codePoint_bound (c : Char) : c.toNat < 0x110000 := by
  rcases c.valid with low | ⟨_, high⟩
  · exact Nat.lt_trans low (by decide)
  · exact high

theorem units16_spell (c : Char) : CharUnits c (units16 c) := by
  by_cases basic : c.toNat ≤ 0xFFFF
  · rw [units16, if_pos basic]
    exact .single basic
  · have bound := codePoint_bound c
    rw [units16, if_neg basic]
    apply CharUnits.pair <;> omega

theorem charUnits_iff {c : Char} {units : List Nat} : CharUnits c units ↔ units = units16 c := by
  constructor
  · intro form
    cases form with
    | single basic => rw [units16, if_pos basic]
    | @pair high low upper lower sum =>
        have front : (c.toNat - 65536) / 1024 = high := by omega
        have back : (c.toNat - 65536) % 1024 = low := by omega
        rw [units16, if_neg (by omega), front, back]
  · rintro rfl
    exact units16_spell c

theorem utf16_iff {text : List Char} {units : List Nat} :
    Utf16 text units ↔ units = text.flatMap units16 := by
  constructor
  · intro form
    induction form with
    | empty => rfl
    | more first rest ih => rw [List.flatMap_cons, ih, charUnits_iff.mp first]
  · rintro rfl
    induction text with
    | nil => exact .empty
    | cons c rest ih => exact .more (units16_spell c) ih

/-! ## Wrapping -/

def wrap32 (n : Int) : Int := n.bmod (2 ^ 32)

def signedStep (hash : Int) (unit : Nat) : Int := wrap32 (hash * 33 + unit)

theorem wrap32_iff {n word : Int} :
    word = wrap32 n ↔ -2 ^ 31 ≤ word ∧ word < 2 ^ 31 ∧ word ≡ n [ZMOD 2 ^ 32] := by
  rw [Int.ModEq, wrap32]
  constructor
  · rintro rfl
    exact ⟨Int.le_bmod (by decide), Int.bmod_lt (by decide), Int.bmod_emod⟩
  · rintro ⟨least, most, same⟩
    -- A signed word stays as it is, and cutting down sees no more of a number than its remainder.
    calc word = word.bmod (2 ^ 32) := (Int.bmod_eq_of_le least most).symm
      _ = (word % (2 ^ 32 : Nat)).bmod (2 ^ 32) := (Int.emod_bmod word (2 ^ 32)).symm
      _ = (n % (2 ^ 32 : Nat)).bmod (2 ^ 32) := congrArg (Int.bmod · (2 ^ 32)) same
      _ = n.bmod (2 ^ 32) := Int.emod_bmod n (2 ^ 32)

theorem wrap32_step (hash : Int) (unit : Nat) : signedStep (wrap32 hash) unit = signedStep hash unit := by
  simp only [signedStep, wrap32]
  rw [← Int.bmod_add_bmod, Int.bmod_mul_bmod, Int.bmod_add_bmod]

theorem signed32_wrap {word : Nat} (fits : word < 2 ^ 32) : signed32 word = wrap32 word := by
  rw [wrap32_iff, Int.ModEq, signed32]
  split <;> omega

theorem hashStep_fits (hash unit : Nat) : hashStep hash unit < 2 ^ 32 :=
  Nat.mod_lt _ (by decide)

theorem signed32_step {word : Nat} (fits : word < 2 ^ 32) (unit : Nat) :
    signed32 (hashStep word unit) = signedStep (signed32 word) unit := by
  have cut : wrap32 (hashStep word unit) = signedStep word unit := by
    rw [hashStep, Int.natCast_emod]
    exact Int.emod_bmod _ (2 ^ 32)
  rw [signed32_wrap (hashStep_fits word unit), signed32_wrap fits, wrap32_step, cut]

theorem signed32_run {word : Nat} (fits : word < 2 ^ 32) (units : List Nat) :
    signed32 (units.foldl hashStep word) = units.foldl signedStep (signed32 word) := by
  induction units generalizing word with
  | nil => rfl
  | cons unit rest ih =>
      rw [List.foldl_cons, List.foldl_cons, ih (hashStep_fits word unit), signed32_step fits]

theorem hashUnits_signed (units : List Nat) :
    signed32 (hashUnits units) = units.foldl signedStep 5381 :=
  signed32_run (by decide) units

/-! ## Sums -/

/-- The number that units make up in base 33 behind a seed. -/
def weighted (seed : Int) (units : List Nat) : Int :=
  seed * 33 ^ units.length + ∑ i : Fin units.length, units[i] * 33 ^ (units.length - 1 - i)

theorem weighted_cons (seed : Int) (unit : Nat) (rest : List Nat) :
    weighted seed (unit :: rest) = weighted (seed * 33 + unit) rest := by
  have later (i : Fin rest.length) : rest.length - (i + 1) = rest.length - 1 - i := by omega
  -- The first unit has the power that the seed has behind it; those of the others do not change.
  simp only [weighted, List.length_cons, Fin.sum_univ_succ]
  simp [later, pow_succ]
  ring

theorem signedStep_run (seed : Int) (units : List Nat) :
    units.foldl signedStep (wrap32 seed) = wrap32 (weighted seed units) := by
  -- The seed is not cut down in between, so that it can take up one unit after the other.
  induction units generalizing seed with
  | nil => simp [weighted]
  | cons unit rest ih => rw [List.foldl_cons, wrap32_step, signedStep, ih, weighted_cons]

/-! ## Hashes of texts -/

theorem hash_answer (subject : Name) :
    chance.catalogue.answer .transformation "to_hash" [] subject.toValue =
      .ok (.text (toString (textHash subject.label.toList))) := by
  rw [answer_transformation Edit.hash rfl rfl, ← decimal_usual]
  simp only [Edit.hash, plainEdit, Name.toValue_letters]
  rfl

/-- What is told of a text is the decimal form of a signed word of 32 bits. It is the only one that agrees
with the sum of the units of the text, weighted by powers of 33 behind the seed, and it is also what comes
out when the hash is cut down to a signed word after every unit. -/
theorem hash_is_a_signed_word (chance : Edit.Chance) (subject : Name) :
    ∃ units, Utf16 subject.label.toList units ∧
      ∃ hash : Int,
        chance.catalogue.answer .transformation "to_hash" [] subject.toValue =
          .ok (.text (toString hash)) ∧
        (∀ word : Int, word = hash ↔
          -2 ^ 31 ≤ word ∧ word < 2 ^ 31 ∧
            word ≡ 5381 * 33 ^ units.length +
              ∑ i : Fin units.length, units[i] * 33 ^ (units.length - 1 - i) [ZMOD 2 ^ 32]) ∧
        units.foldl signedStep 5381 = hash := by
  have run := hashUnits_signed (subject.label.toList.flatMap units16)
  refine ⟨_, utf16_iff.mpr rfl, _, hash_answer subject, ?_, run.symm⟩
  intro word
  rw [textHash, run, ← wrap32_iff]
  exact Eq.congr_right (signedStep_run 5381 _)

/-- The second character has two units. -/
example : Editing.toHash "a😀".toList = "195366243".toList := by decide

end TextChain
